import Mathlib
import Promptbook.Hash.Fnv

/-!
# Changes that a hash shows

A step of FNV-1a can be undone: exclusive or loses nothing, and the factor is odd, so that it has an inverse modulo
the size of a word (`fnvPrime_mul_fnvInverse`).  A step therefore keeps hashes apart and tells bytes apart
(`fnvStep_inj_hash`, `fnvStep_inj_byte`), and by induction hashes that are apart stay apart whatever bytes follow
(`fnvFrom_inj`).  Two texts whose encodings differ in one byte have hashes that part at this byte: `fnv_separates`.
-/

namespace Promptbook.Hash

open Promptbook.Text

/-! ### Steps -/

/-- The factor that undoes the factor of a step. -/
def fnvInverse : UInt32 := 899433627

theorem fnvPrime_mul_fnvInverse : fnvPrime * fnvInverse = 1 := by
  decide

theorem mul_fnvPrime_mul_fnvInverse (word : UInt32) : word * fnvPrime * fnvInverse = word := by
  rw [UInt32.mul_assoc, fnvPrime_mul_fnvInverse, UInt32.mul_one]

theorem mul_fnvPrime_inj {v w : UInt32} : v * fnvPrime = w * fnvPrime ↔ v = w := by
  constructor
  · intro h
    calc v = v * fnvPrime * fnvInverse := (mul_fnvPrime_mul_fnvInverse v).symm
      _ = w * fnvPrime * fnvInverse := by rw [h]
      _ = w := mul_fnvPrime_mul_fnvInverse w
  · rintro rfl
    rfl

variable {h h' : UInt32}

/-- The same byte keeps two hashes apart. -/
theorem fnvStep_inj_hash {byte : UInt8} : fnvStep h byte = fnvStep h' byte ↔ h = h' := by
  rw [fnvStep, fnvStep, mul_fnvPrime_inj, UInt32.xor_left_inj]

/-- A hash tells apart the bytes that are taken into it. -/
theorem fnvStep_inj_byte {b c : UInt8} : fnvStep h b = fnvStep h c ↔ b = c := by
  rw [fnvStep, fnvStep, mul_fnvPrime_inj, UInt32.xor_right_inj, UInt8.toUInt32_inj]

/-! ### Bytes that follow -/

theorem fnvFrom_cons (byte : UInt8) (data : List UInt8) : fnvFrom h (byte :: data) = fnvFrom (fnvStep h byte) data :=
  rfl

/-- The same bytes keep two hashes apart. -/
theorem fnvFrom_inj {data : List UInt8} : fnvFrom h data = fnvFrom h' data ↔ h = h' := by
  induction data generalizing h h' with
  | nil => rfl
  | cons byte data ih => rw [fnvFrom_cons, fnvFrom_cons, ih, fnvStep_inj_hash]

/-- Two lists of bytes of one length that differ at exactly one place. -/
def DifferOnce (xs ys : List UInt8) : Prop :=
  xs.length = ys.length ∧ ∃! i : Nat, xs[i]? ≠ ys[i]?

/-- Around the place at which they differ the lists are the same. -/
theorem DifferOnce.exists_split {xs ys : List UInt8} (hdiffer : DifferOnce xs ys) :
    ∃ before b c after, b ≠ c ∧ xs = before ++ b :: after ∧ ys = before ++ c :: after := by
  obtain ⟨hlength, i, hi, honly⟩ := hdiffer
  have hsame : ∀ j, j ≠ i → xs[j]? = ys[j]? := fun j hj => by_contra fun hne => hj (honly j hne)
  have hx : i < xs.length := by
    by_contra hlong
    rw [List.getElem?_eq_none (by omega), List.getElem?_eq_none (by omega)] at hi
    exact hi rfl
  have hy : i < ys.length := hlength ▸ hx
  have hbefore : xs.take i = ys.take i := by
    apply List.ext_getElem?
    intro j
    rw [List.getElem?_take, List.getElem?_take]
    split
    · exact hsame j (by omega)
    · rfl
  have hafter : xs.drop (i + 1) = ys.drop (i + 1) := by
    apply List.ext_getElem?
    intro j
    rw [List.getElem?_drop, List.getElem?_drop]
    exact hsame (i + 1 + j) (by omega)
  refine ⟨xs.take i, xs[i], ys[i], xs.drop (i + 1), ?_, ?_, ?_⟩
  · rw [List.getElem?_eq_getElem hx, List.getElem?_eq_getElem hy] at hi
    exact fun heq => hi (congrArg some heq)
  · rw [List.getElem_cons_drop, List.take_append_drop]
  · rw [hbefore, hafter, List.getElem_cons_drop, List.take_append_drop]

theorem fnvFrom_ne_of_differOnce {xs ys : List UInt8} (hdiffer : DifferOnce xs ys) : fnvFrom h xs ≠ fnvFrom h ys := by
  obtain ⟨before, b, c, after, hbytes, rfl, rfl⟩ := hdiffer.exists_split
  -- the hashes part at the byte that differs, and what comes after it is the same
  have hpart : fnvStep (fnvFrom h before) b ≠ fnvStep (fnvFrom h before) c := mt fnvStep_inj_byte.1 hbytes
  rw [fnvFrom_append, fnvFrom_append, fnvFrom_cons, fnvFrom_cons]
  exact mt fnvFrom_inj.1 hpart

/-! ### Texts -/

theorem fnv_eq_fnv_iff {s t : String} :
    fnv s = fnv t ↔ fnvFrom fnvBasis (utf8 s.toList) = fnvFrom fnvBasis (utf8 t.toList) := by
  rw [fnv, fnv, UInt32.toNat_inj]

theorem fnv_append (s suffix : String) :
    fnv (s ++ suffix) = (fnvFrom (fnvFrom fnvBasis (utf8 s.toList)) (utf8 suffix.toList)).toNat := by
  rw [fnv, String.toList_append, utf8, List.flatMap_append, fnvFrom_append]
  rfl

/-- The hash of a text is a 32-bit word.  Texts whose encodings have one length and differ in exactly one byte hash
apart, and a common ending neither joins the hashes of two texts nor parts them. -/
theorem fnv_separates (s t : String) :
    fnv s < 2 ^ 32 ∧ (DifferOnce (utf8 s.toList) (utf8 t.toList) → fnv s ≠ fnv t) ∧
      ∀ suffix, fnv (s ++ suffix) = fnv (t ++ suffix) ↔ fnv s = fnv t := by
  refine ⟨UInt32.toNat_lt _, ?_, ?_⟩
  · intro hdiffer
    exact mt fnv_eq_fnv_iff.1 (fnvFrom_ne_of_differOnce hdiffer)
  · intro suffix
    rw [fnv_append, fnv_append, UInt32.toNat_inj, fnvFrom_inj, fnv_eq_fnv_iff]

/-- Two seeds with an umlaut and another vowel differ in the second byte of one character. -/
theorem fnv_separates_umlauts :
    DifferOnce (utf8 "bär".toList) (utf8 "bör".toList) ∧ fnv "bär" ≠ fnv "bör" ∧
      fnv "bär:site_copy@3" ≠ fnv "bör:site_copy@3" := by
  have hdiffer : DifferOnce (utf8 "bär".toList) (utf8 "bör".toList) := by
    have hfirst : utf8 "bär".toList = [98, 195, 164, 114] := by decide +kernel
    have hsecond : utf8 "bör".toList = [98, 195, 182, 114] := by decide +kernel
    rw [hfirst, hsecond]
    refine ⟨rfl, 2, by decide, ?_⟩
    rintro (_ | _ | _ | _ | i) hi
    · exact absurd rfl hi
    · exact absurd rfl hi
    · rfl
    · exact absurd rfl hi
    · exact absurd rfl hi
  obtain ⟨-, happart, hsuffix⟩ := fnv_separates "bär" "bör"
  exact ⟨hdiffer, happart hdiffer, mt (hsuffix ":site_copy@3").1 (happart hdiffer)⟩

end Promptbook.Hash
