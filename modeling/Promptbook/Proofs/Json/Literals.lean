import Mathlib
import Promptbook.Json.Basic

/-!
# Literals of texts

The escapes of characters are a prefix code: what follows an escape does not change how it is read
(`escapeToAscii_append_inj`).  So the literal of a text ends where it ends, whatever stands behind it
(`textLiteral_append_inj`), and a quote inside a text is never taken for the closing one.
-/

namespace Promptbook.Json

open Promptbook.Number

/-! ### Texts one after the other -/

/-- Do the texts of two things show where they end, if what follows them is as it should be? -/
def Separates {α : Type} (follows : List Char → Prop) (f : α → List Char) (x y : α) : Prop :=
  ∀ ⦃r r' : List Char⦄, follows r → follows r' → f x ++ r = f y ++ r' → x = y ∧ r = r'

/-- Texts that show where they end are read one after the other, up to a character with which none of them begins. -/
theorem flatMap_append_inj {α : Type} {follows : List Char → Prop} {f : α → List Char} {stop : Char} {xs ys : List α}
    {r r' : List Char} (hfirst : ∀ x, ∃ first rest, first ≠ stop ∧ f x = first :: rest)
    (hfollows : ∀ (zs : List α) (rest : List Char), follows (zs.flatMap f ++ stop :: rest))
    (hparts : ∀ x ∈ xs, ∀ y ∈ ys, Separates follows f x y)
    (h : xs.flatMap f ++ stop :: r = ys.flatMap f ++ stop :: r') : xs = ys ∧ r = r' := by
  induction xs generalizing ys with
  | nil =>
    cases ys with
    | nil => exact ⟨rfl, (List.cons.inj h).2⟩
    | cons y ys =>
      obtain ⟨first, rest, hstop, hy⟩ := hfirst y
      rw [List.flatMap_cons, hy] at h
      exact absurd (List.cons.inj h).1.symm hstop
  | cons x xs ih =>
    cases ys with
    | nil =>
      obtain ⟨first, rest, hstop, hx⟩ := hfirst x
      rw [List.flatMap_cons, hx] at h
      exact absurd (List.cons.inj h).1 hstop
    | cons y ys =>
      rw [List.flatMap_cons, List.flatMap_cons, List.append_assoc, List.append_assoc] at h
      obtain ⟨rfl, hrest⟩ := hparts x List.mem_cons_self y List.mem_cons_self (hfollows xs r) (hfollows ys r') h
      have hlater : ∀ z ∈ xs, ∀ w ∈ ys, Separates follows f z w := fun z hz w hw =>
        hparts z (List.mem_cons_of_mem _ hz) w (List.mem_cons_of_mem _ hw)
      obtain ⟨rfl, hafter⟩ := ih hlater hrest
      exact ⟨rfl, hafter⟩

/-! ### Hexadecimal numbers -/

/-- The value of a hexadecimal digit. -/
def hexDigitValue (c : Char) : Nat :=
  "0123456789abcdef".toList.idxOf c

/-- The number that hexadecimal digits denote, most significant first. -/
def hexValue (cs : List Char) : Nat :=
  cs.foldl (fun n c => 16 * n + hexDigitValue c) 0

private theorem hexDigitValue_digitChar {d : Nat} (h : d < 16) : hexDigitValue d.digitChar = d := by
  have all : ∀ d < 16, hexDigitValue (Nat.digitChar d) = d := by decide
  exact all d h

private theorem hexValue_append_singleton (cs : List Char) (c : Char) :
    hexValue (cs ++ [c]) = 16 * hexValue cs + hexDigitValue c := by
  rw [hexValue, List.foldl_append]
  rfl

theorem hexValue_toDigits (n : Nat) : hexValue (Nat.toDigits 16 n) = n := by
  induction n using Nat.strongRecOn with
  | ind n ih =>
    rw [Nat.toDigits_eq_if (by decide)]
    split
    · next hsmall =>
      have hdigit := hexDigitValue_digitChar hsmall
      simpa [hexValue] using hdigit
    · have hdigit := hexDigitValue_digitChar (Nat.mod_lt n (show 0 < 16 by decide))
      rw [hexValue_append_singleton, ih (n / 16) (by omega), hdigit]
      omega

private theorem hexValue_zeros_append (k : Nat) (cs : List Char) :
    hexValue (List.replicate k '0' ++ cs) = hexValue cs := by
  induction k with
  | zero => rfl
  | succ k ih =>
    rw [List.replicate_succ, List.cons_append, ← ih]
    rfl

theorem hexValue_hexText (width n : Nat) : hexValue (hexText width n) = n := by
  rw [hexText, hexValue_zeros_append, hexValue_toDigits]

theorem length_hexText {width n : Nat} (hwidth : 0 < width) (h : n < 16 ^ width) :
    (hexText width n).length = width := by
  have hdigits : (Nat.toDigits 16 n).length ≤ width := (Nat.length_toDigits_le_iff (by decide) hwidth).2 h
  rw [hexText, List.length_append, List.length_replicate]
  omega

/-! ### Escapes -/

private theorem escapeUnit_append_inj {m n : Nat} (hm : m < 65536) (hn : n < 65536) {r r' : List Char}
    (h : escapeUnit m ++ r = escapeUnit n ++ r') : m = n ∧ r = r' := by
  simp only [escapeUnit, List.cons_append, List.cons.injEq, true_and] at h
  have hlength : (hexText 4 m).length = (hexText 4 n).length := by
    rw [length_hexText (by decide) hm, length_hexText (by decide) hn]
  obtain ⟨htext, hrest⟩ := List.append_inj h hlength
  refine ⟨?_, hrest⟩
  rw [← hexValue_hexText 4 m, htext, hexValue_hexText]

/-- A character is no surrogate, so one unit is never taken for the first of a pair. -/
private theorem escapeUnits_append_inj {c d : Char} {r r' : List Char}
    (h : escapeUnits c.toNat ++ r = escapeUnits d.toNat ++ r') : c = d ∧ r = r' := by
  have hc : c.toNat < 55296 ∨ 57343 < c.toNat ∧ c.toNat < 1114112 := c.valid
  have hd : d.toNat < 55296 ∨ 57343 < d.toNat ∧ d.toNat < 1114112 := d.valid
  suffices hsame : c.toNat = d.toNat ∧ r = r' from ⟨Char.toNat_inj.1 hsame.1, hsame.2⟩
  rw [escapeUnits, escapeUnits] at h
  split at h <;> split at h
  · next hcs hds => exact escapeUnit_append_inj hcs hds h
  · next hcs hds =>
    rw [List.append_assoc] at h
    have hunit := (escapeUnit_append_inj hcs (by omega) h).1
    omega
  · next hcs hds =>
    rw [List.append_assoc] at h
    have hunit := (escapeUnit_append_inj (by omega) hds h).1
    omega
  · next hcs hds =>
    rw [List.append_assoc, List.append_assoc] at h
    obtain ⟨hhigh, hrest⟩ := escapeUnit_append_inj (by omega) (by omega) h
    obtain ⟨hlow, hrest⟩ := escapeUnit_append_inj (by omega) (by omega) hrest
    exact ⟨by omega, hrest⟩

private theorem escapeUnits_eq_cons (n : Nat) : ∃ rest, escapeUnits n = '\\' :: 'u' :: rest := by
  have hunit : ∀ (unit : Nat) (rest : List Char),
      escapeUnit unit ++ rest = '\\' :: 'u' :: (hexText 4 unit ++ rest) := fun _ _ => rfl
  rw [escapeUnits]
  split
  · exact ⟨hexText 4 n, rfl⟩
  · exact ⟨_, hunit _ _⟩

/-- The characters with an escape of two characters, each with the second of these. -/
private def shortEscapes : List (Char × Char) :=
  [('"', '"'), ('\\', '\\'), ('\n', 'n'), ('\r', 'r'), ('\t', 't'), ('\x08', 'b'), ('\x0c', 'f')]

private theorem mem_shortEscapes {c e : Char} (h : shortEscape? c = some e) : (c, e) ∈ shortEscapes := by
  simp only [shortEscape?, Bool.or_eq_true, beq_iff_eq] at h
  grind [shortEscapes]

/-- A character has a short escape, or stands for itself, or is escaped by its units. -/
private theorem escapeToAscii_cases (c : Char) :
    (∃ e, (c, e) ∈ shortEscapes ∧ escapeToAscii c = ['\\', e]) ∨
      (c ≠ '"' ∧ c ≠ '\\' ∧ escapeToAscii c = [c]) ∨ escapeToAscii c = escapeUnits c.toNat := by
  rw [escapeToAscii]
  cases hshort : shortEscape? c with
  | some e => exact .inl ⟨e, mem_shortEscapes hshort, rfl⟩
  | none =>
    have hquote : c ≠ '"' := by
      rintro rfl
      cases hshort
    have hbackslash : c ≠ '\\' := by
      rintro rfl
      cases hshort
    dsimp only
    split
    · exact .inr (.inl ⟨hquote, hbackslash, rfl⟩)
    · exact .inr (.inr rfl)

/-- No escape is the beginning of another one. -/
theorem escapeToAscii_append_inj {c d : Char} {r r' : List Char} (h : escapeToAscii c ++ r = escapeToAscii d ++ r') :
    c = d ∧ r = r' := by
  have hshorts : ∀ p ∈ shortEscapes, p.2 ≠ 'u' ∧ ∀ q ∈ shortEscapes, p.2 = q.2 → p.1 = q.1 := by decide
  obtain ⟨units, hunits⟩ := escapeUnits_eq_cons c.toNat
  obtain ⟨others, hothers⟩ := escapeUnits_eq_cons d.toNat
  rcases escapeToAscii_cases c with ⟨e, hc, hce⟩ | ⟨-, hcb, hce⟩ | hce <;>
    rcases escapeToAscii_cases d with ⟨f, hd, hdf⟩ | ⟨-, hdb, hdf⟩ | hdf <;> rw [hce, hdf] at h
  · simp only [List.cons_append, List.nil_append, List.cons.injEq, true_and] at h
    exact ⟨(hshorts _ hc).2 _ hd h.1, h.2⟩
  · exact absurd (List.cons.inj h).1.symm hdb
  · rw [hothers] at h
    exact absurd (List.cons.inj (List.cons.inj h).2).1 (hshorts _ hc).1
  · exact absurd (List.cons.inj h).1 hcb
  · exact List.cons.inj h
  · rw [hothers] at h
    exact absurd (List.cons.inj h).1 hcb
  · rw [hunits] at h
    exact absurd (List.cons.inj (List.cons.inj h).2).1.symm (hshorts _ hd).1
  · rw [hunits] at h
    exact absurd (List.cons.inj h).1.symm hdb
  · exact escapeUnits_append_inj h

private theorem escapeToAscii_eq_cons (c : Char) : ∃ first rest, first ≠ '"' ∧ escapeToAscii c = first :: rest := by
  obtain ⟨units, hunits⟩ := escapeUnits_eq_cons c.toNat
  rcases escapeToAscii_cases c with ⟨e, -, hce⟩ | ⟨hquote, -, hce⟩ | hce
  · exact ⟨_, _, by decide, hce⟩
  · exact ⟨_, _, hquote, hce⟩
  · exact ⟨_, _, by decide, hce.trans hunits⟩

/-! ### Literals -/

/-- The literal of a text shows where it ends. -/
theorem textLiteral_append_inj {s t : String} {r r' : List Char}
    (h : textLiteral .compact s ++ r = textLiteral .compact t ++ r') : s = t ∧ r = r' := by
  have hliteral : ∀ (u : String) (rest : List Char),
      textLiteral .compact u ++ rest = '"' :: (u.toList.flatMap escapeToAscii ++ '"' :: rest) := by
    intro u rest
    rw [textLiteral, List.cons_append, List.cons_append, List.append_assoc]
    rfl
  rw [hliteral, hliteral] at h
  -- escapes ask nothing of what follows them
  have hescapes : ∀ c d, Separates (fun _ => True) escapeToAscii c d := fun c d r r' _ _ htexts =>
    escapeToAscii_append_inj htexts
  obtain ⟨htext, hrest⟩ : s.toList = t.toList ∧ r = r' := by
    refine flatMap_append_inj escapeToAscii_eq_cons ?_ (fun c _ d _ => hescapes c d) (List.cons.inj h).2
    exact fun _ _ => trivial
  exact ⟨String.toList_inj.1 htext, hrest⟩

end Promptbook.Json
