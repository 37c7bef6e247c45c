import Mathlib
import Promptbook.Text.Digit
import Promptbook.Text.Lines
import Promptbook.Text.Word

/-!
# Trimming

What `trim` and `strip` leave unchanged.  A text whose first and last characters stay is kept as it is
(`trim_eq_self`), and characters of the class at either end make no difference (`trim_append_of_all`,
`trim_of_all_append`).  Every line break is a blank, and neither a digit nor the start of a name is.
-/

namespace Promptbook.Text

variable {p : Char → Bool}

/-! ### Ends of a text -/

/-- Does the text neither start nor end with a character of the class? -/
def Bare (p : Char → Bool) (cs : List Char) : Prop :=
  (∀ c ∈ cs.head?, p c = false) ∧ ∀ c ∈ cs.getLast?, p c = false

theorem Bare.of_forall {cs : List Char} (h : ∀ c ∈ cs, p c = false) : Bare p cs :=
  ⟨fun c hc => h c (List.mem_of_mem_head? hc), fun c hc => h c (List.mem_of_mem_getLast? hc)⟩

theorem trim_eq_self {cs : List Char} (h : Bare p cs) : trim p cs = cs := by
  cases cs with
  | nil => rfl
  | cons c rest =>
    have hc : p c = false := h.1 c rfl
    have hfront : (c :: rest).dropWhile p = c :: rest := by simp [hc]
    rw [trim, hfront]
    refine List.rdropWhile_eq_self_iff.2 fun hne => ?_
    rw [h.2 _ (List.getLast?_eq_some_getLast hne)]
    decide

theorem bare_of_trim_eq_self {cs : List Char} (h : trim p cs = cs) : Bare p cs := by
  have hfront : cs.dropWhile p = cs := by
    have hlength : cs.length ≤ (cs.dropWhile p).length := by
      calc cs.length = (trim p cs).length := by rw [h]
        _ ≤ (cs.dropWhile p).length := (List.rdropWhile_prefix p (l := cs.dropWhile p)).length_le
    exact (List.dropWhile_suffix p).eq_of_length_le hlength
  rw [trim, hfront] at h
  constructor
  · intro c hc
    cases cs with
    | nil => cases hc
    | cons d rest =>
      obtain rfl : d = c := Option.some.inj hc
      by_contra hp
      rw [Bool.not_eq_false] at hp
      rw [List.dropWhile_cons_of_pos hp] at hfront
      have := congrArg List.length hfront
      have := (List.dropWhile_suffix p (l := rest)).length_le
      simp only [List.length_cons] at *
      omega
  · intro c hc
    have hne : cs ≠ [] := by
      rintro rfl
      cases hc
    have hlast := List.rdropWhile_eq_self_iff.1 h hne
    rw [List.getLast?_eq_some_getLast hne] at hc
    obtain rfl := Option.some.inj hc
    simpa using hlast

/-- Characters of the class behind a text make no difference. -/
theorem trim_append_of_all {cs ds : List Char} (h : ds.all p = true) : trim p (cs ++ ds) = trim p cs := by
  rw [List.all_eq_true] at h
  have hend : ∀ xs : List Char, dropEndWhile p (xs ++ ds) = dropEndWhile p xs := by
    intro xs
    rw [dropEndWhile, dropEndWhile, List.reverse_append, List.dropWhile_append_of_pos]
    simpa using h
  rw [trim, trim, List.dropWhile_append]
  split
  · next hnil =>
    rw [List.isEmpty_iff.1 hnil, ← List.nil_append (ds.dropWhile p)]
    refine List.rdropWhile_eq_nil_iff.2 fun c hc => h c ((List.dropWhile_sublist _).subset hc)
  · exact hend _

/-- Characters of the class before a text make no difference. -/
theorem trim_of_all_append {cs ds : List Char} (h : ds.all p = true) : trim p (ds ++ cs) = trim p cs := by
  rw [trim, trim, List.dropWhile_append_of_pos (List.all_eq_true.1 h)]

/-- A trimmed text starts with the first character that is not of the class. -/
theorem head?_trim (cs : List Char) : (trim p cs).head? = cs.find? fun c => !p c := by
  have hfront : cs.find? (fun c => !p c) = (cs.dropWhile p).head? := by
    simp [List.find?_eq_head?_dropWhile_not]
  rw [hfront, trim]
  cases hcs : cs.dropWhile p with
  | nil => rfl
  | cons c rest =>
    -- a character that was not dropped in front is not dropped at the end either
    have hc : p c = false := by
      have hne : cs.dropWhile p ≠ [] := by simp [hcs]
      have := List.head_dropWhile_not p hne
      simpa [hcs] using this
    obtain ⟨tail, htail⟩ := List.rdropWhile_prefix p (l := c :: rest)
    cases hend : dropEndWhile p (c :: rest) with
    | nil =>
      have hall := List.rdropWhile_eq_nil_iff.1 hend c List.mem_cons_self
      rw [hc] at hall
      cases hall
    | cons d ds =>
      rw [show List.rdropWhile p (c :: rest) = d :: ds from hend] at htail
      rw [List.head?_cons, List.head?_cons, (List.cons.inj htail).1]

/-- Trimming drops characters of the class only. -/
theorem filter_trim (cs : List Char) : (trim p cs).filter (fun c => !p c) = cs.filter fun c => !p c := by
  have hfront : ∀ xs : List Char, (xs.dropWhile p).filter (fun c => !p c) = xs.filter fun c => !p c := by
    intro xs
    induction xs with
    | nil => rfl
    | cons x xs ih =>
      by_cases hx : p x = true
      · simp [hx, ih]
      · simp [hx]
  rw [trim, dropEndWhile, List.filter_reverse, hfront, List.filter_reverse, List.reverse_reverse, hfront]

/-! ### Character classes -/

theorem isBlank_of_isLineBreak {c : Char} (h : isLineBreak c = true) : isBlank c = true := by
  simp only [isLineBreak, isBlank, isSpace, Bool.or_eq_true, Bool.and_eq_true, decide_eq_true_eq,
    beq_iff_eq] at h ⊢
  omega

theorem exists_digitZero {c : Char} (h : isDigit c = true) :
    ∃ z ∈ digitZeros, ∃ k < 10, c = Char.ofNat (z + k) := by
  simp only [isDigit, digitValue?, Option.isSome_map, List.find?_isSome, Bool.and_eq_true,
    decide_eq_true_eq] at h
  obtain ⟨z, hz, hle, hge⟩ := h
  refine ⟨z, hz, c.toNat - z, by omega, ?_⟩
  rw [Nat.add_sub_cancel' hle, Char.ofNat_toNat]

theorem isSpace_of_not_isBlank {c : Char} (h : isBlank c = false) : isSpace c = false := by
  by_contra hspace
  rw [Bool.not_eq_false] at hspace
  rw [isBlank_of_isSpace hspace] at h
  cases h

/-- No digit of any script is a blank. -/
theorem isBlank_of_isDigit {c : Char} (h : isDigit c = true) : isBlank c = false := by
  obtain ⟨z, hz, k, hk, rfl⟩ := exists_digitZero h
  have all : ∀ z ∈ digitZeros, ∀ k < 10, isBlank (Char.ofNat (z + k)) = false := by decide +kernel
  exact all z hz k hk

/-- No name starts with a blank. -/
theorem isBlank_of_isNameStart {c : Char} (h : isNameStart c = true) : isBlank c = false := by
  have all : ∀ n < 128, isNameStart (Char.ofNat n) = true → isBlank (Char.ofNat n) = false := by decide +kernel
  have := all c.toNat (toNat_lt_of_isNameStart h)
  rw [Char.ofNat_toNat] at this
  exact this h

theorem isSpace_of_isDigit {c : Char} (h : isDigit c = true) : isSpace c = false :=
  isSpace_of_not_isBlank (isBlank_of_isDigit h)

end Promptbook.Text
