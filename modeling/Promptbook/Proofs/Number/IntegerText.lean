import Mathlib
import Promptbook.Number.Reading

/-!
# Integers in decimal

What a reader of `intText` has to know: it consists of ASCII digits after at most one minus
(`eq_minus_or_digit_of_mem_intText`), different integers have different texts (`intText_inj`), and the text is
the sign with the digits of the magnitude (`splitSign_intText`).
-/

namespace Promptbook.Number

open Promptbook.Text

/-- A decimal digit as a character has the value of the digit. -/
theorem digitValue?_digitChar {d : Nat} (h : d < 10) : digitValue? (digitChar d) = some d := by
  have all : ∀ d < 10, digitValue? (digitChar d) = some d := by decide
  exact all d h

theorem isDigit_digitChar {d : Nat} (h : d < 10) : isDigit (digitChar d) = true := by
  simp [isDigit, digitValue?_digitChar h]

private theorem digitChar_inj {d e : Nat} (hd : d < 10) (he : e < 10) (h : digitChar d = digitChar e) : d = e := by
  have := digitValue?_digitChar hd
  rw [h, digitValue?_digitChar he] at this
  exact (Option.some.inj this).symm

/-- Lists with the same images are equal, if elements with the same image are. -/
theorem map_inj_of_mem {α β : Type} {f : α → β} {xs ys : List α} (hinj : ∀ x ∈ xs, ∀ y ∈ ys, f x = f y → x = y)
    (h : xs.map f = ys.map f) : xs = ys := by
  induction xs generalizing ys with
  | nil => exact (List.map_eq_nil_iff.1 h.symm).symm
  | cons x xs ih =>
    cases ys with
    | nil => cases h
    | cons y ys =>
      rw [List.map_cons, List.map_cons, List.cons.injEq] at h
      rw [hinj x List.mem_cons_self y List.mem_cons_self h.1,
        ih (fun z hz w hw => hinj z (List.mem_cons_of_mem _ hz) w (List.mem_cons_of_mem _ hw)) h.2]

theorem mem_natText {n : Nat} {c : Char} (h : c ∈ natText n) : ∃ d < 10, c = digitChar d := by
  obtain ⟨d, hd, rfl⟩ := List.mem_map.1 h
  exact ⟨d, lt_ten_of_mem_digits hd, rfl⟩

theorem natText_ne_nil (n : Nat) : natText n ≠ [] := by
  simp [natText, digits_ne_nil]

theorem natText_inj {m n : Nat} (h : natText m = natText n) : m = n := by
  have hdigits : digits m = digits n := map_inj_of_mem (fun d hd e he hde =>
    digitChar_inj (lt_ten_of_mem_digits hd) (lt_ten_of_mem_digits he) hde) h
  rw [← ofDigits_digits m, hdigits, ofDigits_digits]

private theorem minus_notMem_natText (n : Nat) : '-' ∉ natText n := by
  intro h
  obtain ⟨d, hd, hc⟩ := mem_natText h
  have all : ∀ d < 10, '-' ≠ digitChar d := by decide
  exact all d hd hc

/-- The characters of an integer's text. -/
theorem eq_minus_or_digit_of_mem_intText {n : Int} {c : Char} (h : c ∈ intText n) :
    c = '-' ∨ ∃ d < 10, c = digitChar d := by
  cases n with
  | ofNat n => exact .inr (mem_natText h)
  | negSucc n =>
    rcases List.mem_cons.1 h with rfl | h
    · exact .inl rfl
    · exact .inr (mem_natText h)

/-- A character that is neither a minus nor a digit does not stand in an integer's text. -/
theorem notMem_intText {c : Char} (hminus : c ≠ '-') (hdigit : ∀ d < 10, c ≠ digitChar d) (n : Int) :
    c ∉ intText n := by
  intro h
  rcases eq_minus_or_digit_of_mem_intText h with rfl | ⟨d, hd, rfl⟩
  · exact hminus rfl
  · exact hdigit d hd rfl

theorem intText_inj {m n : Int} (h : intText m = intText n) : m = n := by
  cases m with
  | ofNat m =>
    cases n with
    | ofNat n => exact congrArg Int.ofNat (natText_inj h)
    | negSucc n =>
      refine absurd ?_ (minus_notMem_natText m)
      rw [show natText m = '-' :: natText (n + 1) from h]
      exact List.mem_cons_self
  | negSucc m =>
    cases n with
    | ofNat n =>
      refine absurd ?_ (minus_notMem_natText n)
      rw [← show '-' :: natText (m + 1) = natText n from h]
      exact List.mem_cons_self
    | negSucc n =>
      have := natText_inj (List.cons.inj h).2
      rw [show m = n by omega]

/-- A number below a power of ten has at most that many digits. -/
theorem length_natText_le {n k : Nat} (hk : 0 < k) (h : n < 10 ^ k) : (natText n).length ≤ k := by
  have hlength : (natText n).length = (digits n).length := List.length_map _
  rw [hlength]
  induction k generalizing n with
  | zero => exact absurd hk (Nat.lt_irrefl 0)
  | succ k ih =>
    unfold digits
    split
    · simp
    · next hten =>
      have hpos : 0 < k := by
        rcases Nat.eq_zero_or_pos k with rfl | hpos
        · omega
        · exact hpos
      have hdiv : n / 10 < 10 ^ k := by
        rw [Nat.div_lt_iff_lt_mul (by decide)]
        rwa [Nat.pow_succ] at h
      have := ih hpos hdiv (List.length_map _)
      simp only [List.length_append, List.length_cons, List.length_nil]
      omega

theorem isLong_of_nonneg {n : Int} (hnonneg : 0 ≤ n) (h : n.toNat < 10 ^ digitLimit) : isLong n = false := by
  have habs : n.natAbs = n.toNat := by omega
  have hpow : ∀ k, n.toNat < 10 ^ k → n.toNat < Nat.pow 10 k := fun _ hk => hk
  rw [isLong_eq_false_iff, habs]
  unfold longInteger
  exact hpow digitLimit h

/-- An integer's text is its sign, if it is negative, and the digits of its magnitude. -/
theorem splitSign_intText (n : Int) : splitSign (intText n) = (decide (n < 0), natText n.natAbs) := by
  cases n with
  | ofNat n =>
    have hplain : splitSign (natText n) = (false, natText n) := by
      unfold splitSign
      split
      · next rest heq => exact absurd (heq ▸ List.mem_cons_self) (minus_notMem_natText n)
      · next rest heq =>
        obtain ⟨d, hd, hc⟩ := mem_natText (show '+' ∈ natText n from heq ▸ List.mem_cons_self)
        have all : ∀ d < 10, '+' ≠ digitChar d := by decide
        exact absurd hc (all d hd)
      · rfl
    have hsign : decide (Int.ofNat n < 0) = false := decide_eq_false (Int.not_lt.2 (Int.natCast_nonneg n))
    rw [hsign]
    exact hplain
  | negSucc n =>
    have hsign : decide (Int.negSucc n < 0) = true := decide_eq_true (Int.negSucc_lt_zero n)
    rw [hsign]
    rfl

end Promptbook.Number
