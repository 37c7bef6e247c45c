import Promptbook.Proofs.Number.Bits

/-!
# Where rounding overflows

The nearest floating point number to a quotient or a decimal is finite exactly if the exact value is below
`overflowBound`, half a unit beyond the largest finite number (`isFinite_ofRatio`, `isFinite_ofInt`,
`isFinite_ofDecimal`).  The proofs go through the exponent that rounding chooses: `exponentFor_spec` says that
the scaled quotient has 53 bits, or fewer at the least exponent.
-/

namespace Promptbook.Number

/-- The least magnitude that is rounded to an infinity. -/
def overflowBound : Nat :=
  (2 ^ 54 - 1) * 2 ^ 970

/-! ### Scaling -/

private theorem zpow_eq_div (q : Int) : (2 : ℚ) ^ q = 2 ^ q.toNat / 2 ^ (-q).toNat := by
  rcases Int.le_total 0 q with h | h
  · obtain ⟨n, rfl⟩ := Int.eq_ofNat_of_zero_le h
    simp
  · obtain ⟨n, hn⟩ := Int.eq_ofNat_of_zero_le (Int.neg_nonneg.2 h)
    obtain rfl : q = -n := by omega
    simp

private theorem scaled_lt_iff (num den k : Nat) (q : Int) :
    (scaleQuotient num den q).1 < k * (scaleQuotient num den q).2 ↔ (num : ℚ) < k * den * 2 ^ q := by
  have hpos : (0 : ℚ) < 2 ^ (-q).toNat := by positivity
  rw [zpow_eq_div, mul_div_assoc', lt_div_iff₀ hpos, ← Nat.cast_lt (α := ℚ)]
  simp only [scaleQuotient, Nat.pow_eq]
  push_cast
  rw [mul_assoc (k : ℚ)]

private theorem le_scaled_iff (num den k : Nat) (q : Int) :
    k * (scaleQuotient num den q).2 ≤ (scaleQuotient num den q).1 ↔ (k : ℚ) * den * 2 ^ q ≤ num := by
  rw [← not_lt, scaled_lt_iff, not_lt]

private theorem scaled_pos (num : Nat) {den : Nat} (hden : 0 < den) (q : Int) : 0 < (scaleQuotient num den q).2 :=
  Nat.mul_pos hden (Nat.two_pow_pos _)

/-! ### The exponent -/

private theorem lt_pow_log2 (n : Nat) : (n : ℚ) < 2 ^ ((n.log2 : ℤ) + 1) := by
  have := Nat.lt_log2_self (n := n)
  exact_mod_cast this

private theorem pow_log2_le {n : Nat} (h : 0 < n) : (2 : ℚ) ^ (n.log2 : ℤ) ≤ n := by
  have := Nat.log2_self_le (n := n) (by omega)
  exact_mod_cast this

/-- The binary logarithms place a quotient within a factor of four. -/
private theorem guess_bounds {num den : Nat} (hnum : 0 < num) (hden : 0 < den) :
    (num : ℚ) < 2 ^ 53 * den * 2 ^ ((num.log2 : ℤ) - den.log2 - 52) ∧
      2 ^ 51 * den * 2 ^ ((num.log2 : ℤ) - den.log2 - 52) ≤ (num : ℚ) := by
  have hlow := pow_log2_le hden
  have hhigh := (lt_pow_log2 den).le
  have split : (2 : ℚ) ^ (num.log2 : ℤ) =
      2 ^ 52 * 2 ^ (den.log2 : ℤ) * 2 ^ ((num.log2 : ℤ) - den.log2 - 52) := by
    rw [← zpow_natCast, ← zpow_add₀ two_ne_zero, ← zpow_add₀ two_ne_zero]
    congr 1
    push_cast
    ring
  have double : ∀ e : ℤ, (2 : ℚ) ^ (e + 1) = 2 * 2 ^ e := fun e => by rw [zpow_add_one₀ two_ne_zero, mul_comm]
  constructor
  · calc (num : ℚ) < 2 ^ ((num.log2 : ℤ) + 1) := lt_pow_log2 num
      _ = 2 ^ 53 * 2 ^ (den.log2 : ℤ) * 2 ^ ((num.log2 : ℤ) - den.log2 - 52) := by rw [double, split]; ring
      _ ≤ 2 ^ 53 * den * 2 ^ ((num.log2 : ℤ) - den.log2 - 52) := by gcongr
  · calc (2 ^ 51 * den * 2 ^ ((num.log2 : ℤ) - den.log2 - 52) : ℚ)
      _ ≤ 2 ^ 51 * 2 ^ ((den.log2 : ℤ) + 1) * 2 ^ ((num.log2 : ℤ) - den.log2 - 52) := by gcongr
      _ = 2 ^ (num.log2 : ℤ) := by rw [double, split]; ring
      _ ≤ num := pow_log2_le hnum

/-- At the chosen exponent the quotient has at most 53 bits, and all of them unless the exponent is the least. -/
theorem exponentFor_spec {num den : Nat} (hnum : 0 < num) (hden : 0 < den) :
    (num : ℚ) < 2 ^ 53 * den * 2 ^ exponentFor num den ∧ -1074 ≤ exponentFor num den ∧
      (-1074 < exponentFor num den → 2 ^ 52 * den * 2 ^ exponentFor num den ≤ (num : ℚ)) := by
  obtain ⟨hupper, hlower⟩ := guess_bounds hnum hden
  generalize hg : (num.log2 : ℤ) - den.log2 - 52 = g at hupper hlower
  have hexact : ∃ e : ℤ, exponentFor num den = max e (-1074) ∧ (num : ℚ) < 2 ^ 53 * den * 2 ^ e ∧
      2 ^ 52 * den * 2 ^ e ≤ (num : ℚ) := by
    have hdef : exponentFor num den =
        max (if (scaleQuotient num den g).1 / (scaleQuotient num den g).2 < 2 ^ 52 then g - 1 else g) (-1074) := by
      rw [← hg]
      rfl
    have htest : (scaleQuotient num den g).1 / (scaleQuotient num den g).2 < 2 ^ 52 ↔
        (num : ℚ) < 2 ^ 52 * den * 2 ^ g := by
      rw [Nat.div_lt_iff_lt_mul (scaled_pos num hden g), scaled_lt_iff]
      norm_num
    have hhalf : (2 : ℚ) ^ (g - 1) = 2 ^ g / 2 := by
      rw [zpow_sub_one₀ two_ne_zero, div_eq_mul_inv]
    -- with the guess the quotient has 52 or 53 bits, or one less
    by_cases hlt : (num : ℚ) < 2 ^ 52 * den * 2 ^ g
    · refine ⟨g - 1, by rw [hdef, if_pos (htest.2 hlt)], ?_, ?_⟩ <;> rw [hhalf] <;> linarith
    · exact ⟨g, by rw [hdef, if_neg (mt htest.1 hlt)], hupper, not_lt.1 hlt⟩
  obtain ⟨e, he, hbelow, habove⟩ := hexact
  rw [he]
  refine ⟨hbelow.trans_le ?_, le_max_right _ _, ?_⟩
  · have : (2 : ℚ) ^ e ≤ 2 ^ max e (-1074) := zpow_le_zpow_right₀ one_le_two (le_max_left _ _)
    gcongr
  · intro hleast
    have : max e (-1074) = e := by omega
    rwa [this]

/-! ### Finite results -/

private theorem le_roundQuotient {num den k : Nat} (hden : 0 < den) (h : k * den ≤ num) :
    k ≤ roundQuotient num den := by
  have : k ≤ num / den := (Nat.le_div_iff_mul_le hden).2 h
  simp only [roundQuotient]
  split
  · exact this
  · split <;> omega

private theorem roundQuotient_le {num den k : Nat} (hden : 0 < den) (h : num < k * den) :
    roundQuotient num den ≤ k := by
  have : num / den < k := (Nat.div_lt_iff_lt_mul hden).2 h
  simp only [roundQuotient]
  split
  · omega
  · split <;> omega

/-- An even number is reached by rounding from half a unit below it on. -/
private theorem roundQuotient_lt_iff {num den k : Nat} (hden : 0 < den) :
    roundQuotient num den < 2 * k + 2 ↔ 2 * num < (4 * k + 3) * den := by
  have hdiv : den * (num / den) + num % den = num := Nat.div_add_mod num den
  have hrest : num % den < den := Nat.mod_lt num hden
  have hright : (4 * k + 3) * den = 4 * (den * k) + 3 * den := by ring
  simp only [roundQuotient]
  rw [hright]
  generalize num / den = a at *
  generalize num % den = r at *
  -- only at the odd quotient below does the rest decide
  rcases Nat.lt_trichotomy a (2 * k + 1) with h | h | h
  · have : den * a ≤ den * (2 * k) := Nat.mul_le_mul_left den (by omega)
    have : den * (2 * k) = 2 * (den * k) := by ring
    split
    · omega
    · split <;> omega
  · have : den * a = 2 * (den * k) + den := by rw [h]; ring
    split
    · omega
    · split <;> omega
  · have : den * (2 * k + 2) ≤ den * a := Nat.mul_le_mul_left den (by omega)
    have : den * (2 * k + 2) = 2 * (den * k) + 2 * den := by ring
    split
    · omega
    · split <;> omega

private theorem overflowBound_eq : (overflowBound : ℚ) = (2 ^ 54 - 1) * 2 ^ (970 : ℤ) := by
  rw [overflowBound, Nat.cast_mul, Nat.cast_pow, ← zpow_natCast]
  congr 1
  norm_num

private theorem overflowBound_pos : 0 < overflowBound := by
  rw [overflowBound]
  positivity

/-- Below the largest exponent even a mantissa that carries is below the bound. -/
private theorem lt_bound_of_exponent_lt {num den : Nat} {q : Int} (h : (num : ℚ) < 2 ^ 53 * den * 2 ^ q)
    (hq : q < 971) : (num : ℚ) < (2 ^ 54 - 1) * 2 ^ (970 : ℤ) * den := by
  have hpow : (2 : ℚ) ^ q ≤ 2 ^ (970 : ℤ) := zpow_le_zpow_right₀ one_le_two (by omega)
  have hpos : (0 : ℚ) < 2 ^ (970 : ℤ) := by positivity
  generalize (2 : ℚ) ^ (970 : ℤ) = top at hpow hpos ⊢
  calc (num : ℚ) < 2 ^ 53 * den * 2 ^ q := h
    _ ≤ 2 ^ 53 * den * top := by gcongr
    _ = 2 ^ 53 * top * den := by ring
    _ ≤ (2 ^ 54 - 1) * top * den := by gcongr; norm_num

/-- Above the largest exponent even the least mantissa is beyond the bound. -/
private theorem bound_le_of_lt_exponent {num den : Nat} {q : Int} (h : 2 ^ 52 * den * 2 ^ q ≤ (num : ℚ))
    (hq : 971 < q) : (2 ^ 54 - 1) * 2 ^ (970 : ℤ) * den ≤ (num : ℚ) := by
  have hpow : (2 : ℚ) ^ (972 : ℤ) ≤ 2 ^ q := zpow_le_zpow_right₀ one_le_two (by omega)
  calc ((2 ^ 54 - 1) * 2 ^ (970 : ℤ) * den : ℚ)
    _ ≤ 2 ^ 54 * 2 ^ (970 : ℤ) * den := by gcongr; norm_num
    _ = 2 ^ 52 * den * 2 ^ (972 : ℤ) := by
      rw [show (972 : ℤ) = 970 + 2 from rfl, zpow_add₀ two_ne_zero]
      ring
    _ ≤ 2 ^ 52 * den * 2 ^ q := by gcongr
    _ ≤ num := h

/-- At the largest exponent the mantissa carries exactly from the bound on. -/
private theorem mantissa_lt_iff (num : Nat) {den : Nat} (hden : 0 < den) :
    roundQuotient (scaleQuotient num den 971).1 (scaleQuotient num den 971).2 < 2 ^ 53 ↔
      (num : ℚ) < (2 ^ 54 - 1) * 2 ^ (970 : ℤ) * den := by
  have hcarry : roundQuotient (scaleQuotient num den 971).1 (scaleQuotient num den 971).2 < 2 ^ 53 ↔
      2 * (scaleQuotient num den 971).1 < (2 ^ 54 - 1) * (scaleQuotient num den 971).2 :=
    roundQuotient_lt_iff (k := 2 ^ 52 - 1) (scaled_pos num hden 971)
  have hdouble : 2 * (scaleQuotient num den 971).1 < (2 ^ 54 - 1) * (scaleQuotient num den 971).2 ↔
      ((2 * num : ℕ) : ℚ) < (2 ^ 54 - 1 : ℕ) * den * 2 ^ (971 : ℤ) := by
    rw [← scaled_lt_iff, show 2 * (scaleQuotient num den 971).1 = (scaleQuotient (2 * num) den 971).1 from
      (Nat.mul_assoc _ _ _).symm]
    rfl
  have hhalf : (2 : ℚ) ^ (971 : ℤ) = 2 * 2 ^ (970 : ℤ) := by
    rw [show (971 : ℤ) = 970 + 1 from rfl, zpow_add_one₀ two_ne_zero, mul_comm]
  have htop : ((2 ^ 54 - 1 : ℕ) : ℚ) = 2 ^ 54 - 1 := by norm_num
  rw [hcarry, hdouble, hhalf, htop, Nat.cast_mul, Nat.cast_ofNat]
  constructor <;> intro h <;> linarith

/-- The nearest number to a quotient is finite exactly below the bound. -/
theorem isFinite_ofRatio (negative : Bool) (num : Nat) {den : Nat} (hden : 0 < den) :
    isFinite (ofRatio negative num den) = true ↔ num < overflowBound * den := by
  rcases Nat.eq_zero_or_pos num with rfl | hnum
  · have hright : 0 < overflowBound * den := Nat.mul_pos overflowBound_pos hden
    have hleft : isFinite (ofRatio negative 0 den) = true := by simp [ofRatio, isFinite_ofMagnitudeBits]
    exact iff_of_true hleft hright
  obtain ⟨hupper, hleast, hlower⟩ := exponentFor_spec hnum hden
  generalize hq : exponentFor num den = q at hupper hleast hlower
  generalize hm : roundQuotient (scaleQuotient num den q).1 (scaleQuotient num den q).2 = m
  have hbits : isFinite (ofRatio negative num den) = true ↔ (q + 1074).toNat * 2 ^ 52 + m < 2047 * 2 ^ 52 := by
    have hzero : ¬num = 0 := by omega
    simp only [ofRatio, Nat.pow_eq, beq_iff_eq, if_neg hzero, hq, hm]
    split
    · next h => exact iff_of_false (by rw [isFinite_infinity]; decide) (not_lt.2 h)
    · next h => rw [isFinite_ofMagnitudeBits negative (not_le.1 h).le, decide_eq_true_iff]
  have hbound : num < overflowBound * den ↔ (num : ℚ) < (2 ^ 54 - 1) * 2 ^ (970 : ℤ) * den := by
    rw [← overflowBound_eq]
    exact_mod_cast Iff.rfl
  have hscaled := scaled_pos num hden q
  rw [hbits, hbound]
  -- only at the exponent 971 does the mantissa decide
  rcases lt_trichotomy q 971 with hlt | rfl | hgt
  · have hmantissa : m ≤ 2 ^ 53 := by
      rw [← hm]
      apply roundQuotient_le hscaled
      rw [scaled_lt_iff]
      exact_mod_cast hupper
    exact iff_of_true (by omega) (lt_bound_of_exponent_lt hupper hlt)
  · rw [← mantissa_lt_iff num hden, hm]
    omega
  · have hmantissa : 2 ^ 52 ≤ m := by
      rw [← hm]
      apply le_roundQuotient hscaled
      rw [le_scaled_iff]
      exact_mod_cast hlower (by omega)
    exact iff_of_false (by omega) (not_lt.2 (bound_le_of_lt_exponent (hlower (by omega)) hgt))

/-- The nearest number to an integer is finite exactly below the bound. -/
theorem isFinite_ofInt (n : Int) : isFinite (ofInt n) = true ↔ n.natAbs < overflowBound := by
  rw [ofInt, isFinite_ofRatio _ _ Nat.one_pos, Nat.mul_one]

/-! ### Decimals -/

private theorem foldl_digits (ds : List Nat) (n : Nat) :
    ds.foldl (fun n d => 10 * n + d) n = n * 10 ^ ds.length + ofDigits ds := by
  induction ds generalizing n with
  | nil => simp [ofDigits]
  | cons d ds ih =>
    have hfirst : ofDigits (d :: ds) = (10 * 0 + d) * 10 ^ ds.length + ofDigits ds := ih (10 * 0 + d)
    rw [List.foldl_cons, ih, hfirst, List.length_cons]
    ring

private theorem ofDigits_cons (d : Nat) (ds : List Nat) : ofDigits (d :: ds) = d * 10 ^ ds.length + ofDigits ds := by
  rw [ofDigits, List.foldl_cons, foldl_digits]
  ring

theorem ofDigits_lt {ds : List Nat} (h : ∀ d ∈ ds, d < 10) : ofDigits ds < 10 ^ ds.length := by
  induction ds with
  | nil => simp [ofDigits]
  | cons d ds ih =>
    have htail := ih fun x hx => h x (List.mem_cons_of_mem _ hx)
    have hhead : d * 10 ^ ds.length ≤ 9 * 10 ^ ds.length :=
      Nat.mul_le_mul_right _ (Nat.le_of_lt_succ (h d List.mem_cons_self))
    rw [ofDigits_cons, List.length_cons, pow_succ]
    omega

/-- Leading zeros do not count. -/
private theorem ofDigits_dropWhile (ds : List Nat) : ofDigits (ds.dropWhile (· == 0)) = ofDigits ds := by
  induction ds with
  | nil => rfl
  | cons d ds ih =>
    by_cases hd : d = 0
    · simp [hd, ih, ofDigits_cons]
    · simp [hd]

private theorem le_ofDigits_dropWhile (ds : List Nat) (h : ds.dropWhile (· == 0) ≠ []) :
    10 ^ (ds.dropWhile (· == 0)).length ≤ 10 * ofDigits ds := by
  rw [← ofDigits_dropWhile ds]
  have hfirst := List.head_dropWhile_not (fun d => d == 0) h
  cases hsig : ds.dropWhile (· == 0) with
  | nil => exact absurd hsig h
  | cons d rest =>
    have hd : 1 ≤ d := by
      simp only [hsig, List.head_cons, beq_eq_false_iff_ne] at hfirst
      omega
    rw [ofDigits_cons, List.length_cons, pow_succ]
    nlinarith [Nat.pow_pos (n := rest.length) (show 0 < 10 by decide)]

theorem ten_pow_lt_overflowBound : 10 ^ 308 < overflowBound := by
  decide +kernel

private theorem overflowBound_le_ten_pow : overflowBound ≤ 10 ^ 309 := by
  decide +kernel

private theorem one_lt_overflowBound : (1 : ℚ) < overflowBound := by
  exact_mod_cast lt_of_le_of_lt (Nat.one_le_pow _ _ (by decide)) ten_pow_lt_overflowBound

/-- The number of the digits of a decimal and its exponent bound it from above. -/
private theorem mul_zpow_lt {n k : Nat} (h : n < 10 ^ k) (e : Int) : (n : ℚ) * 10 ^ e < 10 ^ (e + k) := by
  have hcast : (n : ℚ) < 10 ^ k := by exact_mod_cast h
  rw [zpow_add₀ (by norm_num), mul_comm, zpow_natCast]
  gcongr

/-- The number of the digits of a decimal and its exponent bound it from below. -/
private theorem zpow_le_mul {n k : Nat} (h : 10 ^ k ≤ 10 * n) (e : Int) :
    (10 : ℚ) ^ (e + k) ≤ 10 * (n * 10 ^ e) := by
  have hcast : (10 : ℚ) ^ k ≤ 10 * n := by exact_mod_cast h
  rw [zpow_add₀ (by norm_num), mul_comm, zpow_natCast, ← mul_assoc]
  gcongr

private theorem lt_overflowBound_of_zpow_le_one {n k : Nat} {e : Int} (h : n < 10 ^ k) (hsize : e + k ≤ -324) :
    (n : ℚ) * 10 ^ e < overflowBound := by
  calc (n : ℚ) * 10 ^ e < 10 ^ (e + k) := mul_zpow_lt h e
    _ ≤ 1 := zpow_le_one_of_nonpos₀ (by norm_num) (by omega)
    _ < overflowBound := one_lt_overflowBound

private theorem overflowBound_le_of_zpow_le {n k : Nat} {e : Int} (h : 10 ^ k ≤ 10 * n) (hsize : 310 ≤ e + k) :
    (overflowBound : ℚ) ≤ n * 10 ^ e := by
  have hbelow : (overflowBound : ℚ) ≤ 10 ^ 309 := by exact_mod_cast overflowBound_le_ten_pow
  have habove : (10 : ℚ) ^ ((309 : ℕ) + 1 : ℤ) ≤ 10 * (n * 10 ^ e) :=
    (zpow_le_zpow_right₀ (by norm_num) hsize).trans (zpow_le_mul h e)
  rw [zpow_add_one₀ (by norm_num), zpow_natCast] at habove
  generalize (10 : ℚ) ^ 309 = bound at habove hbelow
  linarith

/-- A decimal of moderate size is rounded as a quotient. -/
private theorem isFinite_ofRatio_decimal (negative : Bool) (n : Nat) (e : Int) :
    isFinite (if 0 ≤ e then ofRatio negative (n * 10 ^ e.toNat) 1 else ofRatio negative n (10 ^ (-e).toNat)) = true ↔
      (n : ℚ) * 10 ^ e < overflowBound := by
  split
  · next hsign =>
    obtain ⟨k, rfl⟩ := Int.eq_ofNat_of_zero_le hsign
    rw [isFinite_ofRatio _ _ Nat.one_pos, Nat.mul_one]
    simp only [Int.toNat_natCast, zpow_natCast]
    exact_mod_cast Iff.rfl
  · next hsign =>
    obtain ⟨k, hk⟩ := Int.eq_ofNat_of_zero_le (show 0 ≤ -e by omega)
    obtain rfl : e = -k := by omega
    have hpow : (0 : ℚ) < 10 ^ k := by positivity
    rw [isFinite_ofRatio _ _ (by positivity), neg_neg, Int.toNat_natCast, zpow_neg, zpow_natCast,
      ← div_eq_mul_inv, div_lt_iff₀ hpow]
    exact_mod_cast Iff.rfl

/-- The nearest number to a decimal is finite exactly below the bound. -/
theorem isFinite_ofDecimal (negative : Bool) {ds : List Nat} (hds : ∀ d ∈ ds, d < 10) (e : Int) :
    isFinite (ofDecimal negative ds e) = true ↔ (ofDigits ds : ℚ) * 10 ^ e < overflowBound := by
  have hsig : ∀ d ∈ ds.dropWhile (· == 0), d < 10 := fun d hd => hds d ((List.dropWhile_sublist _).subset hd)
  have hupper := ofDigits_lt hsig
  have hlower := le_ofDigits_dropWhile ds
  rw [ofDigits_dropWhile] at hupper
  simp only [ofDecimal, ofDigits_dropWhile]
  generalize ds.dropWhile (· == 0) = significant at hupper hlower ⊢
  generalize ofDigits ds = n at hupper hlower ⊢
  have hfinite : isFinite (ofMagnitudeBits negative 0) = true := by simp [isFinite_ofMagnitudeBits]
  -- the tests on the size of the decimal only save work: they agree with the bound
  by_cases hempty : significant = []
  · have hzero : n = 0 := by simpa [hempty] using hupper
    rw [hempty, hzero, List.isEmpty_nil, Bool.true_or, if_pos rfl, Nat.cast_zero, zero_mul]
    exact iff_of_true hfinite (by exact_mod_cast overflowBound_pos)
  have hnonempty : significant.isEmpty = false := by simpa using hempty
  rw [hnonempty, Bool.false_or]
  by_cases hsmall : e + significant.length ≤ -324
  · rw [if_pos (decide_eq_true (show e + Int.ofNat significant.length ≤ -324 from hsmall))]
    exact iff_of_true hfinite (lt_overflowBound_of_zpow_le_one hupper hsmall)
  rw [if_neg (by simpa using hsmall)]
  split
  · next hlarge =>
    exact iff_of_false (by simp [isFinite_infinity]) (not_lt.2 (overflowBound_le_of_zpow_le (hlower hempty) hlarge))
  · exact isFinite_ofRatio_decimal negative n e

end Promptbook.Number
