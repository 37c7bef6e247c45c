import Promptbook.Number.Binary64
import Promptbook.Number.Exact

/-!
# What numbers amount to

An integer, a floating point number and a decimal may amount to the same: `2`, `2.0` and `2.00` do.  An
`Amount` is what a number stands for, in one form for all three: `± core · 2^twos · 5^fives` with a core that
neither two nor five divides.  `divideOut_mul_pow` and `not_dvd_divideOut` say that the factors taken out of a
core are those and all of them, so numbers are equal exactly if their amounts are.
-/

namespace Promptbook.Number

/-- Divides a number by a factor as long as no rest is left: the last quotient, and how often. -/
def divideOut (p n : Nat) : Nat × Nat :=
  if h : 1 < p ∧ 0 < n ∧ n % p = 0 then
    let r := divideOut p (n / p)
    (r.1, r.2 + 1)
  else (n, 0)
termination_by n
decreasing_by exact Nat.div_lt_self h.2.1 h.1

theorem divideOut_mul_pow (p n : Nat) : (divideOut p n).1 * Nat.pow p (divideOut p n).2 = n := by
  induction n using Nat.strongRecOn with
  | ind n ih =>
    unfold divideOut
    split
    · rename_i h
      have := ih (n / p) (Nat.div_lt_self h.2.1 h.1)
      show (divideOut p (n / p)).1 * (Nat.pow p (divideOut p (n / p)).2 * p) = n
      rw [← Nat.mul_assoc, this]
      exact Nat.div_mul_cancel (Nat.dvd_of_mod_eq_zero h.2.2)
    · exact Nat.mul_one n

theorem not_dvd_divideOut {p n : Nat} (hp : 1 < p) (hn : 0 < n) : ¬ p ∣ (divideOut p n).1 := by
  induction n using Nat.strongRecOn with
  | ind n ih =>
    unfold divideOut
    split
    · rename_i h
      exact ih (n / p) (Nat.div_lt_self hn hp)
        (Nat.div_pos (Nat.le_of_dvd hn (Nat.dvd_of_mod_eq_zero h.2.2)) (by omega))
    · rename_i h
      intro hd
      exact h ⟨hp, hn, Nat.mod_eq_zero_of_dvd hd⟩

/-- What a number stands for. -/
inductive Amount
  | finite (negative : Bool) (core : Nat) (twos fives : Int)
  | infinite (negative : Bool)
deriving Repr, DecidableEq

namespace Amount

/-- The amount of `± n · 2^twos · 5^fives`; a zero has no sign. -/
def ofScaled (negative : Bool) (n : Nat) (twos fives : Int) : Amount :=
  if n == 0 then finite false 0 0 0
  else
    let r := divideOut 2 n
    let s := divideOut 5 r.1
    finite negative s.1 (twos + Int.ofNat r.2) (fives + Int.ofNat s.2)

/-- The amount of an integer. -/
def ofInt (n : Int) : Amount :=
  ofScaled (n < 0) n.natAbs 0 0

/-- The amount of a floating point number; a NaN has none. -/
def ofFloat? (x : Float) : Option Amount :=
  match decompose? x with
  | some d => some (ofScaled d.negative d.mantissa d.exponent 0)
  | none => if isNaN x then none else some (infinite (isNegative x))

/-- The amount of a decimal that stands for a number. -/
def ofExact? : Exact → Option Amount
  | .finite negative coefficient exponent => some (ofScaled negative coefficient exponent exponent)
  | .infinite negative => some (infinite negative)
  | .undefined _ _ _ => none

/-- A prime one below a power of two: doubling a number `61` times leaves the same rest. -/
def tableModulus : Nat := Nat.pow 2 61 - 1

/-- A power of a number modulo the prime. -/
def powerRest (base exponent : Nat) : Nat :=
  if exponent = 0 then 1
  else
    let half := powerRest base (exponent / 2)
    half * half * (if exponent % 2 == 0 then 1 else base) % tableModulus
termination_by exponent
decreasing_by omega

/-- The rest that the magnitude of an amount leaves modulo the prime.  Exponents count modulo the order of
their base, so that a negative one stands for division. -/
def magnitudeRest : Amount → Nat
  | finite _ core twos fives =>
    core % tableModulus * powerRest 2 (twos.emod 61).toNat *
      powerRest 5 (fives.emod (Int.ofNat (tableModulus - 1))).toNat % tableModulus
  | infinite _ => 314159

/-- Is the amount below zero? -/
def isNegative : Amount → Bool
  | finite negative _ _ _ => negative
  | infinite negative => negative

/-- The key of an amount in a table: its rest with its sign, as a 64-bit word; minus one is kept free. -/
def tableKey (a : Amount) : Nat :=
  let key := withSign a.isNegative a.magnitudeRest
  ((if key == -1 then -2 else key).emod (Int.ofNat (Nat.pow 2 64))).toNat

end Amount
end Promptbook.Number
