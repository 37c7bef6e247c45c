import Promptbook.Number.Decimal

/-!
# Exact arithmetic on 64-bit binary floating point numbers

A finite number is `± m · 2^q` for a natural `m` below `2^53`; `decompose?` gives the three parts.  `ofRatio`
and `ofDecimal` go the other way: they round an exact quotient or decimal to the nearest number, a tie to the
even mantissa, and to infinity beyond the largest.  All of it is arithmetic on natural numbers.
-/

namespace Promptbook.Number

/-- A finite number `(-1)^negative · mantissa · 2^exponent`. -/
structure Dyadic where
  negative : Bool
  mantissa : Nat
  exponent : Int
deriving Repr, DecidableEq

/-- The sign, mantissa and exponent of a finite number. -/
def decompose? (x : Float) : Option Dyadic :=
  let bits := x.toBits.toNat
  let negative := bits / Nat.pow 2 63 == 1
  let exponent := bits / Nat.pow 2 52 % Nat.pow 2 11
  let fraction := bits % Nat.pow 2 52
  if exponent == 2047 then none
  else if exponent == 0 then some ⟨negative, fraction, -1074⟩
  else some ⟨negative, Nat.pow 2 52 + fraction, Int.ofNat exponent - 1075⟩

/-- Is the number neither infinite nor a NaN? -/
def isFinite (x : Float) : Bool :=
  (decompose? x).isSome

/-- Is the number a NaN? -/
def isNaN (x : Float) : Bool :=
  let bits := x.toBits.toNat
  bits / Nat.pow 2 52 % Nat.pow 2 11 == 2047 && bits % Nat.pow 2 52 != 0

/-- Is the number a zero, of either sign? -/
def isZero (x : Float) : Bool :=
  x.toBits.toNat % Nat.pow 2 63 == 0

/-- Is the sign bit set? -/
def isNegative (x : Float) : Bool :=
  x.toBits.toNat / Nat.pow 2 63 == 1

/-- The quotient of two numbers rounded to the nearest integer, a tie to the even one. -/
def roundQuotient (num den : Nat) : Nat :=
  let quotient := num / den
  let rest := num % den
  if 2 * rest < den then quotient
  else if den < 2 * rest then quotient + 1
  else quotient + quotient % 2

/-- The floating point number with a sign and the given lower 63 bits. -/
def ofMagnitudeBits (negative : Bool) (bits : Nat) : Float :=
  Float.ofBits (UInt64.ofNat (bits + if negative then Nat.pow 2 63 else 0))

/-- Infinity with a sign. -/
def infinity (negative : Bool) : Float :=
  ofMagnitudeBits negative (2047 * Nat.pow 2 52)

/-- The NaN that text denotes. -/
def nan : Float :=
  ofMagnitudeBits false (2047 * Nat.pow 2 52 + Nat.pow 2 51)

/-- Scales a quotient by `2^(-q)`, as a pair of numerator and denominator. -/
def scaleQuotient (num den : Nat) (q : Int) : Nat × Nat :=
  (num * Nat.pow 2 (-q).toNat, den * Nat.pow 2 q.toNat)

/-- The exponent at which a positive quotient has a mantissa of 53 bits, or the least one there is. -/
def exponentFor (num den : Nat) : Int :=
  let guess := Int.ofNat num.log2 - Int.ofNat den.log2 - 52
  let scaled := scaleQuotient num den guess
  let exact := if scaled.1 / scaled.2 < Nat.pow 2 52 then guess - 1 else guess
  max exact (-1074)

/-- The number nearest to `± num / den`. -/
def ofRatio (negative : Bool) (num den : Nat) : Float :=
  if num == 0 then ofMagnitudeBits negative 0
  else
    let q := exponentFor num den
    let scaled := scaleQuotient num den q
    let mantissa := roundQuotient scaled.1 scaled.2
    -- A mantissa that rounds up to the next power of two carries into the exponent field.
    let bits := (q + 1074).toNat * Nat.pow 2 52 + mantissa
    if 2047 * Nat.pow 2 52 ≤ bits then infinity negative else ofMagnitudeBits negative bits

/-- The number nearest to `± d · 10^exponent`, where `d` is the number that the digits denote.  A decimal that
is beyond the largest or below half the least number by its size alone needs no exact quotient. -/
def ofDecimal (negative : Bool) (ds : List Nat) (exponent : Int) : Float :=
  let significant := ds.dropWhile (· == 0)
  let size := exponent + Int.ofNat significant.length
  if significant.isEmpty || size ≤ -324 then ofMagnitudeBits negative 0
  else if 310 ≤ size then infinity negative
  else if 0 ≤ exponent then ofRatio negative (ofDigits significant * Nat.pow 10 exponent.toNat) 1
  else ofRatio negative (ofDigits significant) (Nat.pow 10 (-exponent).toNat)

/-- The number nearest to an integer. -/
def ofInt (n : Int) : Float :=
  ofRatio (n < 0) n.natAbs 1

/-- The integer part of a finite number. -/
def truncate? (x : Float) : Option Int :=
  (decompose? x).map fun d =>
    withSign d.negative
      (if 0 ≤ d.exponent then d.mantissa * Nat.pow 2 d.exponent.toNat else d.mantissa / Nat.pow 2 (-d.exponent).toNat)

/-- Is the number finite and without a fractional part? -/
def isIntegral (x : Float) : Bool :=
  match decompose? x with
  | none => false
  | some d => 0 ≤ d.exponent || d.mantissa % Nat.pow 2 (-d.exponent).toNat == 0

/-- The integer nearest to a finite number, a tie to the even one. -/
def roundToInt? (x : Float) : Option Int :=
  (decompose? x).map fun d =>
    withSign d.negative
      (if 0 ≤ d.exponent then d.mantissa * Nat.pow 2 d.exponent.toNat
      else roundQuotient d.mantissa (Nat.pow 2 (-d.exponent).toNat))

/-- Rounding a quotient is off by at most one half. -/
theorem roundQuotient_close (num den : Nat) (h : 0 < den) :
    2 * num ≤ 2 * den * roundQuotient num den + den ∧ 2 * den * roundQuotient num den ≤ 2 * num + den := by
  have hdiv : den * (num / den) + num % den = num := Nat.div_add_mod num den
  have hlt : num % den < den := Nat.mod_lt num h
  simp only [roundQuotient]
  generalize num / den = a at *
  generalize num % den = r at *
  have expand : ∀ k, 2 * den * (a + k) = 2 * (den * a) + 2 * (den * k) := by
    intro k
    rw [Nat.mul_assoc, Nat.mul_add, Nat.mul_add]
  split
  · have := expand 0
    simp only [Nat.add_zero, Nat.mul_zero] at this
    omega
  · split
    · have := expand 1
      simp only [Nat.mul_one] at this
      omega
    · rcases Nat.mod_two_eq_zero_or_one a with ha | ha
      · have := expand 0
        simp only [Nat.add_zero, Nat.mul_zero] at this
        rw [ha, Nat.add_zero]
        omega
      · have := expand 1
        simp only [Nat.mul_one] at this
        rw [ha]
        omega

end Promptbook.Number
