import Promptbook.Number.Binary64
import Promptbook.Text.Blank
import Promptbook.Text.Digit

/-!
# Reading numbers

Integers and floating point numbers in text.  White space around the number is ignored, digits may be of any
script, and a single underscore may stand between two digits.  An integer of more than `digitLimit` digits is
refused with its digit count.
-/

namespace Promptbook.Number

open Promptbook.Text

/-- The most digits an integer in text may have. -/
def digitLimit : Nat := 4300

/-- The least number with more digits than a text may have. -/
@[irreducible] def longInteger : Nat := Nat.pow 10 digitLimit

/-- Has an integer more digits than a text may have? -/
def isLong (n : Int) : Bool :=
  longInteger ≤ n.natAbs

theorem isLong_eq_false_iff {n : Int} : isLong n = false ↔ n.natAbs < longInteger := by
  rw [isLong, decide_eq_false_iff_not, Nat.not_le]

theorem lt_longInteger_of_lt_hundred {n : Nat} (h : n < 100) : n < longInteger := by
  have hpow : ∀ k, 2 ≤ k → 100 ≤ Nat.pow 10 k := fun _ hk => Nat.pow_le_pow_right (by decide : 0 < 10) hk
  have hlimit : 100 ≤ longInteger := by
    unfold longInteger
    exact hpow digitLimit (by decide)
  exact Nat.lt_of_lt_of_le h hlimit

theorem isLong_of_lt_hundred {n : Int} (h : n.natAbs < 100) : isLong n = false :=
  isLong_eq_false_iff.2 (lt_longInteger_of_lt_hundred h)

theorem isLong_ofNat {n : Nat} (h : longInteger ≤ n) : isLong (Int.ofNat n) = true :=
  decide_eq_true h

theorem isLong_longInteger : isLong (Int.ofNat longInteger) = true :=
  isLong_ofNat (Nat.le_refl longInteger)

/-- Why a text is no integer: it has another form, or too many digits. -/
inductive IntegerFault
  | malformed
  | tooLong (digits : Nat)
deriving Repr, DecidableEq

/-- Splits a sign off the front: whether it is a minus, and the rest. -/
def splitSign : List Char → Bool × List Char
  | '-' :: rest => (true, rest)
  | '+' :: rest => (false, rest)
  | cs => (false, cs)

/-- Does the text start with a digit? -/
def startsWithDigit : List Char → Bool
  | [] => false
  | c :: _ => isDigit c

/-- The digits a text starts with, and the rest; `afterDigit` says that a digit stands just before the
text. -/
def splitDigitsFrom (afterDigit : Bool) : List Char → List Nat × List Char
  | [] => ([], [])
  | c :: rest =>
    match digitValue? c with
    | some d =>
      let r := splitDigitsFrom true rest
      (d :: r.1, r.2)
    | none =>
      if afterDigit && c == '_' && startsWithDigit rest then splitDigitsFrom false rest else ([], c :: rest)

/-- The digits a text starts with, and the rest; an underscore counts only between two digits. -/
def splitDigits (cs : List Char) : List Nat × List Char :=
  splitDigitsFrom false cs

/-- The integer with the given sign and digits, unless it is too long. -/
def integerOfDigits (negative : Bool) (ds : List Nat) : Except IntegerFault Int :=
  if digitLimit < ds.length then .error (.tooLong ds.length)
  else .ok (withSign negative (ofDigits ds))

/-- Does the text start with an underscore? -/
def startsWithUnderscore : List Char → Bool
  | '_' :: _ => true
  | _ => false

/-- Reads a text that is an integer.  The digit count is judged before what follows the digits, unless that is
a stray underscore. -/
def readInt (cs : List Char) : Except IntegerFault Int :=
  let signed := splitSign (trim isSpace cs)
  let r := splitDigits signed.2
  if r.1.isEmpty || startsWithUnderscore r.2 then .error .malformed
  else
    match integerOfDigits signed.1 r.1 with
    | .error fault => .error fault
    | .ok n => if r.2.isEmpty then .ok n else .error .malformed

/-- A decimal number in parts: the digits before and after the point, and the power of ten it is scaled by. -/
structure Numeral where
  whole : List Nat
  fraction : List Nat
  exponent : Int

/-- The floating point number nearest to a decimal. -/
def Numeral.toFloat (negative : Bool) (n : Numeral) : Float :=
  ofDecimal negative (n.whole ++ n.fraction) (n.exponent - Int.ofNat n.fraction.length)

/-- Reads an exponent part, which may be absent. -/
def readExponent? : List Char → Option Int
  | [] => some 0
  | e :: rest =>
    if e == 'e' || e == 'E' then
      let signed := splitSign rest
      let r := splitDigits signed.2
      if r.1.isEmpty || !r.2.isEmpty then none
      else some (withSign signed.1 (ofDigits r.1))
    else none

/-- Reads an unsigned decimal: digits with a point before, between or after them, and an exponent part. -/
def readNumeral? (cs : List Char) : Option Numeral :=
  let whole := splitDigits cs
  let fraction := match whole.2 with
    | '.' :: rest => splitDigits rest
    | rest => ([], rest)
  if whole.1.isEmpty && fraction.1.isEmpty then none
  else (readExponent? fraction.2).map fun e => ⟨whole.1, fraction.1, e⟩

/-- Reads a text that is a floating point number; `inf`, `infinity` and `nan` are read in any case. -/
def readFloat? (cs : List Char) : Option Float :=
  let signed := splitSign (trim isSpace cs)
  let word := String.ofList (signed.2.map Char.toLower)
  if word == "inf" || word == "infinity" then some (infinity signed.1)
  else if word == "nan" then some nan
  else (readNumeral? signed.2).map (Numeral.toFloat signed.1)

end Promptbook.Number
