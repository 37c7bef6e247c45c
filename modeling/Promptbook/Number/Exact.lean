import Promptbook.Number.Reading
import Promptbook.Text.Blank

/-!
# Exact decimals

Decimals that keep the digits they were written with: `1.10` is not `1.1`.  Besides finite decimals and
infinities there are decimals that stand for no number; these may be signaling, which means that they refuse
to be compared, and carry a payload.  A decimal is written positionally if its exponent is not positive and
its leading digit stands at the sixth place after the point or before, and with an exponent otherwise.
-/

namespace Promptbook.Number

open Promptbook.Text

/-- A decimal `± coefficient · 10^exponent`, an infinity, or no number at all. -/
inductive Exact
  | finite (negative : Bool) (coefficient : Nat) (exponent : Int)
  | infinite (negative : Bool)
  | undefined (negative signaling : Bool) (payload : Nat)
deriving Repr, DecidableEq

/-- Why a text is no decimal: it has another form, or it is beyond the range of exponents. -/
inductive ExactFault
  | malformed
  | outOfRange
deriving Repr, DecidableEq

namespace Exact

/-- The greatest power of ten at which a leading digit may stand. -/
def greatestExponent : Int := 999999999999999999

/-- The least exponent of a decimal. -/
def leastExponent : Int := -1999999999999999997

/-- The power of ten at which the leading digit of `coefficient · 10^exponent` stands; that of a zero is its
exponent. -/
def leadingExponent (coefficient : Nat) (exponent : Int) : Int :=
  exponent + Int.ofNat (digits coefficient).length - 1

/-- The decimal with the given parts, if it is in range. -/
def ofParts (negative : Bool) (coefficient : Nat) (exponent : Int) : Except ExactFault Exact :=
  if leastExponent ≤ exponent && leadingExponent coefficient exponent ≤ greatestExponent then
    .ok (finite negative coefficient exponent)
  else .error .outOfRange

/-- Takes a word in any case off the front of a text. -/
def afterWord? (word : String) (cs : List Char) : Option (List Char) :=
  let front := cs.take word.length
  if front.map Char.toLower == word.toList then some (cs.drop word.length) else none

/-- Reads the payload of a decimal that is no number: nothing, or digits. -/
def readPayload (negative signaling : Bool) (cs : List Char) : Except ExactFault Exact :=
  let r := splitDigits cs
  if r.2.isEmpty then .ok (undefined negative signaling (ofDigits r.1)) else .error .malformed

/-- Reads a decimal without its sign. -/
def readUnsigned (negative : Bool) (cs : List Char) : Except ExactFault Exact :=
  match afterWord? "nan" cs, afterWord? "snan" cs with
  | some payload, _ => readPayload negative false payload
  | none, some payload => readPayload negative true payload
  | none, none =>
    if afterWord? "inf" cs == some [] || afterWord? "infinity" cs == some [] then .ok (infinite negative)
    else
      match readNumeral? cs with
      | none => .error .malformed
      | some n =>
        ofParts negative (ofDigits (n.whole ++ n.fraction)) (n.exponent - Int.ofNat n.fraction.length)

/-- Reads a decimal; underscores are ignored. -/
def read (cs : List Char) : Except ExactFault Exact :=
  let signed := splitSign ((strip cs).filter (· != '_'))
  readUnsigned signed.1 signed.2

/-- Puts a point after the first `whole` digits. -/
def pointed (ds : List Char) (whole : Nat) : List Char :=
  if whole < ds.length then ds.take whole ++ '.' :: ds.drop whole else ds

/-- A minus, or nothing. -/
def signText (negative : Bool) : List Char :=
  if negative then ['-'] else []

/-- The text of a decimal. -/
def text : Exact → List Char
  | finite negative coefficient exponent =>
    let ds := natText coefficient
    let lead := leadingExponent coefficient exponent
    if exponent ≤ 0 && -6 ≤ lead then
      let padded := List.replicate ((-lead).toNat) '0' ++ ds
      signText negative ++ pointed padded (padded.length - exponent.natAbs)
    else
      signText negative ++ pointed ds 1 ++ 'E' :: (if lead < 0 then '-' else '+') :: natText lead.natAbs
  | infinite negative => signText negative ++ "Infinity".toList
  | undefined negative signaling payload =>
    signText negative ++ (if signaling then "sNaN" else "NaN").toList ++
      if payload == 0 then [] else natText payload

/-- Is the decimal a zero? -/
def isZero : Exact → Bool
  | finite _ coefficient _ => coefficient == 0
  | _ => false

/-- Does the decimal refuse to be compared? -/
def isSignaling : Exact → Bool
  | undefined _ signaling _ => signaling
  | _ => false

/-- The integer part of `coefficient · 10^exponent`; an exponent that leaves no digit before the point makes
it zero without a power of ten. -/
def wholePart (coefficient : Nat) (exponent : Int) : Nat :=
  if leadingExponent coefficient exponent < 0 || coefficient == 0 then 0
  else coefficient * Nat.pow 10 exponent.toNat / Nat.pow 10 (-exponent).toNat

/-- Is `coefficient · 10^exponent` without a fraction?  The least digit of a fraction stands where the
coefficient has its last digit other than zero. -/
def isWhole (coefficient : Nat) (exponent : Int) : Bool :=
  let zeros := ((digits coefficient).reverse.takeWhile (· == 0)).length
  coefficient == 0 || 0 ≤ exponent + Int.ofNat zeros

end Exact
end Promptbook.Number
