import Promptbook.Schema.Fault
import Promptbook.Text.Utf8

/-!
# Lenient readings of scalars

How a schema reads a value as a text, an integer, a floating point number or a flag.  Values of other types
are accepted where they stand for the same thing: a text that spells a number, a number without a fraction for
an integer, zero and one for a flag.
-/

namespace Promptbook.Schema

open Promptbook.Number Promptbook.Text

/-- The text that a value holds: texts, words of a closed list, and bytes in UTF-8. -/
def readText : Value → Except FaultKind String
  | .text s => .ok s
  | .choice c => .ok c.word
  | .bytes data =>
    match readUtf8 data with
    | .ok cs => .ok (String.ofList cs)
    | .error _ => .error .textEncoding
  | _ => .error .textType

/-- The text that spells a number or a flag, where a value holds one. -/
def spelling? (v : Value) : Option (Option (List Char)) :=
  match v with
  | .text s => some (some s.toList)
  | .choice c => some (some c.word.toList)
  | .bytes data => some ((readUtf8 data).toOption)
  | _ => none

/-- Splits a minus off the front. -/
def splitMinus : List Char → Bool × List Char
  | '-' :: rest => (true, rest)
  | cs => (false, cs)

/-- Reads an integer in its plain form: ASCII digits without a leading zero, perhaps after a minus.  A text
that starts with too many of them is refused for its size, whatever follows. -/
def readPlainInteger (cs : List Char) : Except FaultKind Int :=
  let (negative, rest) := splitMinus cs
  let ds := rest.takeWhile Char.isDigit
  match ds with
  | [] => .error .integerParsing
  | d :: more =>
    if d == '0' then
      if rest == ['0'] then .ok 0 else .error .integerParsing
    else if digitLimit < more.length + (if negative then 2 else 1) then .error .integerSize
    else if ds.length < rest.length then .error .integerParsing
    else .ok (withSign negative (ofDigits (ds.filterMap digitValue?)))

/-- Is the character one that may follow leading zeros: a minus, or a digit that is no zero? -/
def startsInteger (c : Char) : Bool :=
  c == '-' || (c.isDigit && c != '0')

/-- Drops zeros, and underscores among them, given the last one dropped before.  It stays in front of a point
and at the end. -/
def dropZeros? (last : Char) : List Char → Option (List Char)
  | [] => some [last]
  | '.' :: rest => some (last :: '.' :: rest)
  | c :: rest =>
    if c == '0' || c == '_' then dropZeros? c rest
    else if startsInteger c then some (c :: rest)
    else none

/-- Drops leading zeros, and underscores among them. -/
def dropLeadingZeros? : List Char → Option (List Char)
  | [] => none
  | c :: rest => if c == '0' then dropZeros? c rest else if startsInteger c then some (c :: rest) else none

/-- Drops a point with zeros after it, at least one and nothing but zeros. -/
def dropZeroFraction (cs : List Char) : List Char :=
  match cs.dropWhile (· != '.') with
  | '.' :: '0' :: zeros => if zeros.all (· == '0') then cs.takeWhile (· != '.') else cs
  | _ => cs

/-- Does the text hold two underscores in a row? -/
def hasDoubleUnderscore : List Char → Bool
  | '_' :: '_' :: _ => true
  | _ :: rest => hasDoubleUnderscore rest
  | [] => false

/-- Drops the underscores if each of them stands alone inside the text. -/
def dropUnderscores (cs : List Char) : List Char :=
  if cs.head? = some '_' || cs.getLast? = some '_' || hasDoubleUnderscore cs then cs else cs.filter (· != '_')

/-- Drops a plus, which no minus may follow. -/
def dropPlus? : List Char → Option (List Char)
  | '+' :: '-' :: _ => none
  | '+' :: rest => some rest
  | cs => some cs

/-- The plain form of an integer with space around it, a plus, leading zeros, underscores or a fraction of
zeros.  A minus among leading zeros counts as its sign. -/
def tidyInteger? (cs : List Char) : Option (List Char) := do
  let (negative, rest) := splitMinus (← dropPlus? (trim isSpace cs))
  let tidy := dropUnderscores (dropZeroFraction (← dropLeadingZeros? rest))
  return if negative then '-' :: tidy else tidy

/-- The integer that a text spells.  In a form that is not plain, too many digits make it no integer. -/
def integerOfSpelling (cs : List Char) : Except FaultKind Int :=
  match readPlainInteger cs with
  | .error .integerParsing =>
    match (tidyInteger? cs).bind fun tidy => (readPlainInteger tidy).toOption with
    | some n => .ok n
    | none => .error .integerParsing
  | result => result

/-- The bound that the magnitude of a floating point number must stay below to be taken for an integer. -/
def magnitudeBound : Nat := Nat.pow 2 63

/-- The integer that a floating point number is. -/
def integerOfNumber (x : Float) : Except FaultKind Int :=
  match truncate? x with
  | none => .error .notFinite
  | some n =>
    if !isIntegral x then .error .integerFraction
    else if magnitudeBound ≤ n.natAbs then .error .integerSize
    else .ok n

/-- The integer that a decimal is. -/
def integerOfExact : Exact → Except FaultKind Int
  | .finite negative coefficient exponent =>
    if Exact.isWhole coefficient exponent then .ok (withSign negative (Exact.wholePart coefficient exponent))
    else .error .integerFraction
  | _ => .error .notFinite

/-- Reads a value as an integer. -/
def readInteger (v : Value) : Except FaultKind Int :=
  match spelling? v with
  | some (some cs) => integerOfSpelling cs
  | some none => .error .integerParsing
  | none =>
    match v with
    | .bool b => .ok (if b then 1 else 0)
    | .int n => .ok n
    | .float x => integerOfNumber x
    | .decimal d => integerOfExact d
    | _ => .error .integerType

/-- Reads a floating point number in ASCII, without underscores and without space around it. -/
def readPlainNumber? (cs : List Char) : Option Float :=
  if cs.all fun c => c.toNat < 128 && c != '_' && !isSpace c then readFloat? cs else none

/-- The floating point number that a text spells.  It may have space around it or underscores, not both. -/
def numberOfSpelling (cs : List Char) : Except FaultKind Float :=
  match (readPlainNumber? (trim isSpace cs)).orElse fun _ => readPlainNumber? (dropUnderscores cs) with
  | some x => .ok x
  | none => .error .numberParsing

/-- The floating point number nearest to an integer, if there is one. -/
def numberOfInteger (n : Int) : Except FaultKind Float :=
  let x := ofInt n
  if isFinite x then .ok x else .error .numberType

/-- The floating point number nearest to a decimal; a signaling one has none. -/
def numberOfExact : Exact → Except FaultKind Float
  | .finite negative coefficient exponent => .ok (ofDecimal negative (digits coefficient) exponent)
  | .infinite negative => .ok (infinity negative)
  | .undefined _ signaling _ => if signaling then .error .numberType else .ok nan

/-- Reads a value as a floating point number. -/
def readNumber (v : Value) : Except FaultKind Float :=
  match spelling? v with
  | some (some cs) => numberOfSpelling cs
  | some none => .error .numberParsing
  | none =>
    match v with
    | .bool b => .ok (ofInt (if b then 1 else 0))
    | .int n => numberOfInteger n
    | .float x => .ok x
    | .decimal d => numberOfExact d
    | _ => .error .numberType

/-- The words for true. -/
def trueWords : List String := ["1", "t", "y", "on", "yes", "true"]

/-- The words for false. -/
def falseWords : List String := ["0", "f", "n", "no", "off", "false"]

/-- The flag that a text spells, in any case. -/
def flagOfSpelling (cs : List Char) : Except FaultKind Bool :=
  let word := String.ofList (cs.map Char.toLower)
  if trueWords.contains word then .ok true
  else if falseWords.contains word then .ok false
  else .error .flagParsing

/-- The flag that an integer is: zero and one are flags. -/
def flagOfInteger (n : Int) : Except FaultKind Bool :=
  if n == 0 then .ok false else if n == 1 then .ok true else .error .flagParsing

/-- The flag that a number is.  One that is no integer within bounds is not even taken for a flag. -/
def flagOfNumber (x : Float) : Except FaultKind Bool :=
  match integerOfNumber x with
  | .ok n => flagOfInteger n
  | .error _ => .error .flagType

/-- Reads a value as a flag. -/
def readFlag (v : Value) : Except FaultKind Bool :=
  match spelling? v with
  | some (some cs) => flagOfSpelling cs
  | some none => .error .flagParsing
  | none =>
    match v with
    | .bool b => .ok b
    | .int n =>
      if -Int.ofNat magnitudeBound ≤ n && n < Int.ofNat magnitudeBound then flagOfInteger n
      else .error .flagType
    | .float x => flagOfNumber x
    | .decimal d => ((numberOfExact d).mapError fun _ => FaultKind.flagType) >>= flagOfNumber
    | _ => .error .flagType

end Promptbook.Schema
