import Promptbook.Failure.Misuse
import Promptbook.Text.Utf8
import Promptbook.Text.Uuid
import Promptbook.Value.Sets

/-!
# Conversions of values

`toInteger` reads a value as an integer: numbers lose their fraction, texts are read.  `toEntries` reads a
value as a table: records are tables of their fields, and lists are tables if their items are pairs.
-/

namespace Promptbook.Value

open Promptbook.Number Promptbook.Text

/-- The integer that a text denotes; the fault quotes at most two hundred characters. -/
def integerOfText (cs quotedForm : List Char) : Except Misuse Int :=
  match readInt cs with
  | .ok n => .ok n
  | .error .malformed => .error (.notAnInteger (quotedForm.take 200))
  | .error (.tooLong digits) => .error (.integerTooLong digits)

/-- The integer part of a floating point number. -/
def integerOfFloat (x : Float) : Except Misuse Int :=
  match truncate? x with
  | some n => .ok n
  | none =>
    .error (if isNaN x then .integerOfUndefined "float NaN" else .integerOfInfinity "float infinity")

/-- The integer part of a decimal. -/
def integerOfDecimal : Exact → Except Misuse Int
  | .infinite _ => .error (.integerOfInfinity "Infinity")
  | .undefined _ _ _ => .error (.integerOfUndefined "NaN")
  | .finite negative coefficient exponent => .ok (withSign negative (Exact.wholePart coefficient exponent))

/-- The number that a UUID stands for. -/
def integerOfUuid (s : String) : Int :=
  Int.ofNat ((s.toList.filterMap hexDigitValue?).foldl (fun n d => 16 * n + d) 0)

/-- Reads a value as an integer. -/
def toInteger : Value → Except Misuse Int
  | bool b => .ok (if b then 1 else 0)
  | int n => .ok n
  | float x => integerOfFloat x
  | text s => integerOfText s.toList (Text.quoted s.toList)
  | choice c => integerOfText c.word.toList (Text.quoted c.word.toList)
  | decimal d => integerOfDecimal d
  | uuid s => .ok (integerOfUuid s)
  | bytes data =>
    integerOfText (data.map fun b => if b < 128 then Char.ofNat b.toNat else '?') (quotedBytes data)
  | v => .error (.integerOfType v.qualifiedTypeName)

/-- The key and the value that a part of a table is, given the place of the part.  A key that is no text leads
nowhere. -/
def toEntry? (index : Nat) (part : Value) : Except Misuse (Option (String × Value)) :=
  match part.parts? with
  | none => .error (.notAPair index)
  | some [key, v] =>
    match notAnItem? key, key with
    | some misuse, _ => .error misuse
    | none, text s => .ok (some (s, v))
    | none, choice c => .ok (some (c.word, v))
    | none, _ => .ok none
  | some parts => .error (.notTwo index parts.length)

/-- The entries that parts are, given the place of the first. -/
def toEntriesFrom (index : Nat) : List Value → Except Misuse (Entries Value)
  | [] => .ok []
  | part :: rest => do
    let entry ← toEntry? index part
    return entry.toList ++ (← toEntriesFrom (index + 1) rest)

/-- Reads a value as a table of texts with values. -/
def toEntries (v : Value) : Except Misuse (Entries Value) :=
  match v with
  | table entries => .ok entries
  | v =>
    match v.parts? with
    | none => .error (.notMadeOfParts v.qualifiedTypeName)
    | some parts => (toEntriesFrom 0 parts).map Entries.ofPairs

end Promptbook.Value
