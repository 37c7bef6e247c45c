import Promptbook.Text.Utf8
import Promptbook.Value.Basic

/-!
# Misuse of values

What goes wrong when a value is used as something that it is not: an integer, a table with a key, UTF-8 text.
Each case has the name of its kind and a message.
-/

namespace Promptbook

open Promptbook.Number Promptbook.Text

/-- How a value was misused. -/
inductive Misuse
  | integerTooLong (digits : Nat)
  | integerTooLarge
  | quotientTooLarge
  | notAnInteger (quoted : List Char)
  | notANumber (quoted : List Char)
  | integerOfUndefined (word : String)
  | integerOfInfinity (word : String)
  | integerOfType (typeName : String)
  | missingKey (key : String)
  | noReplyLeft
  | notUtf8 (fault : Utf8Fault)
  | notUtf8Record (fault : Utf8Fault)
  | notSerializable (path : String)
  | integerTooLongToWrite
  | negativeIndent
  | notHashable (typeName : String)
  | notComparable
  | notAMember (quoted : List Char) (group : String)
  | notIterable (typeName : String)
  | notMadeOfParts (typeName : String)
  | notAPair (index : Nat)
  | notTwo (index length : Nat)
  | notBytes (typeName : String)
  | listIndex
  | notAssignable (typeName : String)
  | notAddable (left right : String)
  | stopEscaped (place : String)
  | malformed (message : String)
deriving Repr, DecidableEq

namespace Misuse

/-- The name of the kind of a misuse. -/
def kindName : Misuse → String
  | integerTooLong _ | integerTooLongToWrite | notAnInteger _ | notANumber _ | integerOfUndefined _
  | notAMember _ _ | notTwo _ _ | malformed _ => "ValueError"
  | integerTooLarge | quotientTooLarge | negativeIndent | integerOfInfinity _ => "OverflowError"
  | integerOfType _ | notHashable _ | notComparable | notIterable _ | notMadeOfParts _ | notAPair _
  | notBytes _ | listIndex | notAssignable _ | notAddable _ _ => "TypeError"
  | missingKey _ => "KeyError"
  | noReplyLeft => "IndexError"
  | notUtf8 _ => "UnicodeDecodeError"
  | notUtf8Record _ | notSerializable _ => "PydanticSerializationError"
  | stopEscaped _ => "RuntimeError"

/-- The message of a misuse. -/
def message : Misuse → List Char
  | integerTooLong digits =>
    "Exceeds the limit (".toList ++ natText digitLimit ++
      " digits) for integer string conversion: value has ".toList ++ natText digits ++
      " digits; use sys.set_int_max_str_digits() to increase the limit".toList
  | integerTooLongToWrite =>
    "Exceeds the limit (".toList ++ natText digitLimit ++
      " digits) for integer string conversion; use sys.set_int_max_str_digits() to increase the limit".toList
  | negativeIndent => "can't convert negative int to unsigned".toList
  | quotientTooLarge => "integer division result too large for a float".toList
  | integerTooLarge => "int too large to convert to float".toList
  | notAnInteger quoted => "invalid literal for int() with base 10: ".toList ++ quoted
  | notANumber quoted => "could not convert string to float: ".toList ++ quoted
  | integerOfUndefined word => "cannot convert ".toList ++ word.toList ++ " to integer".toList
  | integerOfInfinity word => "cannot convert ".toList ++ word.toList ++ " to integer".toList
  | integerOfType typeName =>
    "int() argument must be a string, a bytes-like object or a real number, not '".toList ++
      typeName.toList ++ ['\'']
  | missingKey key => quoted key.toList
  | noReplyLeft => "list index out of range".toList
  | notUtf8 fault =>
    "'utf-8' codec can't decode byte 0x".toList ++ hexText 2 fault.byte.toNat ++ " in position ".toList ++
      natText fault.position ++ ": invalid utf-8".toList
  | notUtf8Record fault =>
    "Error serializing to JSON: ".toList ++
      (match fault.length with
      | some n => "invalid utf-8 sequence of ".toList ++ natText n ++ " bytes".toList
      | none => "incomplete utf-8 byte sequence".toList) ++
      " from index ".toList ++ natText fault.position
  | notSerializable path => "Unable to serialize unknown type: <class '".toList ++ path.toList ++ "'>".toList
  | notHashable typeName => "unhashable type: '".toList ++ typeName.toList ++ ['\'']
  | notComparable => "Cannot hash a signaling NaN value".toList
  | notAMember quoted group => quoted ++ " is not a valid ".toList ++ group.toList
  | notIterable typeName => "argument of type '".toList ++ typeName.toList ++ "' is not iterable".toList
  | notMadeOfParts typeName => ['\''] ++ typeName.toList ++ "' object is not iterable".toList
  | notAPair index =>
    "cannot convert dictionary update sequence element #".toList ++ natText index ++ " to a sequence".toList
  | notTwo index length =>
    "dictionary update sequence element #".toList ++ natText index ++ " has length ".toList ++
      natText length ++ "; 2 is required".toList
  | notBytes typeName => "a bytes-like object is required, not '".toList ++ typeName.toList ++ ['\'']
  | listIndex => "list indices must be integers or slices, not str".toList
  | notAssignable typeName =>
    "'".toList ++ typeName.toList ++ "' object does not support item assignment".toList
  | notAddable left right =>
    "unsupported operand type(s) for +: '".toList ++ left.toList ++ "' and '".toList ++ right.toList ++ ['\'']
  | stopEscaped place => place.toList ++ " raised StopIteration".toList
  | malformed message => message.toList

end Misuse

namespace Number

/-- The text of an integer; one with too many digits has none. -/
def integerText (n : Int) : Except Misuse String :=
  if isLong n then .error .integerTooLongToWrite else .ok (String.ofList (intText n))

theorem integerText_of_short {n : Int} (h : isLong n = false) :
    integerText n = .ok (String.ofList (intText n)) := by
  rw [integerText, h]
  rfl

theorem integerText_of_long {n : Int} (h : isLong n = true) : integerText n = .error .integerTooLongToWrite := by
  rw [integerText, if_pos h]

end Number
end Promptbook
