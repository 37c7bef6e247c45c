import Promptbook.Value.Basic

/-!
# Validation faults

What a schema finds wrong with a value.  A fault has a kind and the path from the validated value to the part
at fault; its code and its message depend on the kind alone.
-/

namespace Promptbook.Schema

open Promptbook.Number Promptbook.Text

/-- A step into a value: a key or an index. -/
inductive Step
  | key (name : String)
  | index (i : Nat)
deriving Repr, DecidableEq

/-- What can be wrong with a value. -/
inductive FaultKind
  | missing
  | textType
  | textEncoding
  | textTooShort (least : Nat)
  | textTooLong (most : Nat)
  | integerType
  | integerParsing
  | integerSize
  | integerFraction
  | notFinite
  | numberType
  | numberParsing
  | flagType
  | flagParsing
  | notAmong (words : List String)
  | listType
  | listTooShort (least actual : Nat)
  | listTooLong (most : Nat) (actual : Option Nat)
  | tableType
  | recordType (model : String)
  | extraKey
  | tooSmall (least : Int)
  | tooLarge (most : Int)
  | refused (complaint : String)
deriving Repr, DecidableEq

namespace FaultKind

/-- The code of a fault. -/
def code : FaultKind → String
  | missing => "missing"
  | textType => "string_type"
  | textEncoding => "string_unicode"
  | textTooShort _ => "string_too_short"
  | textTooLong _ => "string_too_long"
  | integerType => "int_type"
  | integerParsing => "int_parsing"
  | integerSize => "int_parsing_size"
  | integerFraction => "int_from_float"
  | notFinite => "finite_number"
  | numberType => "float_type"
  | numberParsing => "float_parsing"
  | flagType => "bool_type"
  | flagParsing => "bool_parsing"
  | notAmong _ => "enum"
  | listType => "list_type"
  | listTooShort _ _ => "too_short"
  | listTooLong _ _ => "too_long"
  | tableType => "dict_type"
  | recordType _ => "model_type"
  | extraKey => "extra_forbidden"
  | tooSmall _ => "greater_than_equal"
  | tooLarge _ => "less_than_equal"
  | refused _ => "value_error"

/-- A count of things, in the singular for one. -/
def counted (n : Nat) (noun : String) : String :=
  String.ofList (natText n) ++ " " ++ noun ++ if n == 1 then "" else "s"

/-- Words between quotes, with commas and an "or" before the last. -/
def alternatives : List String → String
  | [] => ""
  | [word] => "'" ++ word ++ "'"
  | [word, last] => "'" ++ word ++ "' or '" ++ last ++ "'"
  | word :: next :: rest => "'" ++ word ++ "', " ++ alternatives (next :: rest)

/-- An integer in decimal, as a string. -/
def number (n : Int) : String :=
  String.ofList (intText n)

/-- How many items a list has.  One that is read item by item has more than it may. -/
def extent : Option Nat → String
  | some n => number n
  | none => "more"

/-- The message of a fault. -/
def message : FaultKind → String
  | missing => "Field required"
  | textType => "Input should be a valid string"
  | textEncoding => "Input should be a valid string, unable to parse raw data as a unicode string"
  | textTooShort least => "String should have at least " ++ counted least "character"
  | textTooLong most => "String should have at most " ++ counted most "character"
  | integerType => "Input should be a valid integer"
  | integerParsing => "Input should be a valid integer, unable to parse string as an integer"
  | integerSize => "Unable to parse input string as an integer, exceeded maximum size"
  | integerFraction => "Input should be a valid integer, got a number with a fractional part"
  | notFinite => "Input should be a finite number"
  | numberType => "Input should be a valid number"
  | numberParsing => "Input should be a valid number, unable to parse string as a number"
  | flagType => "Input should be a valid boolean"
  | flagParsing => "Input should be a valid boolean, unable to interpret input"
  | notAmong words => "Input should be " ++ alternatives words
  | listType => "Input should be a valid list"
  | listTooShort least actual =>
    "List should have at least " ++ counted least "item" ++ " after validation, not " ++ number actual
  | listTooLong most actual =>
    "List should have at most " ++ counted most "item" ++ " after validation, not " ++ extent actual
  | tableType => "Input should be a valid dictionary"
  | recordType model => "Input should be a valid dictionary or instance of " ++ model
  | extraKey => "Extra inputs are not permitted"
  | tooSmall least => "Input should be greater than or equal to " ++ number least
  | tooLarge most => "Input should be less than or equal to " ++ number most
  | refused complaint => "Value error, " ++ complaint

end FaultKind

/-- A fault at a place inside the validated value. -/
structure Fault where
  path : List Step
  kind : FaultKind
deriving Repr, DecidableEq

namespace Fault

/-- A fault of the validated value itself. -/
def here (kind : FaultKind) : Fault :=
  ⟨[], kind⟩

/-- The fault as seen from one step further out. -/
def under (step : Step) (fault : Fault) : Fault :=
  ⟨step :: fault.path, fault.kind⟩

/-- The step as a value. -/
def stepValue : Step → Value
  | .key name => .text name
  | .index i => .int i

/-- The fault as a table of its code, path and message. -/
def toValue (fault : Fault) : Value :=
  .table [("type", .text fault.kind.code), ("loc", .tuple (fault.path.map stepValue)),
    ("msg", .text fault.kind.message)]

end Fault
end Promptbook.Schema
