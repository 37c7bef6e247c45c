import Promptbook.Calendar.Text
import Promptbook.Entries
import Promptbook.Number.Exact
import Promptbook.Number.Shortest
import Promptbook.Text.Quoted

/-!
# Values

The data that callers, models and schemas exchange.  Lists, tuples and sets hold items in order; a table holds
entries in order; a record is an instance of a named schema with fields that have a name of their own and a
name on the wire; a reply is a thing that holds a response.  `shown` is the text of a value by itself, `quoted`
its text inside another value.  A value that `holdsLong` has neither.
-/

namespace Promptbook

open Promptbook.Number Promptbook.Text

/-- The two names of a record's field, the one used in code and the one used on the wire, and whether the
field takes any value. -/
structure FieldName where
  name : String
  wire : String
  isFree : Bool
deriving Repr, DecidableEq

/-- A word of a closed list of words, with the name of the list and the word's name in it. -/
structure Choice where
  group : String
  member : String
  word : String
deriving Repr, DecidableEq

/-- Something that is known by its kind, with its short and its full name, and its text only. -/
structure Thing where
  kind : String
  path : String
  text : String
  quoted : String
deriving Repr, DecidableEq

/-- A value. -/
inductive Value
  | null
  | bool (b : Bool)
  | int (n : Int)
  | float (x : Float)
  | text (s : String)
  | list (items : List Value)
  | tuple (items : List Value)
  | set (items : List Value)
  | table (entries : List (String × Value))
  | date (d : Date)
  | dateTime (t : DateTime)
  | decimal (d : Exact)
  | uuid (s : String)
  | bytes (data : List UInt8)
  | choice (c : Choice)
  | thing (t : Thing)
  | reply (holder : Thing) (response : Value)
  | record (model : String) (fields : List (FieldName × Value))
deriving Repr, Inhabited

namespace Value

/-- The name of a value's type. -/
def typeName : Value → String
  | null => "NoneType"
  | bool _ => "bool"
  | int _ => "int"
  | float _ => "float"
  | text _ => "str"
  | list _ => "list"
  | tuple _ => "tuple"
  | set _ => "set"
  | table _ => "dict"
  | date _ => "date"
  | dateTime _ => "datetime"
  | decimal _ => "Decimal"
  | uuid _ => "UUID"
  | bytes _ => "bytes"
  | choice c => c.group
  | thing t => t.kind
  | reply holder _ => holder.kind
  | record model _ => model

/-- The name of a value's type with the name of its origin, where messages about types give it. -/
def qualifiedTypeName : Value → String
  | date _ => "datetime.date"
  | dateTime _ => "datetime.datetime"
  | decimal _ => "decimal.Decimal"
  | v => v.typeName

/-- The texts of a tuple's items between parentheses; a single item is followed by a comma. -/
def tupleText : List (List Char) → List Char
  | [item] => '(' :: item ++ [',', ')']
  | items => '(' :: commaJoined items ++ [')']

/-- The texts of a set's items between braces. -/
def setText (items : List (List Char)) : List Char :=
  if items.isEmpty then "set()".toList else '\x7b' :: commaJoined items ++ ['\x7d']

mutual

/-- The text of a value inside another value. -/
def quoted : Value → List Char
  | null => "None".toList
  | bool b => (if b then "True" else "False").toList
  | int n => intText n
  | float x => Layout.shown.text x
  | text s => Text.quoted s.toList
  | list items => '[' :: commaJoined (quotedItems items) ++ [']']
  | tuple items => tupleText (quotedItems items)
  | set items => setText (quotedItems items)
  | table entries => '\x7b' :: commaJoined (quotedEntries entries) ++ ['\x7d']
  | date d => d.quoted
  | dateTime t => t.quoted
  | decimal d => "Decimal('".toList ++ d.text ++ "')".toList
  | uuid s => "UUID('".toList ++ s.toList ++ "')".toList
  | bytes data => quotedBytes data
  | choice c =>
    '<' :: c.group.toList ++ '.' :: c.member.toList ++ ':' :: ' ' :: Text.quoted c.word.toList ++ ['>']
  | thing t => t.quoted.toList
  | reply holder _ => holder.quoted.toList
  | record model fields => model.toList ++ '(' :: commaJoined (quotedFields fields) ++ [')']

/-- The texts of items inside another value. -/
def quotedItems : List Value → List (List Char)
  | [] => []
  | v :: vs => v.quoted :: quotedItems vs

/-- The texts of a table's entries. -/
def quotedEntries : List (String × Value) → List (List Char)
  | [] => []
  | (k, v) :: es => (Text.quoted k.toList ++ ':' :: ' ' :: v.quoted) :: quotedEntries es

/-- The texts of a record's fields. -/
def quotedFields : List (FieldName × Value) → List (List Char)
  | [] => []
  | (f, v) :: fs => (f.name.toList ++ '=' :: v.quoted) :: quotedFields fs

end

/-- The text of a value by itself. -/
def shown : Value → List Char
  | text s => s.toList
  | date d => d.iso
  | dateTime t => t.text
  | decimal d => d.text
  | uuid s => s.toList
  | choice c => c.word.toList
  | thing t => t.text.toList
  | reply holder _ => holder.text.toList
  | record _ fields => joined [' '] (quotedFields fields)
  | v => v.quoted

mutual

/-- Does the value hold an integer with more digits than a text may have? -/
def holdsLong : Value → Bool
  | int n => isLong n
  | list items => itemsHoldLong items
  | tuple items => itemsHoldLong items
  | set items => itemsHoldLong items
  | table entries => entriesHoldLong entries
  | record _ fields => fieldsHoldLong fields
  | _ => false

/-- Does an item hold an integer that is too long? -/
def itemsHoldLong : List Value → Bool
  | [] => false
  | v :: vs => v.holdsLong || itemsHoldLong vs

/-- Does an entry hold an integer that is too long? -/
def entriesHoldLong : List (String × Value) → Bool
  | [] => false
  | (_, v) :: es => v.holdsLong || entriesHoldLong es

/-- Does a field hold an integer that is too long? -/
def fieldsHoldLong : List (FieldName × Value) → Bool
  | [] => false
  | (_, v) :: fs => v.holdsLong || fieldsHoldLong fs

end

/-- The text of a value by itself, as a string. -/
def shownString (v : Value) : String :=
  String.ofList v.shown

/-- Is the value something: not nothing, not false, not a zero and not empty? -/
def isTruthy : Value → Bool
  | null => false
  | bool b => b
  | int n => n != 0
  | float x => !isZero x
  | text s => !s.isEmpty
  | list items => !items.isEmpty
  | tuple items => !items.isEmpty
  | set items => !items.isEmpty
  | table entries => !entries.isEmpty
  | decimal d => !d.isZero
  | bytes data => !data.isEmpty
  | choice c => !c.word.isEmpty
  | _ => true

/-- Is the value something other than nothing? -/
def isPresent : Value → Bool
  | null => false
  | _ => true

/-- The value of a key in a table. -/
def entry? : Value → String → Option Value
  | table entries, key => Entries.get? entries key
  | _, _ => none

/-- The field of a record with a name. -/
def field? (fields : List (FieldName × Value)) (name : String) : Option Value :=
  (fields.find? fun f => f.1.name == name).map (·.2)

/-- The fields of a record as pairs of a name and a value. -/
def fieldPairs (fields : List (FieldName × Value)) : List Value :=
  fields.map fun f => tuple [text f.1.name, f.2]

/-- The parts that a value is made of, where it is made of parts: the keys of a table, the characters of a
text, the fields of a record as pairs. -/
def parts? : Value → Option (List Value)
  | text s => some (s.toList.map fun c => text (String.singleton c))
  | choice c => some (c.word.toList.map fun c => text (String.singleton c))
  | list items => some items
  | tuple items => some items
  | set items => some items
  | table entries => some (entries.map fun e => text e.1)
  | bytes data => some (data.map fun b => int (Int.ofNat b.toNat))
  | record _ fields => some (fieldPairs fields)
  | _ => none

/-- A text, or nothing. -/
def ofText? : Option String → Value
  | none => null
  | some s => text s

/-- A list of texts. -/
def ofTexts (texts : List String) : Value :=
  list (texts.map text)

@[simp] theorem quotedItems_eq_map (items : List Value) : quotedItems items = items.map quoted := by
  induction items with
  | nil => simp [quotedItems]
  | cons v vs ih => simp [quotedItems, ih]

@[simp] theorem quotedEntries_eq_map (entries : List (String × Value)) :
    quotedEntries entries = entries.map fun e => Text.quoted e.1.toList ++ ':' :: ' ' :: e.2.quoted := by
  induction entries with
  | nil => simp [quotedEntries]
  | cons e es ih => simp [quotedEntries, ih]

@[simp] theorem quotedFields_eq_map (fields : List (FieldName × Value)) :
    quotedFields fields = fields.map fun f => f.1.name.toList ++ '=' :: f.2.quoted := by
  induction fields with
  | nil => simp [quotedFields]
  | cons f fs ih => simp [quotedFields, ih]

end Value
end Promptbook
