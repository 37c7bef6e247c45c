import Promptbook.Failure.Misuse
import Promptbook.Json.Basic
import Promptbook.Text.Utf8

/-!
# Values as JSON

Two ways to turn a value into a JSON tree.  `Value.toJson` is for values on their own: a set becomes a list in
the order of its items' texts, so that equal sets look alike.  `Value.plainJson` is for what stands inside a
set or a record: there a set keeps its order.  In both a record becomes a table, and what JSON cannot express
becomes its text, except in a record's field that takes any value: there a number that is not finite becomes
null, and a thing is refused.  A `RecordForm` says which names the table of a record has and whether fields
that hold nothing are in it.

`Value.jsonText` is the text of a value, `Value.canonicalText` the one text that values with the same content
share.
-/

namespace Promptbook

/-- How a record becomes a table. -/
structure RecordForm where
  wireNames : Bool
  keepsNull : Bool
deriving Repr, DecidableEq

namespace RecordForm

/-- The form in which records travel: wire names, without fields that hold nothing. -/
def wire : RecordForm := ⟨true, false⟩

/-- The form in which records are logged: own names, without fields that hold nothing. -/
def log : RecordForm := ⟨false, false⟩

/-- The form in which templates take a record's fields: wire names, all fields. -/
def template : RecordForm := ⟨true, true⟩

/-- All fields under their own names. -/
def full : RecordForm := ⟨false, true⟩

/-- The key of a field. -/
def key (form : RecordForm) (f : FieldName) : String :=
  if form.wireNames then f.wire else f.name

end RecordForm

namespace Value

open Promptbook.Number Promptbook.Text

/-- A text of a tree. -/
def jsonOfChars (cs : List Char) : Json :=
  .text (String.ofList cs)

/-- Bytes as the text they encode. -/
def jsonOfBytes (data : List UInt8) : Except Misuse Json :=
  match readUtf8 data with
  | .ok cs => .ok (jsonOfChars cs)
  | .error fault => .error (.notUtf8 fault)

/-- The tree of a floating point number; in a free field it must be finite. -/
def jsonOfFloat (free : Bool) (x : Float) : Json :=
  if free && !isFinite x then .null else .float x

/-- The tree of something of which only kind and text are known; no free field may hold it. -/
def jsonOfThing (free : Bool) (path text : String) : Except Misuse Json :=
  if free then .error (.notSerializable path) else .ok (.text text)

mutual

/-- The tree of a value inside a set or a record; `free` says that it stands in a field that takes any
value. -/
def plainJson (form : RecordForm) (free : Bool) : Value → Except Misuse Json
  | null => .ok .null
  | bool b => .ok (.bool b)
  | int n => .ok (.int n)
  | float x => .ok (jsonOfFloat free x)
  | text s => .ok (.text s)
  | list items => (plainItems form free items).map .list
  | tuple items => (plainItems form free items).map .list
  | set items => (plainItems form free items).map .list
  | table entries => (plainEntries form free entries).map .table
  | bytes data => jsonOfBytes data
  | date d => .ok (jsonOfChars d.iso)
  | dateTime t => .ok (jsonOfChars t.iso)
  | decimal d => .ok (jsonOfChars d.text)
  | uuid s => .ok (.text s)
  | choice c => .ok (.text c.word)
  | thing t => jsonOfThing free t.path t.text
  | reply holder _ => jsonOfThing free holder.path holder.text
  | record _ fields => (plainFields form fields).map .table

/-- The trees of items. -/
def plainItems (form : RecordForm) (free : Bool) : List Value → Except Misuse (List Json)
  | [] => .ok []
  | v :: vs => do
    let j ← plainJson form free v
    let js ← plainItems form free vs
    return j :: js

/-- The trees of a table's entries. -/
def plainEntries (form : RecordForm) (free : Bool) :
    List (String × Value) → Except Misuse (List (String × Json))
  | [] => .ok []
  | (k, v) :: es => do
    let j ← plainJson form free v
    let js ← plainEntries form free es
    return (k, j) :: js

/-- The entries of a record's table. -/
def plainFields (form : RecordForm) : List (FieldName × Value) → Except Misuse (List (String × Json))
  | [] => .ok []
  | (f, v) :: fs => do
    let j ← plainJson form f.isFree v
    let js ← plainFields form fs
    return if form.keepsNull || v.isPresent then (form.key f, j) :: js else js

end

/-- The text by which the items of a set are put in order. -/
def orderText (j : Json) : List Char :=
  j.sortKeys.write .spaced 0

/-- Trees in the order of their texts. -/
def sortByText (items : List Json) : List Json :=
  items.mergeSort fun a b => String.ofList (orderText a) ≤ String.ofList (orderText b)

mutual

/-- The tree of a value. -/
def toJson : Value → Except Misuse Json
  | list items => (itemsToJson items).map .list
  | tuple items => (itemsToJson items).map .list
  | table entries => (entriesToJson entries).map .table
  | set items => (plainItems .wire false items).map fun js => .list (sortByText js)
  | v => v.plainJson .wire false

/-- The trees of items. -/
def itemsToJson : List Value → Except Misuse (List Json)
  | [] => .ok []
  | v :: vs => do
    let j ← toJson v
    let js ← itemsToJson vs
    return j :: js

/-- The trees of a table's entries. -/
def entriesToJson : List (String × Value) → Except Misuse (List (String × Json))
  | [] => .ok []
  | (k, v) :: es => do
    let j ← toJson v
    let js ← entriesToJson es
    return (k, j) :: js

end

/-- How the text of a record names bytes that are no text. -/
def recordMisuse : Misuse → Misuse
  | .notUtf8 fault => .notUtf8Record fault
  | m => m

/-- The text of a tree whose integers are not too long. -/
def writtenText (style : Json.Style) (j : Json) : Except Misuse String :=
  if j.holdsLongInteger then .error .integerTooLongToWrite else .ok (j.toText style)

/-- The text of a record's tree in the wire style, which knows no limit for integers but takes no negative
indentation. -/
def recordText (indent : Option Int) (v : Value) : Except Misuse String :=
  if (indent.getD 0) < 0 then .error .negativeIndent
  else ((v.plainJson .wire false).mapError recordMisuse).map (Json.toText (Json.Style.wire.withIndent indent))

/-- The JSON text of a value, with one item per line if an indentation is given. -/
def jsonText (indent : Option Int) (v : Value) : Except Misuse String :=
  match v with
  | record _ _ => v.recordText indent
  | v => v.toJson >>= writtenText (Json.Style.spaced.withIndent indent)

/-- The compact JSON text with sorted keys. -/
def canonicalText (v : Value) : Except Misuse String := do
  writtenText .compact (← v.toJson).sortKeys

end Value

mutual

/-- A tree as a value. -/
def Json.toValue : Json → Value
  | .null => .null
  | .bool b => .bool b
  | .int n => .int n
  | .float x => .float x
  | .text s => .text s
  | .list items => .list (itemsToValues items)
  | .table entries => .table (entriesToValues entries)

/-- Trees as values. -/
def itemsToValues : List Json → List Value
  | [] => []
  | j :: js => j.toValue :: itemsToValues js

/-- The entries of a table as values. -/
def entriesToValues : List (String × Json) → List (String × Value)
  | [] => []
  | (k, j) :: es => (k, j.toValue) :: entriesToValues es

end

/-- The value in the form of a table, where it is a record. -/
def Value.tabled (form : RecordForm) (v : Value) : Except Misuse Value :=
  (v.plainJson form false).map Json.toValue

/-- The entries of a record's table; another value has none. -/
def Value.tableOf (form : RecordForm) (v : Value) : Except Misuse (Entries Value) :=
  (v.tabled form).map fun t =>
    match t with
    | .table entries => entries
    | _ => []

end Promptbook
