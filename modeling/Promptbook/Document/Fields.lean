import Promptbook.Failure.Basic
import Promptbook.Metadata.Block
import Promptbook.Prompt.Spec

/-!
# Fields of a document

How the values of a metadata block become the fields of a prompt: as text, as a list of texts, as a number, as
a version and as an output format.
-/

namespace Promptbook.Document

open Promptbook.Number Promptbook.Text Promptbook.Metadata

/-- A scalar as text. -/
def scalarText : Scalar → List Char
  | .null => []
  | .bool b => (if b then "true" else "false").toList
  | .int n => intText n
  | .float x => Layout.shown.text x
  | .text s => s.toList

/-- An item as text; the scalars of a list are joined with commas. -/
def itemText : Item → List Char
  | .scalar s => scalarText s
  | .list items => commaJoined (items.map scalarText)

/-- A value as text; keys with items are joined with commas. -/
def entryText : Entry → List Char
  | .item i => itemText i
  | .mapping items => commaJoined (items.map fun e => e.1.toList ++ ':' :: ' ' :: itemText e.2)

/-- Does the value hold nothing? -/
def isNothing : Entry → Bool
  | .item (.scalar .null) => true
  | _ => false

/-- The value of a key that holds something. -/
def present? (block : Block) (key : String) : Option Entry :=
  (block.get? key).filter fun e => !isNothing e

/-- The items of a value with keys; another value has none. -/
def mappingOf : Option Entry → Block
  | some (.mapping items) => items.map fun e => (e.1, .item e.2)
  | _ => []

/-- A value as a list of texts: a list item by item, a text as its only item. -/
def textList : Option Entry → List String
  | some (.item (.list items)) => items.map fun s => String.ofList (scalarText s)
  | some (.item (.scalar (.text s))) => [s]
  | _ => []

/-- A finite number. -/
inductive Quantity
  | int (n : Int)
  | float (x : Float)
deriving Repr

/-- An integer as a quantity; it must not be beyond the largest floating point number. -/
def integerQuantity (n : Int) : Except Misuse (Option Quantity) :=
  if isFinite (ofInt n) then .ok (some (.int n)) else .error .integerTooLarge

/-- A floating point number as a quantity, if it is finite. -/
def floatQuantity? (x : Float) : Option Quantity :=
  if isFinite x then some (.float x) else none

/-- The quantity that a text denotes; an integer with too many digits is read as a floating point number. -/
def textQuantity (s : String) : Except Misuse (Option Quantity) :=
  let cs := strip s.toList
  match readInt cs with
  | .ok n => integerQuantity n
  | .error _ => .ok ((readFloat? cs).bind floatQuantity?)

/-- The quantity that a value denotes: a number or a text that is one. -/
def quantity : Entry → Except Misuse (Option Quantity)
  | .item (.scalar (.int n)) => integerQuantity n
  | .item (.scalar (.float x)) => .ok (floatQuantity? x)
  | .item (.scalar (.text s)) => textQuantity s
  | _ => .ok none

/-- The quantity that a field must denote. -/
def requireQuantity (field : String) (e : Entry) : Except Failure Quantity :=
  match quantity e with
  | .error m => .error (.misuse m)
  | .ok none => .error (.invalidField field "must be a number")
  | .ok (some q) => .ok q

/-- A quantity as a floating point number. -/
def Quantity.toFloat : Quantity → Float
  | int n => ofInt n
  | float x => x

/-- The integer part of a quantity. -/
def Quantity.toInt : Quantity → Int
  | int n => n
  | float x => (truncate? x).getD 0

/-- Has the quantity no fraction? -/
def Quantity.isWhole : Quantity → Bool
  | int _ => true
  | float x => isIntegral x

/-- The text of a mandatory field. -/
def requireText (block : Block) (field : String) : Except Failure String :=
  match present? block field with
  | none => .error (.missingField field)
  | some e => .ok (String.ofList (entryText e))

/-- The version: a whole number from one on. -/
def requireVersion (block : Block) : Except Failure Int :=
  match present? block "version" with
  | none => .error (.missingField "version")
  | some e =>
    match requireQuantity "version" e with
    | .error failure => .error failure
    | .ok q =>
      if !q.isWhole then .error (.invalidField "version" "must be an integer")
      else if q.toInt < 1 then .error (.invalidField "version" "must be at least 1")
      else .ok q.toInt

/-- The quantity of a field that may be absent. -/
def optionalQuantity (field : String) (e : Option Entry) : Except Failure (Option Quantity) :=
  match e with
  | none => .ok none
  | some e => (requireQuantity field e).map some

/-- The output format; text if it is absent. -/
def outputFormat (e : Option Entry) : Except Failure OutputFormat :=
  match e with
  | none => .ok .text
  | some e =>
    match OutputFormat.ofWord? (String.ofList (entryText e)) with
    | some format => .ok format
    | none =>
      let words := commaJoined (OutputFormat.all.map fun f => f.word.toList)
      .error (.invalidField "outputs.format" ("must be one of: " ++ String.ofList words))

end Promptbook.Document
