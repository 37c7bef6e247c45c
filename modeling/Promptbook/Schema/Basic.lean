import Promptbook.Entries
import Promptbook.Schema.Scalar
import Promptbook.Text.Search

/-!
# Schemas

A schema says which values are accepted and as what.  Reading a value with a schema is lenient: the result
holds the value in the form that the schema asks for, with defaults for absent fields.  All faults are
reported: those of the fields in the order in which they are declared, then the keys that the schema does not
know.
-/

namespace Promptbook.Schema

open Promptbook.Number Promptbook.Text

/-- What becomes of keys that a record's schema does not know. -/
inductive Extras
  | refused
  | ignored
  | kept
deriving Repr, DecidableEq

/-- The names of a field and its value when it is absent; without a default the field is mandatory. -/
structure FieldRule where
  name : FieldName
  default : Option Value
deriving Repr

/-- A schema. -/
inductive Shape
  /-- Any value. -/
  | anything
  /-- A text with a least and perhaps a greatest number of characters. -/
  | text (least : Nat) (most : Option Nat)
  /-- A text that holds one of some marks. -/
  | marked (marks : List String) (complaint : String)
  /-- An integer, perhaps with a least value. -/
  | integer (least : Option Int)
  /-- A floating point number. -/
  | number
  /-- A floating point number from zero to one. -/
  | score
  /-- A flag. -/
  | flag
  /-- A word of a closed list. -/
  | choice (options : List Choice)
  /-- A list with a least and perhaps a greatest number of items. -/
  | list (item : Shape) (least : Nat) (most : Option Nat)
  /-- A table of texts with values. -/
  | table (item : Shape)
  /-- A value or nothing. -/
  | optional (inner : Shape)
  /-- A text or nothing, where the empty text stands for nothing. -/
  | optionalName
  /-- A record. -/
  | record (model : String) (extras : Extras) (fields : List (FieldRule × Shape))
deriving Repr

/-- The name of the records that a schema describes. -/
def Shape.model : Shape → String
  | record model _ _ => model
  | _ => ""

/-- The result of reading a value. -/
abbrev Reading := Except (List Fault) Value

/-- A reading that may fail at the value itself. -/
def atHere (result : Except FaultKind Value) : Reading :=
  result.mapError fun kind => [Fault.here kind]

/-- A reading seen from one step further out. -/
def underStep (step : Step) (result : Reading) : Reading :=
  result.mapError fun faults => faults.map (Fault.under step)

/-- Puts readings together: all values, or all faults. -/
def collect {α : Type} : List (Except (List Fault) α) → Except (List Fault) (List α)
  | [] => .ok []
  | .ok v :: rest => (collect rest).map (v :: ·)
  | .error faults :: rest =>
    match collect rest with
    | .ok _ => .error faults
    | .error more => .error (faults ++ more)

/-- A text of a length within bounds. -/
def boundedText (least : Nat) (most : Option Nat) (s : String) : Except FaultKind Value :=
  if s.length < least then .error (.textTooShort least)
  else
    match most with
    | some n => if n < s.length then .error (.textTooLong n) else .ok (.text s)
    | none => .ok (.text s)

/-- A text that holds one of some marks. -/
def markedText (marks : List String) (complaint : String) (s : String) : Except FaultKind Value :=
  if marks.any fun mark => holds mark.toList s.toList then .ok (.text s) else .error (.refused complaint)

/-- An integer that is not below a bound. -/
def boundedInteger (least : Option Int) (n : Int) : Except FaultKind Value :=
  match least with
  | some bound => if n < bound then .error (.tooSmall bound) else .ok (.int n)
  | none => .ok (.int n)

/-- Is the number at least zero? -/
def isNonNegative (x : Float) : Bool :=
  !isNaN x && (!isNegative x || isZero x)

/-- Is the number at most one? -/
def isAtMostOne (x : Float) : Bool :=
  !isNaN x && (isNegative x || x.toBits.toNat ≤ (ofInt 1).toBits.toNat)

/-- A number from zero to one. -/
def scoreNumber (x : Float) : Except FaultKind Value :=
  if !isAtMostOne x then .error (.tooLarge 1)
  else if !isNonNegative x then .error (.tooSmall 0)
  else .ok (.float x)

/-- The word of a closed list that a value spells. -/
def readChoice (options : List Choice) (v : Value) : Except FaultKind Value :=
  match (readText v).toOption.bind fun word => options.find? fun c => c.word == word with
  | some c => .ok (.choice c)
  | none => .error (.notAmong (options.map Choice.word))

/-- The items of a value that counts as a list; a record counts as the list of its fields. -/
def itemsOf? : Value → Option (List Value)
  | .list items => some items
  | .tuple items => some items
  | .set items => some items
  | .record _ fields => some (Value.fieldPairs fields)
  | _ => none

/-- The number of items of a value that counts as a list, if it is known before they are read.  A record gives
its fields one by one. -/
def announced? : Value → Option Nat
  | .record _ _ => none
  | v => (itemsOf? v).map List.length

/-- Judges the number of items of a list; too many hide the faults of the items, which hide that there are too
few. -/
def boundedList (least : Nat) (most : Option Nat) (count : Nat) (announced : Option Nat)
    (items : Except (List Fault) (List Value)) : Reading :=
  match most.filter fun n => n < count with
  | some n => .error [Fault.here (.listTooLong n announced)]
  | none =>
    match items with
    | .error faults => .error faults
    | .ok values =>
      if count < least then .error [Fault.here (.listTooShort least count)] else .ok (.list values)

/-- The key under which a record's input has a field, its wire name before its own, and the value there. -/
def lookUp? (entries : Entries Value) (f : FieldName) : Option (String × Value) :=
  match entries.get? f.wire with
  | some v => some (f.wire, v)
  | none => (entries.get? f.name).map fun v => (f.name, v)

/-- The keys of the input that are taken for fields. -/
def usedKeys (entries : Entries Value) (rules : List FieldRule) : List String :=
  rules.filterMap fun r => (lookUp? entries r.name).map (·.1)

/-- The entries of the input that no field takes. -/
def extraEntries (entries : Entries Value) (rules : List FieldRule) : Entries Value :=
  entries.filter fun e => !(usedKeys entries rules).contains e.1

/-- What becomes of the entries that no field takes: fields of the record, or faults. -/
def readExtras (extras : Extras) (entries : Entries Value) : List (Except (List Fault) (FieldName × Value)) :=
  match extras with
  | .ignored => []
  | .kept => entries.map fun e => .ok (⟨e.1, e.1, true⟩, e.2)
  | .refused => entries.map fun e => .error [⟨[.key e.1], .extraKey⟩]

/-- A field with its reading. -/
def named (f : FieldName) (result : Reading) : Except (List Fault) (FieldName × Value) :=
  result.map fun v => (f, v)

/-- The reading of an absent field. -/
def absent (rule : FieldRule) : Reading :=
  match rule.default with
  | some v => .ok v
  | none => .error [⟨[.key rule.name.wire], .missing⟩]

/-- Is the value an instance of a record's schema already? -/
def isInstance (model : String) : Value → Bool
  | .record m _ => m == model
  | _ => false

mutual

/-- Reads a value with a schema. -/
def Shape.read : Shape → Value → Reading
  | .anything, v => .ok v
  | .text least most, v => atHere (readText v >>= boundedText least most)
  | .marked marks complaint, v => atHere (readText v >>= markedText marks complaint)
  | .integer least, v => atHere (readInteger v >>= boundedInteger least)
  | .number, v => atHere ((readNumber v).map .float)
  | .score, v => atHere (readNumber v >>= scoreNumber)
  | .flag, v => atHere ((readFlag v).map .bool)
  | .choice options, v => atHere (readChoice options v)
  | .list item least most, v =>
    match itemsOf? v with
    | none => .error [Fault.here .listType]
    | some items =>
      boundedList least most items.length (announced? v)
        (collect (items.mapIdx fun i w => underStep (.index i) (item.read w)))
  | .table item, v =>
    match v with
    | .table entries =>
      (collect (entries.map fun e => (underStep (.key e.1) (item.read e.2)).map fun w => (e.1, w))).map .table
    | _ => .error [Fault.here .tableType]
  | .optional inner, v =>
    match v with
    | .null => .ok .null
    | v => inner.read v
  | .optionalName, v =>
    match v with
    | .null => .ok .null
    | v => atHere ((readText v).map fun s => if s.isEmpty then .null else .text s)
  | .record model extras fields, v =>
    if isInstance model v then .ok v
    else
      match v with
      | .table entries =>
        (collect (readFields fields entries ++
          readExtras extras (extraEntries entries (fields.map (·.1))))).map (.record model)
      | _ => .error [Fault.here (.recordType model)]

/-- Reads the fields of a record. -/
def readFields : List (FieldRule × Shape) → Entries Value → List (Except (List Fault) (FieldName × Value))
  | [], _ => []
  | (rule, shape) :: fields, entries =>
    let reading := match lookUp? entries rule.name with
      | some (key, v) => underStep (.key key) (shape.read v)
      | none => absent rule
    named rule.name reading :: readFields fields entries

end

end Promptbook.Schema
