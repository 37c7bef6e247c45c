import Promptbook.Failure.Basic
import Promptbook.Render.Prompt
import Promptbook.Schema.Records

/-!
# Prompts as records

The typed data of the library and the records of the same content.  `toRecord` writes a record; `ofRecord?`
reads one that fits its schema; `read` first brings any value into that form.
-/

namespace Promptbook

open Promptbook.Schema

/-- The fields of a record. -/
abbrev Fields := List (FieldName × Value)

namespace Fields

/-- The value of a field. -/
def get? (fields : Fields) (name : String) : Option Value :=
  Value.field? fields name

/-- A field that holds a text. -/
def text? (fields : Fields) (name : String) : Option String :=
  match fields.get? name with
  | some (.text s) => some s
  | _ => none

/-- A field that holds a text or nothing. -/
def maybeText? (fields : Fields) (name : String) : Option (Option String) :=
  match fields.get? name with
  | some (.text s) => some (some s)
  | some .null => some none
  | _ => none

/-- A field that holds an integer. -/
def int? (fields : Fields) (name : String) : Option Int :=
  match fields.get? name with
  | some (.int n) => some n
  | _ => none

/-- A field that holds a floating point number. -/
def float? (fields : Fields) (name : String) : Option Float :=
  match fields.get? name with
  | some (.float x) => some x
  | _ => none

/-- A field that holds a floating point number or nothing. -/
def maybeFloat? (fields : Fields) (name : String) : Option (Option Float) :=
  match fields.get? name with
  | some (.float x) => some (some x)
  | some .null => some none
  | _ => none

/-- A field that holds a flag. -/
def flag? (fields : Fields) (name : String) : Option Bool :=
  match fields.get? name with
  | some (.bool b) => some b
  | _ => none

/-- The word that a field holds. -/
def word? (fields : Fields) (name : String) : Option String :=
  match fields.get? name with
  | some (.choice c) => some c.word
  | _ => none

/-- The text that a value is. -/
def textOf? : Value → Option String
  | .text s => some s
  | _ => none

/-- A field that holds a list of texts. -/
def texts? (fields : Fields) (name : String) : Option (List String) :=
  match fields.get? name with
  | some (.list items) => items.mapM textOf?
  | _ => none

/-- A field that holds a table of texts. -/
def textTable? (fields : Fields) (name : String) : Option (Entries String) :=
  match fields.get? name with
  | some (.table entries) => entries.mapM fun e => (textOf? e.2).map fun s => (e.1, s)
  | _ => none

/-- The integer that a value is. -/
def intOf? : Value → Option Int
  | .int n => some n
  | _ => none

/-- A field that holds a table of integers. -/
def intTable? (fields : Fields) (name : String) : Option (Entries Int) :=
  match fields.get? name with
  | some (.table entries) => entries.mapM fun e => (intOf? e.2).map fun n => (e.1, n)
  | _ => none

/-- A field with one name. -/
def field (name : String) (value : Value) : FieldName × Value :=
  (⟨name, name, false⟩, value)

/-- A field with two names. -/
def fieldAs (name wire : String) (value : Value) : FieldName × Value :=
  (⟨name, wire, false⟩, value)

end Fields

/-- The fields of a value that is a record. -/
def Value.fields : Value → Fields
  | .record _ fields => fields
  | _ => []

open Fields

/-- The settings as a record. -/
def Params.toRecord (p : Params) : Value :=
  .record paramsShape.model [
    field "temperature" (.float p.temperature), fieldAs "max_tokens" "maxTokens" (.int p.maxTokens)]

/-- The settings that a record holds. -/
def Params.ofRecord? (v : Value) : Option Params := do
  return ⟨← v.fields.float? "temperature", ← v.fields.int? "max_tokens"⟩

/-- The names of the inputs as a record. -/
def InputNames.toRecord (names : InputNames) : Value :=
  .record inputNamesShape.model [
    field "required" (.ofTexts names.required), field "optional" (.ofTexts names.optional)]

/-- The names of the inputs that a record holds. -/
def InputNames.ofRecord? (v : Value) : Option InputNames := do
  return ⟨← v.fields.texts? "required", ← v.fields.texts? "optional"⟩

/-- The form of the answer as a record. -/
def Outputs.toRecord (o : Outputs) : Value :=
  .record outputsShape.model [
    field "format" (.choice (formatChoice o.format)), fieldAs "schema_name" "schema" (.ofText? o.schema)]

/-- The form of the answer that a record holds. -/
def Outputs.ofRecord? (v : Value) : Option Outputs := do
  let word ← v.fields.word? "format"
  return ⟨← OutputFormat.ofWord? word, ← v.fields.maybeText? "schema_name"⟩

namespace Prompt

/-- A prompt as a record. -/
def toRecord (p : Prompt) : Value :=
  .record promptShape.model [
    field "id" (.text p.id),
    field "version" (.int p.version),
    field "variant" (.ofText? p.variant),
    field "description" (.text p.description),
    field "models" (.ofTexts p.models),
    field "params" p.params.toRecord,
    field "inputs" p.inputs.toRecord,
    field "outputs" p.outputs.toRecord,
    field "notes" (.table (p.notes.map fun e => (e.1, .text e.2))),
    field "system" (.text p.system),
    field "user" (.text p.user)]

/-- The prompt that a record holds. -/
def ofRecord? (v : Value) : Option Prompt := do
  let fields := v.fields
  return {
    id := ← fields.text? "id"
    version := ← fields.int? "version"
    variant := ← fields.maybeText? "variant"
    description := ← fields.text? "description"
    models := ← fields.texts? "models"
    params := ← (fields.get? "params").bind Params.ofRecord?
    inputs := ← (fields.get? "inputs").bind InputNames.ofRecord?
    outputs := ← (fields.get? "outputs").bind Outputs.ofRecord?
    notes := ← fields.textTable? "notes"
    system := ← fields.text? "system"
    user := ← fields.text? "user" }

end Prompt

/-- Reads a value with a schema and then as typed data. -/
def readRecord {α : Type} (shape : Shape) (ofRecord? : Value → Option α) (v : Value) : Except Failure α :=
  match shape.read v with
  | .error faults => .error (.invalidRecord shape.model faults)
  | .ok record =>
    match ofRecord? record with
    | some data => .ok data
    | none => .error (.invalidRecord shape.model [])

/-- Reads a prompt from a value. -/
def Prompt.read (v : Value) : Except Failure Prompt :=
  readRecord promptShape Prompt.ofRecord? v

/-- The options that a record holds. -/
def RenderOptions.ofRecord? (v : Value) : Option RenderOptions := do
  return ⟨← v.fields.flag? "safe_delimit", ← v.fields.flag? "strip_unresolved"⟩

/-- Reads options from a value. -/
def RenderOptions.read (v : Value) : Except Failure RenderOptions :=
  readRecord renderOptionsShape RenderOptions.ofRecord? v

end Promptbook
