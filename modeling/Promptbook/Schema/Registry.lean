import Promptbook.Json.Encoding
import Promptbook.Schema.Builtin
import Promptbook.Value.Conversion

/-!
# Schemas by prompt

Each prompt id may have a schema for inputs and one for answers.  Inputs are read before a prompt is rendered;
answers of a prompt without a schema for them are passed on as they are.
-/

namespace Promptbook.Schema

/-- The schemas of one prompt. -/
structure PromptShapes where
  input : Shape
  output : Option Shape

/-- Schemas by prompt id. -/
abbrev SchemaBook := Entries PromptShapes

/-- The failure of data that does not fit a prompt's schema. -/
def violation (prompt direction model : String) (faults : List Fault) : Failure :=
  .schemaViolation prompt direction (String.ofList (Failure.reportText model faults))
    (some (.invalidRecord model faults)) (faults.map Fault.toValue)

namespace SchemaBook

/-- Sets the schemas of a prompt. -/
def define (book : SchemaBook) (prompt : String) (shapes : PromptShapes) : SchemaBook :=
  Entries.put book prompt shapes

/-- The schemas of a prompt, which must be there. -/
def require (book : SchemaBook) (prompt : String) : Except Failure PromptShapes :=
  match Entries.get? book prompt with
  | some shapes => .ok shapes
  | none => .error (.schemaNotFound prompt)

/-- Reads the inputs of a prompt: a table of all inputs under the names that the templates use. -/
def validateInput (book : SchemaBook) (prompt : String) (raw : Entries Value) :
    Except Failure (Entries Value) := do
  let shapes ← book.require prompt
  match shapes.input.read (.table raw) with
  | .error faults => .error (violation prompt "input" shapes.input.model faults)
  | .ok record => (record.tableOf .template).mapError .misuse

/-- Reads the inputs of a prompt from any value that amounts to a table. -/
def validateInputOf (book : SchemaBook) (prompt : String) (raw : Value) : Except Failure (Entries Value) := do
  let _ ← book.require prompt
  book.validateInput prompt (← raw.toEntries.mapError .misuse)

/-- Reads the answer to a prompt. -/
def validateOutput (book : SchemaBook) (prompt : String) (raw : Value) : Except Failure Value := do
  let shapes ← book.require prompt
  match shapes.output with
  | none => .ok raw
  | some shape => (shape.read raw).mapError (violation prompt "output" shape.model)

/-- The schemas of the built-in prompts. -/
def builtin : SchemaBook :=
  [("research_business", ⟨researchBusinessInput, some researchBusinessOutput⟩),
    ("generate_site", ⟨generateSiteInput, some generateSiteOutput⟩),
    ("score_quality", ⟨scoreQualityInput, some scoreQualityOutput⟩),
    ("site_copy", ⟨siteCopyInput, some siteCopyOutput⟩)]

end SchemaBook
end Promptbook.Schema
