import Promptbook.Document.Fields
import Promptbook.Document.Frontmatter
import Promptbook.Document.Templates

/-!
# Prompt documents

`parseDocument` reads a prompt from its document.  The block and the templates are read first (`readParts`), then
the fields (`promptOf`): id and version must be there, the others have defaults.
-/

namespace Promptbook.Document

open Promptbook.Metadata

/-- The prompt that a metadata block and two templates make up. -/
def promptOf (block : Block) (templates : Templates) : Except Failure Prompt := do
  let id ← requireText block "id"
  let version ← requireVersion block
  let params := mappingOf (block.get? "params")
  let inputs := mappingOf (block.get? "inputs")
  let outputs := mappingOf (block.get? "outputs")
  let notes := mappingOf (block.get? "notes")
  let temperature ← optionalQuantity "params.temperature" (present? params "temperature")
  let maxTokens ← optionalQuantity "params.max_tokens" (present? params "max_tokens")
  let format ← outputFormat (present? outputs "format")
  return {
    id, version
    variant := Key.variantOf ((present? block "variant").map fun e => String.ofList (entryText e))
    description := String.ofList (((block.get? "description").map entryText).getD [])
    models := textList (block.get? "models")
    params := {
      temperature := (temperature.map Quantity.toFloat).getD Params.defaultTemperature
      maxTokens := (maxTokens.map Quantity.toInt).getD Params.defaultMaxTokens }
    inputs := ⟨textList (inputs.get? "required"), textList (inputs.get? "optional")⟩
    outputs := ⟨format, (present? outputs "schema").map fun e => String.ofList (entryText e)⟩
    notes := notes.map fun e => (e.1, String.ofList (entryText e.2))
    system := String.ofList templates.system
    user := String.ofList templates.user }

/-- Reads a block; what is misused in it is no failure of the document. -/
def readBlock (cs : List Char) : Except Failure Block :=
  match parse cs with
  | .ok block => .ok block
  | .error m => .error (.misuse m)

/-- The parts of a document. -/
structure Parts where
  block : Block
  templates : Templates

/-- Reads the parts of a document. -/
def readParts (cs : List Char) : Except Failure Parts := do
  let frontmatter ← splitFrontmatter cs
  let block ← readBlock frontmatter.block
  let templates ← splitTemplates frontmatter.body
  return ⟨block, templates⟩

/-- Reads a prompt from the characters of its document. -/
def readPrompt (cs : List Char) : Except Failure Prompt := do
  let parts ← readParts cs
  promptOf parts.block parts.templates

/-- Reads a prompt from its document. -/
def parseDocument (raw : String) : Except Failure Prompt :=
  readPrompt raw.toList

end Promptbook.Document
