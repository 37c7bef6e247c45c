import Promptbook.Json.Encoding
import Promptbook.Telemetry.Session

/-!
# Texts of inputs and responses

How validated inputs become texts for the templates, and how a model's response becomes the text of the
answer.
-/

namespace Promptbook

open Promptbook.Text

/-- The text of an input: the items of a list are joined with commas, and nothing is the empty text. -/
def Value.inputText : Value → String
  | .list items => String.ofList (commaJoined (items.map Value.shown))
  | .tuple items => String.ofList (commaJoined (items.map Value.shown))
  | .null => ""
  | v => v.shownString

/-- The texts of inputs, as far as integers have a text. -/
def inputTexts (inputs : Entries Value) : Entries String :=
  inputs.map fun e => (e.1, e.2.inputText)

/-- The texts of inputs.  An input that holds an integer with too many digits has none. -/
def stringifyInputs (inputs : Entries Value) : Except Misuse (Entries String) :=
  if Value.entriesHoldLong inputs then .error .integerTooLongToWrite else .ok (inputTexts inputs)

/-- The key under which a response holds its text. -/
def responseKey : String := "response"

/-- The response that a value holds, as an entry, an attribute or a field. -/
def Value.response? : Value → Option Value
  | .table entries => Entries.get? entries responseKey
  | .reply _ response => some response
  | .record _ fields => Value.field? fields responseKey
  | _ => none

/-- The text that a value is; the words of closed lists are texts too. -/
def Value.asText? : Value → Option String
  | .text s => some s
  | .choice c => some c.word
  | _ => none

/-- The text that a response is or holds. -/
def Value.responseText? (v : Value) : Option String :=
  v.asText?.orElse fun _ => v.response?.bind Value.asText?

/-- The log record of a response without a text. -/
def serializingRecord (v : Value) : LogRecord :=
  ⟨.debug, "model response has no text field, serializing", [("response_type", .text v.typeName)]⟩

/-- The text of a response; one without a text is written as JSON. -/
def responseText {σ : Type} (v : Value) : Session σ String :=
  match v.responseText? with
  | some s => return s
  | none => do
    Session.log (serializingRecord v)
    Session.ofMisuse (v.jsonText none)

end Promptbook
