import Promptbook.Prompt.Spec
import Promptbook.Schema.Basic

/-!
# The schemas of the library's records

The records that the library reads and writes, with the names of their fields in code and on the wire.  None
of them takes keys that it does not know, except the report of a failure, which keeps them.
-/

namespace Promptbook.Schema

/-- A field with one name that must be given. -/
def required (name : String) (shape : Shape) : FieldRule × Shape :=
  (⟨⟨name, name, false⟩, none⟩, shape)

/-- A field with two names that must be given. -/
def requiredAs (name wire : String) (shape : Shape) : FieldRule × Shape :=
  (⟨⟨name, wire, false⟩, none⟩, shape)

/-- A field with one name and a default. -/
def defaulted (name : String) (value : Value) (shape : Shape) : FieldRule × Shape :=
  (⟨⟨name, name, false⟩, some value⟩, shape)

/-- A field with two names and a default. -/
def defaultedAs (name wire : String) (value : Value) (shape : Shape) : FieldRule × Shape :=
  (⟨⟨name, wire, false⟩, some value⟩, shape)

/-- A field that must be given and takes any value. -/
def requiredFree (name : String) : FieldRule × Shape :=
  (⟨⟨name, name, true⟩, none⟩, .anything)

/-- Any text. -/
def anyText : Shape := .text 0 none

/-- Any integer. -/
def anyInteger : Shape := .integer none

/-- A list of texts. -/
def textList : Shape := .list anyText 0 none

/-- A text or nothing. -/
def maybeText : Shape := .optional anyText

/-- A format as a word of the list of formats. -/
def formatChoice : OutputFormat → Choice
  | .text => ⟨"OutputFormat", "TEXT", OutputFormat.text.word⟩
  | .json => ⟨"OutputFormat", "JSON", OutputFormat.json.word⟩
  | .markdown => ⟨"OutputFormat", "MARKDOWN", OutputFormat.markdown.word⟩
  | .html => ⟨"OutputFormat", "HTML", OutputFormat.html.word⟩

/-- The outcome of a call that went well. -/
def successChoice : Choice := ⟨"CallOutcome", "SUCCESS", "success"⟩

/-- The outcome of a call that failed. -/
def errorChoice : Choice := ⟨"CallOutcome", "ERROR", "error"⟩

/-- The settings of a model call. -/
def paramsShape : Shape :=
  .record "PromptParams" .refused [
    defaulted "temperature" (.float Params.defaultTemperature) .number,
    defaultedAs "max_tokens" "maxTokens" (.int Params.defaultMaxTokens) anyInteger]

/-- The names of a prompt's inputs. -/
def inputNamesShape : Shape :=
  .record "PromptInputs" .refused [
    defaulted "required" (.list []) textList,
    defaulted "optional" (.list []) textList]

/-- What a prompt's answer should look like. -/
def outputsShape : Shape :=
  .record "PromptOutputs" .refused [
    defaulted "format" (.choice (formatChoice .text)) (.choice (OutputFormat.all.map formatChoice)),
    defaultedAs "schema_name" "schema" .null maybeText]

/-- The record that a schema makes of an empty table. -/
def emptyRecord (shape : Shape) : Value :=
  ((shape.read (.table [])).toOption).getD .null

/-- A prompt. -/
def promptShape : Shape :=
  .record "PromptSpec" .refused [
    required "id" anyText,
    required "version" (.integer (some 1)),
    defaulted "variant" .null .optionalName,
    defaulted "description" (.text "") anyText,
    defaulted "models" (.list []) textList,
    defaulted "params" (emptyRecord paramsShape) paramsShape,
    defaulted "inputs" (emptyRecord inputNamesShape) inputNamesShape,
    defaulted "outputs" (emptyRecord outputsShape) outputsShape,
    defaulted "notes" (.table []) (.table anyText),
    required "system" anyText,
    required "user" anyText]

/-- The weights of an experiment. -/
def experimentShape : Shape :=
  .record "VariantConfig" .refused [
    requiredAs "prompt_id" "promptId" anyText,
    required "version" anyInteger,
    required "weights" (.table anyInteger)]

/-- A rendered prompt. -/
def renderedShape : Shape :=
  .record "RenderedPrompt" .refused [
    required "system" anyText,
    required "user" anyText,
    defaulted "model" .null maybeText,
    required "params" paramsShape]

/-- The result of a run. -/
def callResultShape : Shape :=
  .record "LlmCallResult" .refused [
    required "success" .flag,
    required "output" anyText,
    defaulted "model" .null maybeText,
    defaultedAs "tokens_used" "tokensUsed" (.int 0) anyInteger,
    defaultedAs "latency_ms" "latencyMs" (.int 0) anyInteger,
    requiredAs "prompt_id" "promptId" anyText,
    requiredAs "prompt_version" "promptVersion" anyInteger,
    defaultedAs "prompt_variant" "promptVariant" .null maybeText]

/-- The record of an observed call. -/
def callLogShape : Shape :=
  .record "LlmCallLog" .refused [
    requiredAs "prompt_id" "promptId" anyText,
    requiredAs "prompt_version" "promptVersion" anyInteger,
    defaultedAs "prompt_variant" "promptVariant" .null maybeText,
    defaulted "model" .null maybeText,
    required "params" paramsShape,
    requiredAs "input_hash" "inputHash" anyText,
    requiredAs "latency_ms" "latencyMs" anyInteger,
    defaultedAs "token_count" "tokenCount" (.int 0) anyInteger,
    defaulted "cost" .null (.optional .number),
    required "outcome" (.choice [successChoice, errorChoice]),
    defaultedAs "retry_count" "retryCount" (.int 0) anyInteger,
    defaultedAs "error_message" "errorMessage" .null maybeText,
    required "timestamp" anyText]

/-- The counts of a registry. -/
def statsShape : Shape :=
  .record "RegistryStats" .refused [
    requiredAs "total_prompts" "totalPrompts" anyInteger,
    requiredAs "unique_ids" "uniqueIds" anyInteger,
    requiredAs "variant_configs" "variantConfigs" anyInteger]

/-- A message to a model. -/
def messageShape : Shape :=
  .record "Message" .refused [required "role" anyText, required "content" anyText]

/-- A request to a model. -/
def requestShape : Shape :=
  .record "ModelRequest" .refused [
    required "messages" (.list messageShape 0 none),
    required "temperature" .number,
    requiredAs "max_tokens" "maxTokens" anyInteger]

/-- How a prompt is rendered. -/
def renderOptionsShape : Shape :=
  .record "RenderOptions" .refused [
    defaulted "safe_delimit" (.bool true) .flag,
    defaulted "strip_unresolved" (.bool false) .flag]

/-- The report of a failure. -/
def failureReportShape : Shape :=
  .record "ErrorWireFormat" .kept [
    requiredFree "details",
    required "message" anyText,
    defaulted "status" (.text "INTERNAL") anyText]

/-- The schemas of all records of the library. -/
def recordShapes : List Shape :=
  [paramsShape, inputNamesShape, outputsShape, promptShape, experimentShape, renderedShape, callResultShape,
    callLogShape, statsShape, messageShape, requestShape, renderOptionsShape, failureReportShape]

/-- The schema of the records with a name. -/
def shapeOf? (model : String) : Option Shape :=
  recordShapes.find? fun shape => shape.model == model

end Promptbook.Schema
