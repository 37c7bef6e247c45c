import Promptbook.Prompt.Registry
import Promptbook.Run.Model
import Promptbook.Run.Response
import Promptbook.Telemetry.Observe

/-!
# Runs

`run` takes one prompt all the way: the inputs are validated, the prompt is resolved and rendered, and the
model is asked inside an observed call.  A failure before the call leaves no trace of one.
-/

namespace Promptbook

open Promptbook.Schema Promptbook.Fields

/-- What validates the inputs of a prompt. -/
abbrev Validator := String → Entries Value → Except Failure (Entries Value)

/-- The validator that passes inputs on as they are. -/
def passInputs : Validator := fun _ inputs => .ok inputs

/-- What a caller asks for. -/
structure RunRequest where
  id : String
  version : Int
  inputs : Entries Value
  variant : Option String
  seed : Option String
  retryCount : Int
  modelOverride : Option String
  options : RenderOptions
  clock : Clock

/-- What a caller gets. -/
structure CallResult where
  output : String
  model : Option String
  tokensUsed : Int
  latencyMs : Int
  promptId : String
  promptVersion : Int
  promptVariant : Option String
deriving Repr, DecidableEq

namespace CallResult

/-- The result as a record. -/
def toRecord (r : CallResult) : Value :=
  .record callResultShape.model [
    field "success" (.bool true),
    field "output" (.text r.output),
    field "model" (.ofText? r.model),
    fieldAs "tokens_used" "tokensUsed" (.int r.tokensUsed),
    fieldAs "latency_ms" "latencyMs" (.int r.latencyMs),
    fieldAs "prompt_id" "promptId" (.text r.promptId),
    fieldAs "prompt_version" "promptVersion" (.int r.promptVersion),
    fieldAs "prompt_variant" "promptVariant" (.ofText? r.promptVariant)]

end CallResult

namespace RunRequest

/-- A name that is given and not empty. -/
def given (name : Option String) : Option String :=
  name.filter fun s => !s.isEmpty

/-- The prompt that is asked for: by seed, else by variant, else the one without a variant. -/
def resolve (r : RunRequest) (registry : Registry) : Except Misuse (Option Prompt) :=
  match given r.seed, given r.variant with
  | some seed, _ => registry.resolveVariant r.id r.version seed
  | none, some variant => registry.resolveExact r.id r.version (some variant)
  | none, none => registry.resolve r.id r.version

/-- The key that is named when there is no such prompt. -/
def missedKey (r : RunRequest) : Except Misuse String :=
  Key.build r.id r.version (if (given r.seed).isSome then none else r.variant)

/-- The prompt that is asked for, which must be registered. -/
def require (r : RunRequest) (registry : Registry) : Except Failure Prompt := do
  match ← (r.resolve registry).mapError .misuse with
  | some p => .ok p
  | none => .error (.promptNotFound (← r.missedKey.mapError .misuse))

end RunRequest

/-- The request that a rendered prompt makes. -/
def Rendered.request (r : Rendered) : Request :=
  ⟨[⟨"system", r.system⟩, ⟨"user", r.user⟩], r.params.temperature, r.params.maxTokens⟩

/-- Validated inputs with their prompt, rendered. -/
structure Prepared where
  prompt : Prompt
  inputs : Entries Value
  rendered : Rendered

/-- All that comes before the model: validation, resolution and rendering, in this order. -/
def prepare (registry : Registry) (validate : Validator) (r : RunRequest) : Except Failure Prepared := do
  let inputs ← validate r.id r.inputs
  let prompt ← r.require registry
  let texts ← (stringifyInputs inputs).mapError .misuse
  let rendered ← prompt.render r.options (texts.map fun e => (e.1, some e.2))
  return ⟨prompt, inputs, rendered⟩

variable {σ : Type}

/-- Asks a model and turns its response into a text. -/
def ask (model : Model σ) (name : Option String) (request : Request) : Session σ Invocation := Session.coroutine do
  let response ← model name request
  let text ← responseText response
  return .output (.text text) (.int 0)

/-- Runs a prompt. -/
def run (registry : Registry) (validate : Validator) (model : Model σ) (r : RunRequest) :
    Session σ CallResult := Session.coroutine do
  let prepared ← Session.ofExcept (prepare registry validate r)
  let name := (RunRequest.given r.modelOverride).orElse fun _ => prepared.rendered.model
  let observed ← observe prepared.prompt name prepared.inputs r.retryCount r.clock
    (ask model name prepared.rendered.request)
  return {
    output := observed.result.shownString
    model := name
    tokensUsed := observed.log.tokenCount
    latencyMs := observed.log.latencyMs
    promptId := prepared.prompt.id
    promptVersion := prepared.prompt.version
    promptVariant := prepared.prompt.variant }

end Promptbook
