import Promptbook.Hash.Sha256
import Promptbook.Number.Binary64
import Promptbook.Telemetry.CallLog
import Promptbook.Telemetry.Session
import Promptbook.Value.Conversion

/-!
# Observed calls

`observe` makes one model call inside a span and leaves one call record, whether the call goes well or not.
-/

namespace Promptbook

open Promptbook.Number

/-- What a model call hands back: an output with a token count, or a table that holds them. -/
inductive Invocation
  | output (text tokenCount : Value)
  | table (entries : Entries Value)
deriving Repr

namespace Invocation

/-- A token count as an integer; nothing counts as zero. -/
def countTokens (v : Value) : Except Misuse Int :=
  if v.isTruthy then v.toInteger else .ok 0

/-- The token count of a table, under either of its names. -/
def tokensOf (entries : Entries Value) : Value :=
  ((entries.get? "token_count").orElse fun _ => entries.get? "tokenCount").getD (.int 0)

/-- The output and the token count. -/
def unpack : Invocation → Except Misuse (Value × Int)
  | output text tokenCount => (countTokens tokenCount).map fun n => (text, n)
  | table entries =>
    match entries.get? "output" with
    | none => .error (.missingKey "output")
    | some text => (countTokens (tokensOf entries)).map fun n => (text, n)

end Invocation

/-- The hash of a call's inputs; the order of the inputs does not count. -/
def hashInputs (inputs : Entries Value) : Except Misuse String :=
  ((Value.table inputs).canonicalText).map Hash.sha256

/-- The readings of a clock, in seconds, at the start and at the end of a call, and the date of the call. -/
structure Clock where
  start : Float
  finish : Float
  timestamp : String

/-- The time between two readings in milliseconds, rounded to the nearest integer, a tie to the even one. -/
def elapsedMs (start finish : Float) : Except Misuse Int :=
  let ms := (finish - start) * 1000
  match roundToInt? ms with
  | some n => .ok n
  | none => .error (if isNaN ms then .integerOfUndefined "float NaN" else .integerOfInfinity "float infinity")

/-- A call that is about to be observed: the prompt with its key, the model, how often the call was tried before,
and the hash of the inputs. -/
structure Call where
  prompt : Prompt
  promptKey : String
  model : Option String
  retryCount : Int
  inputHash : String

namespace Call

/-- The attributes of the call's span. -/
def attributes (c : Call) : Entries Value :=
  [("prompt_key", .text c.promptKey), ("model", .ofText? c.model), ("retry_count", .int c.retryCount),
    ("input_hash", .text c.inputHash)]

/-- The record of the call. -/
def log (c : Call) (timestamp : String) (latencyMs tokenCount : Int) (outcome : Outcome)
    (errorMessage : Option String) : CallLog where
  promptId := c.prompt.id
  promptVersion := c.prompt.version
  promptVariant := c.prompt.variant
  model := c.model
  params := c.prompt.params
  inputHash := c.inputHash
  latencyMs := latencyMs
  tokenCount := tokenCount
  cost := none
  outcome := outcome
  retryCount := c.retryCount
  errorMessage := errorMessage
  timestamp := timestamp

end Call

/-- The output of an observed call and its record. -/
structure Observed where
  result : Value
  log : CallLog

variable {σ : Type}

/-- The name of the span of a call. -/
def callSpan : String := "promptkit.llm_call"

/-- Makes a call and leaves its record, unless the time it took is no number or the failure fails to give its
text. -/
def Call.record (c : Call) (clock : Clock) (invoke : Session σ Invocation) : Session σ Observed := do
  let result ← Session.outcome do
    let invocation ← invoke
    Session.ofMisuse invocation.unpack
  let latencyMs ← Session.ofMisuse (elapsedMs clock.start clock.finish)
  match result with
  | .ok (text, tokenCount) =>
    let log := c.log clock.timestamp latencyMs tokenCount .success none
    Session.annotate [("latency_ms", .int latencyMs), ("token_count", .int tokenCount)]
    Session.log log.logRecord
    return ⟨text, log⟩
  | .error failure =>
    let report ← Session.ofExcept failure.report
    Session.log (c.log clock.timestamp latencyMs 0 .error (some report)).logRecord
    Session.fail failure

/-- Makes one model call inside a span and leaves its record.  Inputs that cannot be hashed and a prompt without
a key stop it before the call. -/
def observe (prompt : Prompt) (model : Option String) (inputs : Entries Value) (retryCount : Int)
    (clock : Clock) (invoke : Session σ Invocation) : Session σ Observed := Session.coroutine do
  let inputHash ← Session.ofMisuse (hashInputs inputs)
  let promptKey ← Session.ofMisuse prompt.key
  let call : Call := ⟨prompt, promptKey, model, retryCount, inputHash⟩
  Session.inSpan callSpan call.attributes (call.record clock invoke)

end Promptbook
