import Promptbook.Json.Encoding
import Promptbook.Prompt.Record
import Promptbook.Telemetry.Log

/-!
# Call records

Every observed model call leaves one record: which prompt was used with which model and settings, a hash of
its inputs, how long the call took and how it ended.
-/

namespace Promptbook

open Promptbook.Schema Promptbook.Fields

/-- How a call ended. -/
inductive Outcome
  | success
  | error
deriving Repr, DecidableEq

namespace Outcome

/-- An outcome as a word of the list of outcomes. -/
def choice : Outcome → Choice
  | success => successChoice
  | error => errorChoice

/-- The word for an outcome. -/
def word (outcome : Outcome) : String :=
  outcome.choice.word

/-- The outcome that a word stands for. -/
def ofWord? (s : String) : Option Outcome :=
  [success, error].find? fun outcome => outcome.word == s

/-- Reads the word for an outcome. -/
def read (s : String) : Except Misuse Outcome :=
  match ofWord? s with
  | some outcome => .ok outcome
  | none => .error (.notAMember (Text.quoted s.toList) "CallOutcome")

/-- The level at which a call with an outcome is logged. -/
def level : Outcome → Level
  | success => .info
  | error => .error

end Outcome

/-- The record of one model call. -/
structure CallLog where
  promptId : String
  promptVersion : Int
  promptVariant : Option String
  model : Option String
  params : Params
  inputHash : String
  latencyMs : Int
  tokenCount : Int
  cost : Option Float
  outcome : Outcome
  retryCount : Int
  errorMessage : Option String
  timestamp : String
deriving Repr

namespace CallLog

/-- A call record as a record. -/
def toRecord (log : CallLog) : Value :=
  .record callLogShape.model [
    fieldAs "prompt_id" "promptId" (.text log.promptId),
    fieldAs "prompt_version" "promptVersion" (.int log.promptVersion),
    fieldAs "prompt_variant" "promptVariant" (.ofText? log.promptVariant),
    field "model" (.ofText? log.model),
    field "params" log.params.toRecord,
    fieldAs "input_hash" "inputHash" (.text log.inputHash),
    fieldAs "latency_ms" "latencyMs" (.int log.latencyMs),
    fieldAs "token_count" "tokenCount" (.int log.tokenCount),
    field "cost" (match log.cost with
      | some x => .float x
      | none => .null),
    field "outcome" (.choice log.outcome.choice),
    fieldAs "retry_count" "retryCount" (.int log.retryCount),
    fieldAs "error_message" "errorMessage" (.ofText? log.errorMessage),
    field "timestamp" (.text log.timestamp)]

/-- The call record that a record holds. -/
def ofRecord? (v : Value) : Option CallLog := do
  let fields := v.fields
  return {
    promptId := ← fields.text? "prompt_id"
    promptVersion := ← fields.int? "prompt_version"
    promptVariant := ← fields.maybeText? "prompt_variant"
    model := ← fields.maybeText? "model"
    params := ← (fields.get? "params").bind Params.ofRecord?
    inputHash := ← fields.text? "input_hash"
    latencyMs := ← fields.int? "latency_ms"
    tokenCount := ← fields.int? "token_count"
    cost := ← fields.maybeFloat? "cost"
    outcome := ← (fields.word? "outcome").bind Outcome.ofWord?
    retryCount := ← fields.int? "retry_count"
    errorMessage := ← fields.maybeText? "error_message"
    timestamp := ← fields.text? "timestamp" }

/-- Reads a call record from a value. -/
def read (v : Value) : Except Failure CallLog :=
  readRecord callLogShape ofRecord? v

/-- The event under which call records are logged. -/
def event : String := "llm_call"

/-- The service that call records name. -/
def service : String := "ai_workflow"

/-- The entries of a call record that hold something, under their own names. -/
def entries (log : CallLog) : Entries Value :=
  ((log.toRecord.tableOf .log).toOption).getD []

/-- The log record of a call record. -/
def logRecord (log : CallLog) : LogRecord :=
  ⟨log.outcome.level, event, ("service", .text service) :: log.entries⟩

end CallLog
end Promptbook
