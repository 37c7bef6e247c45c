import Promptbook.Prompt.Record
import Promptbook.Telemetry.Session

/-!
# Models

A model is asked with a request and answers with a value or fails.  Two models for trying out prompts: `echo`
answers with what it was asked, `scripted` gives prepared answers one after the other.
-/

namespace Promptbook

open Promptbook.Number Promptbook.Schema

/-- A message to a model. -/
structure Message where
  role : String
  content : String
deriving Repr, DecidableEq

/-- A request to a model. -/
structure Request where
  messages : List Message
  temperature : Float
  maxTokens : Int
deriving Repr

/-- The message that a record holds. -/
def Message.ofRecord? (v : Value) : Option Message := do
  return ⟨← v.fields.text? "role", ← v.fields.text? "content"⟩

/-- The request that a record holds. -/
def Request.ofRecord? (v : Value) : Option Request := do
  let messages ← match v.fields.get? "messages" with
    | some (.list items) => items.mapM Message.ofRecord?
    | _ => none
  return ⟨messages, ← v.fields.float? "temperature", ← v.fields.int? "max_tokens"⟩

/-- Reads a request from a value. -/
def Request.read (v : Value) : Except Failure Request :=
  readRecord requestShape Request.ofRecord? v

/-- A model, called by name with a request, in a session with a state of type `σ`. -/
abbrev Model (σ : Type) := Option String → Request → Session σ Value

/-- What a script holds for one request: a value or a failure. -/
inductive Scripted
  | value (v : Value)
  | failure (f : Failure)

/-- What a trial model remembers: how many answers it has given, and what it was asked last. -/
structure TrialState where
  taken : Nat
  lastModel : Option String
  lastRequest : Option Request

/-- A trial model that nobody has asked yet. -/
def TrialState.start : TrialState := ⟨0, none, none⟩

/-- The name of a model, or the word for none. -/
def modelName (model : Option String) : String :=
  model.getD "None"

/-- What the echo model answers.  A token limit with too many digits cannot be written. -/
def echoText (model : Option String) (request : Request) : Except Misuse String :=
  let messages := request.messages.map fun m => " " ++ m.role ++ ": " ++ m.content
  (integerText request.maxTokens).map fun maxTokens =>
    "[ECHO:" ++ modelName model ++ "]" ++ String.join messages ++
      " temperature=" ++ String.ofList (Layout.shown.text request.temperature) ++ " max_tokens=" ++ maxTokens

/-- Remembers what a model was asked. -/
def remember (model : Option String) (request : Request) : Session TrialState Unit := do
  let w ← Session.world
  Session.setWorld { w with lastModel := model, lastRequest := some request }

/-- The model that answers with what it was asked. -/
def echo : Model TrialState := fun model request => Session.coroutine do
  remember model request
  let answer ← Session.ofMisuse (echoText model request)
  return .table [("response", .text answer)]

/-- The model that goes through a script, one step for each request: it hands over values and fails with failures,
but an interruption in the script is a value too. -/
def scripted (script : List Scripted) : Model TrialState := fun model request => Session.coroutine do
  remember model request
  let w ← Session.world
  match script[w.taken]? with
  | none => Session.fail (.misuse .noReplyLeft)
  | some step =>
    Session.setWorld { w with taken := w.taken + 1 }
    match step with
    | .value v => return v
    | .failure f => if f.isInterruption then return f.toValue else Session.fail f

end Promptbook
