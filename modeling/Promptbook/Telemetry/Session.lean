import Promptbook.Telemetry.Log

/-!
# Sessions

Work that keeps a journal and may fail.  Besides the journal a session has a state of its own, such as the
replies that a model has left to give.  A failure keeps the journal and the state as they are at that point.
-/

namespace Promptbook

/-- The journal of a session, the span that is open, and the session's own state. -/
structure SessionState (σ : Type) where
  journal : Journal
  span : Option Span
  world : σ

/-- The state at the beginning of a session. -/
def SessionState.start {σ : Type} (world : σ) : SessionState σ :=
  ⟨.empty, none, world⟩

/-- Work in a session with a state of type `σ`. -/
abbrev Session (σ α : Type) := ExceptT Failure (StateM (SessionState σ)) α

namespace Session

variable {σ α : Type}

/-- Ends with a failure. -/
def fail (failure : Failure) : Session σ α :=
  throw failure

/-- Goes on with a result, or ends with its failure. -/
def ofExcept (result : Except Failure α) : Session σ α :=
  match result with
  | .ok a => pure a
  | .error failure => throw failure

/-- Goes on with a result, or ends with its misuse. -/
def ofMisuse (result : Except Misuse α) : Session σ α :=
  ofExcept (result.mapError .misuse)

/-- Writes a log record. -/
def log (r : LogRecord) : Session σ Unit :=
  modify fun s => { s with journal := s.journal.log r }

/-- Writes a finished span. -/
def close (span : Span) : Session σ Unit :=
  modify fun s => { s with journal := s.journal.close span }

/-- The state of the session. -/
def world : Session σ σ :=
  return (← get).world

/-- Replaces the state of the session. -/
def setWorld (w : σ) : Session σ Unit :=
  modify fun s => { s with world := w }

/-- Sets attributes of the open span. -/
def annotate (attributes : Entries Value) : Session σ Unit :=
  modify fun s => { s with span := s.span.map fun span => span.setAll attributes }

/-- The result of work, whether it is a failure or not. -/
def outcome (work : Session σ α) : Session σ (Except Failure α) :=
  ExceptT.lift (ExceptT.run work)

/-- The result of work and the state after it. -/
def run (work : Session σ α) (s : SessionState σ) : Except Failure α × SessionState σ :=
  StateT.run (ExceptT.run work) s

/-- Work in a coroutine, which the signal that an iteration is over does not leave as it is. -/
def coroutine (work : Session σ α) : Session σ α :=
  ExceptT.adapt (Failure.leaving "coroutine") work

/-- Writes down how work in a span ended.  An interruption leaves the span as it is, and so does a failure that
fails to give its text, whose place the failure to do so takes. -/
def finish (span : Span) (result : Except Failure α) : Session σ Unit :=
  match result with
  | .ok _ => close span.succeed
  | .error failure =>
    if failure.isInterruption then close span
    else
      match failure.text with
      | .ok message => do
        log (Span.failureRecord span.name message)
        close (span.fail failure.kindName message)
      | .error other => do
        close span
        fail (other.leaving "generator")

/-- Work inside a new span. -/
def inSpan (name : String) (attributes : Entries Value) (work : Session σ α) : Session σ α := do
  let start := (Span.start name).setAll attributes
  let outer := (← get).span
  modify fun s => { s with span := some start }
  let result ← outcome work
  let span := (← get).span.getD start
  modify fun s => { s with span := outer }
  finish span result
  ofExcept result

end Session
end Promptbook
