import Mathlib
import Promptbook.Telemetry.Session

/-!
# Running sessions

What the building blocks of sessions do to the state: one equation for each, so that work in a session is run by
rewriting.  `run_inSpan` says what comes of work inside a span: the span that was open before is open again, the
journal has one span more (`Journal.ended`), and a failure goes on unless it fails to give its text
(`Failure.leavingSpan`).
-/

namespace Promptbook

variable {σ α β : Type}

/-- A span after the work in it has ended. -/
def Span.ended (span : Span) : Except Failure α → Span
  | .ok _ => span.succeed
  | .error failure =>
    if failure.isInterruption then span
    else
      match failure.text with
      | .ok message => span.fail failure.kindName message
      | .error _ => span

/-- The journal after work in a span has ended. -/
def Journal.ended (j : Journal) (span : Span) : Except Failure α → Journal
  | .ok _ => j.close span.succeed
  | .error failure =>
    if failure.isInterruption then j.close span
    else
      match failure.text with
      | .ok message => (j.log (Span.failureRecord span.name message)).close (span.fail failure.kindName message)
      | .error _ => j.close span

theorem Journal.spans_ended (j : Journal) (span : Span) (result : Except Failure α) :
    (j.ended span result).spans = j.spans ++ [span.ended result] := by
  cases result with
  | ok a => rfl
  | error failure =>
    rw [ended, Span.ended]
    split
    · rfl
    · split <;> rfl

/-- The failure that leaves a span in which work has failed. -/
def Failure.leavingSpan (failure : Failure) : Failure :=
  if failure.isInterruption then failure
  else
    match failure.text with
    | .ok _ => failure
    | .error other => other.leaving "generator"

namespace SessionState

/-- The state in which work inside a new span begins. -/
def opened (s : SessionState σ) (name : String) (attributes : Entries Value) : SessionState σ :=
  { s with span := some ((Span.start name).setAll attributes) }

/-- The state with one more log record. -/
def logged (s : SessionState σ) (r : LogRecord) : SessionState σ :=
  { s with journal := s.journal.log r }

/-- The state in which the open span has more attributes. -/
def annotated (s : SessionState σ) (attributes : Entries Value) : SessionState σ :=
  { s with span := s.span.map fun span => span.setAll attributes }

@[simp] theorem world_opened (s : SessionState σ) (name : String) (attributes : Entries Value) :
    (s.opened name attributes).world = s.world := rfl

@[simp] theorem journal_opened (s : SessionState σ) (name : String) (attributes : Entries Value) :
    (s.opened name attributes).journal = s.journal := rfl

@[simp] theorem world_logged (s : SessionState σ) (r : LogRecord) : (s.logged r).world = s.world := rfl

@[simp] theorem journal_logged (s : SessionState σ) (r : LogRecord) : (s.logged r).journal = s.journal.log r := rfl

@[simp] theorem world_annotated (s : SessionState σ) (attributes : Entries Value) :
    (s.annotated attributes).world = s.world := rfl

@[simp] theorem journal_annotated (s : SessionState σ) (attributes : Entries Value) :
    (s.annotated attributes).journal = s.journal := rfl

end SessionState

namespace Session

@[simp] theorem run_pure (a : α) (s : SessionState σ) : run (pure a) s = (.ok a, s) := rfl

theorem run_bind (work : Session σ α) (next : α → Session σ β) (s : SessionState σ) :
    run (work >>= next) s =
      match run work s with
      | (.ok a, s') => run (next a) s'
      | (.error failure, s') => (.error failure, s') := by
  have hwork : run work s = StateT.run (ExceptT.run work) s := rfl
  rw [run, ExceptT.run_bind, StateT.run_bind, hwork]
  rcases StateT.run (ExceptT.run work) s with ⟨_ | _, _⟩ <;> rfl

/-- Work that succeeds hands its result on. -/
theorem run_bind_of_ok {work : Session σ α} {a : α} {s s' : SessionState σ} (h : run work s = (.ok a, s'))
    (next : α → Session σ β) : run (work >>= next) s = run (next a) s' := by
  rw [run_bind, h]

/-- What is made of the result of work leaves the state as the work left it. -/
theorem run_map (work : Session σ α) (f : α → β) (s : SessionState σ) :
    run (do return f (← work)) s = ((run work s).1.map f, (run work s).2) := by
  rw [run_bind]
  rcases run work s with ⟨_ | _, _⟩ <;> rfl

private theorem run_get (s : SessionState σ) : run (get : Session σ (SessionState σ)) s = (.ok s, s) := rfl

private theorem run_modify (f : SessionState σ → SessionState σ) (s : SessionState σ) :
    run (modify f : Session σ Unit) s = (.ok (), f s) := rfl

@[simp] theorem run_world (s : SessionState σ) : run (world : Session σ σ) s = (.ok s.world, s) := rfl

@[simp] theorem run_setWorld (w : σ) (s : SessionState σ) :
    run (setWorld w) s = (.ok (), { s with world := w }) := rfl

@[simp] theorem run_fail (failure : Failure) (s : SessionState σ) :
    run (fail failure : Session σ α) s = (.error failure, s) := rfl

@[simp] theorem run_ofExcept (result : Except Failure α) (s : SessionState σ) :
    run (ofExcept result) s = (result, s) := by
  cases result <;> rfl

@[simp] theorem run_ofMisuse (result : Except Misuse α) (s : SessionState σ) :
    run (ofMisuse result) s = (result.mapError .misuse, s) :=
  run_ofExcept _ s

@[simp] theorem run_log (r : LogRecord) (s : SessionState σ) : run (log r) s = (.ok (), s.logged r) := rfl

@[simp] theorem run_annotate (attributes : Entries Value) (s : SessionState σ) :
    run (annotate attributes) s = (.ok (), s.annotated attributes) := rfl

@[simp] theorem run_outcome (work : Session σ α) (s : SessionState σ) :
    run (outcome work) s = (.ok (run work s).1, (run work s).2) := rfl

@[simp] theorem run_coroutine (work : Session σ α) (s : SessionState σ) :
    run (coroutine work) s = ((run work s).1.mapError (Failure.leaving "coroutine"), (run work s).2) := rfl

/-- The end of a span closes it and hands the result on. -/
theorem run_finish_ofExcept (span : Span) (result : Except Failure α) (s : SessionState σ) :
    run (do
      finish span result
      ofExcept result) s =
      (result.mapError Failure.leavingSpan, { s with journal := s.journal.ended span result }) := by
  cases result with
  | ok a => rfl
  | error failure =>
    rw [finish, Journal.ended, Except.mapError, Failure.leavingSpan]
    cases failure.isInterruption with
    | true => rfl
    | false => cases failure.text <;> rfl

/-- Work inside a span leaves its result, one span in the journal, and the outer span as it was. -/
theorem run_inSpan (name : String) (attributes : Entries Value) (work : Session σ α) (s : SessionState σ) :
    run (inSpan name attributes work) s =
      ((run work (s.opened name attributes)).1.mapError Failure.leavingSpan,
        { journal := (run work (s.opened name attributes)).2.journal.ended
            ((run work (s.opened name attributes)).2.span.getD ((Span.start name).setAll attributes))
            (run work (s.opened name attributes)).1
          span := s.span
          world := (run work (s.opened name attributes)).2.world }) := by
  rw [inSpan]
  simp only [run_bind (outcome work), run_bind get, run_bind (modify _), run_get, run_modify, run_outcome,
    run_finish_ofExcept]
  rfl

end Session
end Promptbook
