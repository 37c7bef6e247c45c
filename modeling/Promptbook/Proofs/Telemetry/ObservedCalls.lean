import Promptbook.Proofs.Registry.Identity
import Promptbook.Proofs.Telemetry.Sessions
import Promptbook.Telemetry.Observe

/-!
# Observed calls and their records

An observed call runs the invocation once, inside a span, and then leaves one call record that says how it ended
(`completes_observe`).  The record is written whether the invocation gives a reply, gives something that is no reply,
fails or is interrupted.  Two things keep it from being written: a clock whose readings are no finite time apart, and
a failure that fails to give its message (`Call.recordOf_eq_ok_iff`).  `one_record_per_call` puts this together for
all calls, and `records_lost` shows a call of either kind that leaves none.
-/

namespace Promptbook

variable {σ α β : Type}

/-! ### What a call record holds -/

namespace CallLog

/-- An entry for a text that is there. -/
def textEntry (key : String) (s : Option String) : Entries Value :=
  s.toList.map fun s => (key, .text s)

/-- The fields of a call record in the log, in order.  What holds nothing is left out. -/
def written (log : CallLog) : Entries Value :=
  List.flatten [
    [("service", .text service), ("prompt_id", .text log.promptId), ("prompt_version", .int log.promptVersion)],
    textEntry "prompt_variant" log.promptVariant,
    textEntry "model" log.model,
    [("params", .table [("temperature", .float log.params.temperature), ("max_tokens", .int log.params.maxTokens)]),
      ("input_hash", .text log.inputHash), ("latency_ms", .int log.latencyMs), ("token_count", .int log.tokenCount)],
    log.cost.toList.map fun x => ("cost", .float x),
    [("outcome", .text log.outcome.word), ("retry_count", .int log.retryCount)],
    textEntry "error_message" log.errorMessage,
    [("timestamp", .text log.timestamp)]]

theorem fields_logRecord (log : CallLog) : log.logRecord.fields = log.written := by
  rcases log with ⟨_, _, variant, model, _, _, _, _, cost, _, _, message, _⟩
  -- which entries there are depends on the parts that may hold nothing
  cases variant <;> cases model <;> cases cost <;> cases message <;> rfl

/-- Is the log record a call record? -/
def isCallRecord (r : LogRecord) : Bool :=
  r.event == event

@[simp] theorem isCallRecord_logRecord (log : CallLog) : isCallRecord log.logRecord = true := rfl

@[simp] theorem isCallRecord_failureRecord (name message : String) :
    isCallRecord (Span.failureRecord name message) = false := rfl

/-- Does a call record name the prompt, the model, the tries and the inputs of a call? -/
structure Names (log : CallLog) (call : Call) : Prop where
  promptId : log.promptId = call.prompt.id
  promptVersion : log.promptVersion = call.prompt.version
  promptVariant : log.promptVariant = call.prompt.variant
  params : log.params = call.prompt.params
  model : log.model = call.model
  retryCount : log.retryCount = call.retryCount
  inputHash : log.inputHash = call.inputHash

end CallLog

theorem Call.names_log (c : Call) (timestamp : String) (latencyMs tokenCount : Int) (outcome : Outcome)
    (errorMessage : Option String) : (c.log timestamp latencyMs tokenCount outcome errorMessage).Names c :=
  ⟨rfl, rfl, rfl, rfl, rfl, rfl, rfl⟩

namespace Journal

/-- The call records of a journal. -/
def callRecords (j : Journal) : List LogRecord :=
  j.logs.filter CallLog.isCallRecord

@[simp] theorem callRecords_log (j : Journal) (log : CallLog) :
    (j.log log.logRecord).callRecords = j.callRecords ++ [log.logRecord] := by
  simp [callRecords, Journal.log, List.filter_append]

/-- The end of a span adds no call record. -/
@[simp] theorem callRecords_ended (j : Journal) (span : Span) (result : Except Failure α) :
    (j.ended span result).callRecords = j.callRecords := by
  cases result with
  | ok a => rfl
  | error failure =>
    rw [ended]
    split
    · rfl
    · split
      · simp [callRecords, Journal.log, Journal.close, List.filter_append]
      · rfl

end Journal

/-! ### What a call does -/

namespace Invocation

/-- How a call ends: with the output and the token count of its reply, or else with a failure, be it that of the
invocation or that of a reply which cannot be unpacked. -/
def ending (reply : Except Failure Invocation) : Except Failure (Value × Int) :=
  reply.bind fun invocation => invocation.unpack.mapError .misuse

/-- A call fails exactly if the invocation does, with the same failure, or its reply cannot be unpacked. -/
theorem ending_eq_error_iff {reply : Except Failure Invocation} {failure : Failure} :
    ending reply = .error failure ↔
      reply = .error failure ∨
        ∃ invocation m, reply = .ok invocation ∧ invocation.unpack = .error m ∧ failure = .misuse m := by
  cases reply with
  | error other => simp [ending, Except.bind]
  | ok invocation =>
    cases hunpack : invocation.unpack with
    | error m => simp [ending, Except.bind, hunpack, Except.mapError, eq_comm]
    | ok reply => simp [ending, Except.bind, hunpack, Except.mapError]

end Invocation

/-- A failure that gives its message also gives its text. -/
theorem Failure.text_of_report {failure : Failure} {message : String} (h : failure.report = .ok message) :
    ∃ text, failure.text = .ok text := by
  rw [report] at h
  rw [text]
  cases hown : failure.ownMessage with
  | error other =>
    rw [hown] at h
    cases h
  | ok own => exact ⟨_, rfl⟩

/-- What becomes of a failure that leaves the span and then the coroutine of a call. -/
def Failure.leavingCall (failure : Failure) : Failure :=
  failure.leavingSpan.leaving "coroutine"

/-- A failure that gives its message leaves a call as it leaves any coroutine. -/
theorem Failure.leavingCall_of_report {failure : Failure} {message : String} (h : failure.report = .ok message) :
    failure.leavingCall = failure.leaving "coroutine" := by
  obtain ⟨text, htext⟩ := text_of_report h
  rw [leavingCall, leavingSpan]
  simp only [htext, ite_self]

/-- What has left one place leaves any other as it is. -/
theorem Failure.leaving_leaving (failure : Failure) (place other : String) :
    (failure.leaving place).leaving other = failure.leaving place := by
  rw [leaving.eq_1 place]
  cases hstop : failure.isStop with
  | true => rfl
  | false => exact if_neg (by simp [hstop])

namespace Call

/-- The record of a call that ends in a certain way, or what keeps it from being written: the time that the call took
is no number, or its failure fails to give its message. -/
def recordOf (c : Call) (clock : Clock) (ending : Except Failure (Value × Int)) : Except Failure CallLog := do
  let latencyMs ← (elapsedMs clock.start clock.finish).mapError .misuse
  match ending with
  | .ok reply => return c.log clock.timestamp latencyMs reply.2 .success none
  | .error failure =>
    let message ← failure.report
    return c.log clock.timestamp latencyMs 0 .error (some message)

/-- Can a call that ends in a certain way be recorded? -/
def Recordable (clock : Clock) (ending : Except Failure α) : Prop :=
  (∃ ms, elapsedMs clock.start clock.finish = .ok ms) ∧
    ∀ failure, ending = .error failure → ∃ message, failure.report = .ok message

theorem recordable_map_iff {clock : Clock} {ending : Except Failure α} (f : α → β) :
    Recordable clock (ending.map f) ↔ Recordable clock ending := by
  cases ending <;> simp [Recordable, Except.map]

/-- What comes of a call within its span.  What keeps its record from being written takes the place of its ending. -/
def resultOf (c : Call) (clock : Clock) (ending : Except Failure (Value × Int)) : Except Failure Observed := do
  let log ← c.recordOf clock ending
  let reply ← ending
  return ⟨reply.1, log⟩

/-- The record that a call leaves in the log, if it can be written. -/
def recorded : Except Failure CallLog → List LogRecord
  | .ok log => [log.logRecord]
  | .error _ => []

/-- The state in which the record of a call is written; a call that went well sets attributes of its span. -/
def noted (log : CallLog) (s : SessionState σ) : Except Failure (Value × Int) → SessionState σ
  | .ok _ => s.annotated [("latency_ms", .int log.latencyMs), ("token_count", .int log.tokenCount)]
  | .error _ => s

/-- The state after a call was recorded, if it could be. -/
def settled (s : SessionState σ) (ending : Except Failure (Value × Int)) : Except Failure CallLog → SessionState σ
  | .ok log => (noted log s ending).logged log.logRecord
  | .error _ => s

section

variable (c : Call) {clock : Clock} {ending : Except Failure (Value × Int)}

theorem recordOf_of_endless {m : Misuse} (h : elapsedMs clock.start clock.finish = .error m) :
    c.recordOf clock ending = .error (.misuse m) := by
  rw [recordOf, h]
  rfl

theorem recordOf_of_reply {ms : Int} (h : elapsedMs clock.start clock.finish = .ok ms) (reply : Value × Int) :
    c.recordOf clock (.ok reply) = .ok (c.log clock.timestamp ms reply.2 .success none) := by
  rw [recordOf, h]
  rfl

theorem recordOf_of_failure {ms : Int} (h : elapsedMs clock.start clock.finish = .ok ms) (failure : Failure) :
    c.recordOf clock (.error failure) =
      failure.report.map fun message => c.log clock.timestamp ms 0 .error (some message) := by
  rw [recordOf, h]
  rfl

/-- How a record came to be written: the clock gave a time, and a failure its message. -/
theorem recordOf_eq_ok_iff {log : CallLog} :
    c.recordOf clock ending = .ok log ↔
      ∃ ms, elapsedMs clock.start clock.finish = .ok ms ∧
        ((∃ reply, ending = .ok reply ∧ log = c.log clock.timestamp ms reply.2 .success none) ∨
          ∃ failure message, ending = .error failure ∧ failure.report = .ok message ∧
            log = c.log clock.timestamp ms 0 .error (some message)) := by
  cases hclock : elapsedMs clock.start clock.finish with
  | error m => simp [recordOf_of_endless c hclock]
  | ok ms =>
    cases ending with
    | ok reply => simp [recordOf_of_reply c hclock, eq_comm]
    | error failure =>
      rw [recordOf_of_failure c hclock]
      cases hreport : failure.report <;> simp [hreport, Except.map, eq_comm]

theorem exists_recordOf_iff : (∃ log, c.recordOf clock ending = .ok log) ↔ Recordable clock ending := by
  simp only [recordOf_eq_ok_iff]
  constructor
  · rintro ⟨log, ms, hclock, ⟨reply, rfl, -⟩ | ⟨failure, message, rfl, hreport, -⟩⟩
    · exact ⟨⟨ms, hclock⟩, nofun⟩
    · refine ⟨⟨ms, hclock⟩, ?_⟩
      rintro _ ⟨⟩
      exact ⟨message, hreport⟩
  · rintro ⟨⟨ms, hclock⟩, htold⟩
    cases ending with
    | ok reply => exact ⟨_, ms, hclock, .inl ⟨reply, rfl, rfl⟩⟩
    | error failure =>
      obtain ⟨message, hreport⟩ := htold failure rfl
      exact ⟨_, ms, hclock, .inr ⟨failure, message, rfl, hreport, rfl⟩⟩

theorem names_recordOf {log : CallLog} (h : c.recordOf clock ending = .ok log) : log.Names c := by
  obtain ⟨ms, -, ⟨reply, -, rfl⟩ | ⟨failure, message, -, -, rfl⟩⟩ := c.recordOf_eq_ok_iff.1 h <;>
    exact c.names_log _ _ _ _ _

end

@[simp] theorem world_settled (s : SessionState σ) (ending : Except Failure (Value × Int))
    (record : Except Failure CallLog) : (settled s ending record).world = s.world := by
  cases record with
  | error failure => rfl
  | ok log => cases ending <;> rfl

@[simp] theorem callRecords_settled (s : SessionState σ) (ending : Except Failure (Value × Int))
    (record : Except Failure CallLog) :
    (settled s ending record).journal.callRecords = s.journal.callRecords ++ recorded record := by
  cases record with
  | error failure => exact (List.append_nil _).symm
  | ok log => cases ending <;> exact Journal.callRecords_log _ _

@[simp] theorem spans_settled (s : SessionState σ) (ending : Except Failure (Value × Int))
    (record : Except Failure CallLog) : (settled s ending record).journal.spans = s.journal.spans := by
  cases record with
  | error failure => rfl
  | ok log => cases ending <;> rfl

private theorem run_invoke_unpack (invoke : Session σ Invocation) (s : SessionState σ) :
    Session.run (do
      let invocation ← invoke
      Session.ofMisuse invocation.unpack) s =
      (Invocation.ending (Session.run invoke s).1, (Session.run invoke s).2) := by
  rw [Session.run_bind]
  rcases Session.run invoke s with ⟨_ | invocation, s'⟩
  · rfl
  · exact Session.run_ofMisuse _ s'

/-- A call runs the invocation once and then writes its record, if it can. -/
theorem run_record (c : Call) (clock : Clock) (invoke : Session σ Invocation) (s : SessionState σ) :
    Session.run (c.record clock invoke) s =
      (c.resultOf clock (Invocation.ending (Session.run invoke s).1),
        settled (Session.run invoke s).2 (Invocation.ending (Session.run invoke s).1)
          (c.recordOf clock (Invocation.ending (Session.run invoke s).1))) := by
  rw [record, Session.run_bind, Session.run_outcome, run_invoke_unpack]
  cases hclock : elapsedMs clock.start clock.finish with
  | error m =>
    rw [resultOf, recordOf_of_endless c hclock]
    simp only [Session.run_bind, Session.run_ofMisuse, Except.mapError]
    rfl
  | ok ms =>
    simp only [Session.run_bind, Session.run_ofMisuse, Except.mapError]
    cases Invocation.ending (Session.run invoke s).1 with
    | ok reply =>
      rw [resultOf, recordOf_of_reply c hclock]
      simp only [Session.run_bind, Session.run_annotate, Session.run_log, Session.run_pure]
      rfl
    | error failure =>
      rw [resultOf, recordOf_of_failure c hclock]
      simp only [Session.run_bind, Session.run_ofExcept]
      cases failure.report with
      | error other => rfl
      | ok message =>
        simp only [Session.run_log, Session.run_fail]
        rfl

/-- What an observed call leaves, given what its one invocation came to: the result and the record of that ending, and
one span. -/
structure Completes (c : Call) (clock : Clock) (called : Except Failure Invocation × SessionState σ)
    (final : Except Failure Observed × SessionState σ) : Prop where
  result : final.1 = (c.resultOf clock (Invocation.ending called.1)).mapError Failure.leavingCall
  world : final.2.world = called.2.world
  records : final.2.journal.callRecords =
    called.2.journal.callRecords ++ recorded (c.recordOf clock (Invocation.ending called.1))
  spans : ∃ span, final.2.journal.spans = called.2.journal.spans ++ [span]

end Call

section

variable {prompt : Prompt} {inputs : Entries Value}

/-- Inputs that cannot be hashed stop a call before it begins. -/
theorem run_observe_of_unhashed {m : Misuse} (h : hashInputs inputs = .error m) (prompt : Prompt)
    (model : Option String) (retryCount : Int) (clock : Clock) (invoke : Session σ Invocation) (s : SessionState σ) :
    Session.run (observe prompt model inputs retryCount clock invoke) s = (.error (.misuse m), s) := by
  rw [observe, Session.run_coroutine, Session.run_bind, Session.run_ofMisuse, h]
  rfl

/-- So does a prompt without a key. -/
theorem run_observe_of_unkeyed {hash : String} (h : hashInputs inputs = .ok hash) {m : Misuse}
    (hkey : prompt.key = .error m) (model : Option String) (retryCount : Int) (clock : Clock)
    (invoke : Session σ Invocation) (s : SessionState σ) :
    Session.run (observe prompt model inputs retryCount clock invoke) s = (.error (.misuse m), s) := by
  rw [observe, Session.run_coroutine, Session.run_bind, Session.run_ofMisuse, h]
  simp only [Except.mapError, Session.run_bind, Session.run_ofMisuse, hkey]
  rfl

end

namespace Call

variable (c : Call) {inputs : Entries Value}

/-- Inputs with a hash and a prompt with a key make a call, which runs inside its span. -/
theorem run_observe (hhash : hashInputs inputs = .ok c.inputHash) (hkey : c.prompt.key = .ok c.promptKey)
    (clock : Clock) (invoke : Session σ Invocation) (s : SessionState σ) :
    Session.run (observe c.prompt c.model inputs c.retryCount clock invoke) s =
      let spanned := Session.run (Session.inSpan callSpan c.attributes (c.record clock invoke)) s
      (spanned.1.mapError (Failure.leaving "coroutine"), spanned.2) := by
  rw [observe, Session.run_coroutine, Session.run_bind, Session.run_ofMisuse, hhash]
  simp only [Except.mapError, Session.run_bind, Session.run_ofMisuse, hkey]

/-- An observed call runs its invocation once, inside its span, and leaves its record. -/
theorem completes_observe (hhash : hashInputs inputs = .ok c.inputHash) (hkey : c.prompt.key = .ok c.promptKey)
    (clock : Clock) (invoke : Session σ Invocation) (s : SessionState σ) :
    c.Completes clock (Session.run invoke (s.opened callSpan c.attributes))
      (Session.run (observe c.prompt c.model inputs c.retryCount clock invoke) s) := by
  rw [c.run_observe hhash hkey, Session.run_inSpan, run_record]
  refine ⟨?_, by simp, by simp, ?_⟩
  · cases c.resultOf clock (Invocation.ending (Session.run invoke (s.opened callSpan c.attributes)).1) <;> rfl
  · exact ⟨_, (Journal.spans_ended _ _ _).trans (by rw [spans_settled])⟩

end Call

/-! ### One record for every call -/

/-- Does a call record tell how its call ended?  A call that returns is told as a success, with its own record among
what it returns; one that fails is told as an error without tokens, with the message of its failure. -/
structure CallLog.Tells (log : CallLog) (ending : Except Failure (Value × Int)) (result : Except Failure Observed) :
    Prop where
  success_iff : (∃ observed, result = .ok observed) ↔ log.outcome = .success ∧ log.logRecord.level = .info
  error_iff : (∃ failure, result = .error failure) ↔
    log.outcome = .error ∧ log.logRecord.level = .error ∧ log.tokenCount = 0
  message : ∀ failure, ending = .error failure →
    ∃ message, failure.report = .ok message ∧ log.errorMessage = some message
  raised : ∀ failure, result = .error failure ↔
    ∃ cause, ending = .error cause ∧ failure = cause.leaving "coroutine"
  returned : ∀ observed, result = .ok observed → observed.log = log

theorem Call.tells_recordOf (c : Call) {clock : Clock} {ending : Except Failure (Value × Int)} {log : CallLog}
    (h : c.recordOf clock ending = .ok log) :
    log.Tells ending ((c.resultOf clock ending).mapError Failure.leavingCall) := by
  obtain ⟨ms, -, ⟨reply, rfl, hlog⟩ | ⟨failure, message, rfl, hreport, hlog⟩⟩ := c.recordOf_eq_ok_iff.1 h
  · have hresult : c.resultOf clock (.ok reply) = .ok ⟨reply.1, log⟩ := by
      rw [resultOf, h]
      rfl
    rw [hresult, Except.mapError]
    subst hlog
    refine ⟨iff_of_true ⟨_, rfl⟩ ⟨rfl, rfl⟩, iff_of_false ?_ ?_, ?_, ?_, ?_⟩
    · rintro ⟨failure, ⟨⟩⟩
    · rintro ⟨⟨⟩, -⟩
    · rintro failure ⟨⟩
    · intro failure
      refine iff_of_false nofun ?_
      rintro ⟨cause, ⟨⟩, -⟩
    · rintro observed ⟨⟩
      rfl
  · have hresult : c.resultOf clock (.error failure) = .error failure := by
      rw [resultOf, h]
      rfl
    rw [hresult, Except.mapError, Failure.leavingCall_of_report hreport]
    subst hlog
    refine ⟨iff_of_false ?_ ?_, iff_of_true ⟨_, rfl⟩ ⟨rfl, rfl, rfl⟩, ?_, ?_, ?_⟩
    · rintro ⟨observed, ⟨⟩⟩
    · rintro ⟨⟨⟩, -⟩
    · rintro _ ⟨⟩
      exact ⟨message, hreport, rfl⟩
    · intro other
      constructor
      · rintro ⟨⟩
        exact ⟨failure, rfl, rfl⟩
      · rintro ⟨cause, ⟨⟩, rfl⟩
        rfl
    · rintro observed ⟨⟩

namespace Call.Completes

variable {c : Call} {clock : Clock} {called : Except Failure Invocation × SessionState σ}
  {final : Except Failure Observed × SessionState σ}

/-- What keeps a record from being written is what the caller gets. -/
theorem loses_record (h : c.Completes clock called final) {failure : Failure}
    (hlost : c.recordOf clock (Invocation.ending called.1) = .error failure) :
    final.1 = .error failure.leavingCall ∧ final.2.journal.callRecords = called.2.journal.callRecords := by
  refine ⟨?_, ?_⟩
  · rw [h.result, resultOf, hlost]
    rfl
  · rw [h.records, hlost]
    exact List.append_nil _

/-- A completed call that can be recorded has left one record, which names it and tells how it ended. -/
theorem leaves_record (h : c.Completes clock called final) {log : CallLog}
    (hlog : c.recordOf clock (Invocation.ending called.1) = .ok log) :
    final.2.journal.callRecords =
        called.2.journal.callRecords ++ [⟨log.outcome.level, CallLog.event, log.written⟩] ∧
      log.Names c ∧ log.Tells (Invocation.ending called.1) final.1 := by
  refine ⟨?_, c.names_recordOf hlog, h.result ▸ c.tells_recordOf hlog⟩
  rw [h.records, hlog, ← CallLog.fields_logRecord]
  rfl

end Call.Completes

/-- Every observed call runs its invocation once.  If its clock gives a time and its failure, if there is one, gives
its message, it leaves exactly one call record, which names the call and tells how it ended: what is raised is the
failure of the invocation or of unpacking its reply.  Otherwise it fails and leaves no record.  If the inputs cannot
be hashed or the prompt has no key, nothing is done at all. -/
theorem one_record_per_call (prompt : Prompt) (model : Option String) (inputs : Entries Value) (retryCount : Int)
    (clock : Clock) (invoke : Session σ Invocation) (s : SessionState σ) :
    let final := Session.run (observe prompt model inputs retryCount clock invoke) s
    match hashInputs inputs, prompt.key with
    | .error m, _ => final = (.error (.misuse m), s)
    | .ok _, .error m => final = (.error (.misuse m), s)
    | .ok hash, .ok key =>
      let call : Call := ⟨prompt, key, model, retryCount, hash⟩
      let called := Session.run invoke (s.opened callSpan call.attributes)
      let ending := Invocation.ending called.1
      final.2.world = called.2.world ∧
      (Call.Recordable clock ending → ∃ log : CallLog,
        final.2.journal.callRecords =
          called.2.journal.callRecords ++ [⟨log.outcome.level, CallLog.event, log.written⟩] ∧
        log.Names call ∧ log.Tells ending final.1) ∧
      (¬ Call.Recordable clock ending →
        final.2.journal.callRecords = called.2.journal.callRecords ∧ ∃ failure, final.1 = .error failure) := by
  intro final
  cases hhash : hashInputs inputs with
  | error m => exact run_observe_of_unhashed hhash prompt model retryCount clock invoke s
  | ok hash =>
    cases hkey : prompt.key with
    | error m => exact run_observe_of_unkeyed hhash hkey model retryCount clock invoke s
    | ok key =>
      let call : Call := ⟨prompt, key, model, retryCount, hash⟩
      have hcompletes := call.completes_observe hhash hkey clock invoke s
      refine ⟨hcompletes.world, fun hrecordable => ?_, fun hlost => ?_⟩
      · obtain ⟨log, hlog⟩ := call.exists_recordOf_iff.2 hrecordable
        exact ⟨log, hcompletes.leaves_record hlog⟩
      · cases hrecord : call.recordOf clock
            (Invocation.ending (Session.run invoke (s.opened callSpan call.attributes)).1) with
        | ok log => exact absurd (call.exists_recordOf_iff.1 ⟨log, hrecord⟩) hlost
        | error failure =>
          obtain ⟨hresult, hrecords⟩ := hcompletes.loses_record hrecord
          exact ⟨hrecords, _, hresult⟩

/-- A clock that stands for a second between its readings. -/
def secondClock : Clock := ⟨Number.ofInt 0, Number.ofInt 1, "T"⟩

/-- A clock whose second reading is so large that the time in milliseconds is infinite. -/
def endlessClock : Clock := ⟨Number.ofInt 0, Number.ofDecimal false [1] 306, "T"⟩

theorem elapsedMs_secondClock : elapsedMs secondClock.start secondClock.finish = .ok 1000 := by decide +kernel

theorem elapsedMs_endlessClock :
    elapsedMs endlessClock.start endlessClock.finish = .error (.integerOfInfinity "float infinity") := by
  decide +kernel

/-- An empty table of inputs can be hashed. -/
theorem hashInputs_nil : hashInputs [] = .ok (Hash.sha256 "{}") := by
  have htext : (Value.table []).canonicalText = .ok "{}" := by decide +kernel
  rw [hashInputs, htext]
  rfl

/-- A call of a prompt without inputs. -/
def bareCall : Call := ⟨.bare "a" 1 none, "a@1", none, 0, Hash.sha256 "{}"⟩

theorem key_bareCall : bareCall.prompt.key = .ok bareCall.promptKey := by
  have hshort : Number.isLong 1 = false := Number.isLong_of_lt_hundred (by decide)
  have htext : Key.text "a" 1 none = "a@1" := by decide +kernel
  exact (Key.build_of_short hshort "a" none).trans (congrArg Except.ok htext)

/-- An invocation that counts itself and gives a reply without an output. -/
def outputless : Session Nat Invocation := do
  Session.setWorld ((← Session.world) + 1)
  return .table [("tokenCount", .int 5)]

/-- A reply without an output is told as an error, after one invocation. -/
theorem one_record_per_call_outputless :
    let final := Session.run (observe bareCall.prompt none [] 0 secondClock outputless) (.start 0)
    final.2.world = 1 ∧ final.1 = .error (.misuse (.missingKey "output")) ∧
      final.2.journal.callRecords.length = 1 := by
  intro final
  have hcall := one_record_per_call bareCall.prompt none [] 0 secondClock outputless (.start 0)
  rw [hashInputs_nil, key_bareCall] at hcall
  obtain ⟨hworld, hrecord, -⟩ := hcall
  have hending : Invocation.ending (.ok (.table [("tokenCount", .int 5)])) =
      .error (.misuse (.missingKey "output")) := rfl
  obtain ⟨log, hrecords, -, htells⟩ := hrecord ⟨⟨1000, elapsedMs_secondClock⟩, fun failure hfailure => by
    cases hending.symm.trans hfailure
    exact ⟨_, rfl⟩⟩
  refine ⟨hworld, (htells.raised _).2 ⟨_, hending, rfl⟩, ?_⟩
  rw [hrecords]
  rfl

/-- A failure that fails to give its text, since it holds an integer with too many digits. -/
def untold : Failure :=
  .foreign ⟨"ValueError", "ValueError", .ordinary, "ValueError(...)"⟩ (.error (.misuse .integerTooLongToWrite))

/-- Two calls with inputs that can be hashed and a prompt with a key, of which none leaves a record: with a clock
whose readings are no finite time apart, and with an invocation whose failure fails to give its message.  Either way
the failure of the invocation is lost. -/
theorem records_lost :
    hashInputs [] = .ok bareCall.inputHash ∧ bareCall.prompt.key = .ok bareCall.promptKey ∧
      (let final := Session.run (observe bareCall.prompt none [] 0 endlessClock (Session.fail untold)) (.start ())
      final.1 = .error (.misuse (.integerOfInfinity "float infinity")) ∧ final.2.journal.callRecords = []) ∧
      (let final := Session.run (observe bareCall.prompt none [] 0 secondClock (Session.fail untold)) (.start ())
      final.1 = .error (.misuse .integerTooLongToWrite) ∧ final.2.journal.callRecords = []) := by
  refine ⟨hashInputs_nil, key_bareCall, ?_, ?_⟩
  · have hcompletes := bareCall.completes_observe hashInputs_nil key_bareCall endlessClock (Session.fail untold)
      (.start ())
    exact hcompletes.loses_record (bareCall.recordOf_of_endless elapsedMs_endlessClock)
  · have hcompletes := bareCall.completes_observe hashInputs_nil key_bareCall secondClock (Session.fail untold)
      (.start ())
    exact hcompletes.loses_record (bareCall.recordOf_of_failure elapsedMs_secondClock untold)

end Promptbook
