import Promptbook.Proofs.Telemetry.Attributes
import Promptbook.Proofs.Telemetry.ObservedCalls

/-!
# Call records and spans

An observed call leaves a call record and a span, and each of them says how the call ended.  The record is written by
the call itself, the span is closed by the work around it (`Call.spans_observe`), and the two look at a failure on
their own: the record is an error whatever the failure is, but the span is left as it is by an interruption.  So where
there is a record, they agree exactly if the invocation was not interrupted (`record_agrees_with_span_iff`).
-/

namespace Promptbook

variable {σ : Type}

/-! ### The span of a call -/

namespace Call

/-- The attributes that a successful call sets last. -/
def successEntries (log : CallLog) : Entries Value :=
  [("latency_ms", .int log.latencyMs), ("token_count", .int log.tokenCount), ("status", .text "success")]

/-- The span of a call that ends in a certain way, given the span that the invocation leaves.  A call that went well
sets attributes; otherwise the span sees the failure of the call, or the failure to write its record. -/
def closedSpan (c : Call) (clock : Clock) (left : Span) (ending : Except Failure (Value × Int)) : Span :=
  match c.recordOf clock ending, ending with
  | .ok log, .ok _ => left.setAll (successEntries log)
  | .ok _, .error failure => left.ended (.error failure : Except Failure Observed)
  | .error failure, _ => left.ended (.error failure : Except Failure Observed)

section

variable (c : Call) {clock : Clock} (left : Span) {log : CallLog}

theorem closedSpan_of_reply {reply : Value × Int} (h : c.recordOf clock (.ok reply) = .ok log) :
    c.closedSpan clock left (.ok reply) = left.setAll (successEntries log) := by
  simp only [closedSpan, h]

theorem closedSpan_of_failure {failure : Failure} (h : c.recordOf clock (.error failure) = .ok log) :
    c.closedSpan clock left (.error failure) = left.ended (.error failure : Except Failure Observed) := by
  simp only [closedSpan, h]

theorem closedSpan_of_lost {ending : Except Failure (Value × Int)} {failure : Failure}
    (h : c.recordOf clock ending = .error failure) :
    c.closedSpan clock left ending = left.ended (.error failure : Except Failure Observed) := by
  simp only [closedSpan, h]

end

/-- An observed call adds its span to those that its invocation has left. -/
theorem spans_observe (c : Call) {inputs : Entries Value} (hhash : hashInputs inputs = .ok c.inputHash)
    (hkey : c.prompt.key = .ok c.promptKey) (clock : Clock) (invoke : Session σ Invocation) (s : SessionState σ)
    {left : Span} (hleft : (Session.run invoke (s.opened callSpan c.attributes)).2.span = some left) :
    (Session.run (observe c.prompt c.model inputs c.retryCount clock invoke) s).2.journal.spans =
      (Session.run invoke (s.opened callSpan c.attributes)).2.journal.spans ++
        [c.closedSpan clock left (Invocation.ending (Session.run invoke (s.opened callSpan c.attributes)).1)] := by
  rw [c.run_observe hhash hkey, Session.run_inSpan, run_record]
  generalize Session.run invoke (s.opened callSpan c.attributes) = called at hleft ⊢
  refine (Journal.spans_ended _ _ _).trans ?_
  rw [spans_settled, List.append_cancel_left_eq, List.singleton_inj]
  cases hrecord : c.recordOf clock (Invocation.ending called.1) with
  | error failure =>
    rw [c.closedSpan_of_lost left hrecord, resultOf, hrecord, settled, hleft]
    rfl
  | ok log =>
    rw [resultOf, hrecord, settled]
    cases hending : Invocation.ending called.1 with
    | ok reply =>
      rw [hending] at hrecord
      rw [c.closedSpan_of_reply left hrecord, noted, SessionState.logged, SessionState.annotated, hleft]
      rfl
    | error failure =>
      rw [hending] at hrecord
      rw [c.closedSpan_of_failure left hrecord, noted, SessionState.logged, hleft]
      rfl

end Call

/-! ### What a span tells -/

namespace Span

/-- Does a span tell of a failure?  It has the status of an error, and besides the events that it had when the work
ended exactly one for this failure, with its text. -/
structure TellsFailure (span left : Span) (failure : Failure) : Prop where
  outcome : span.get? "status" = some (.text "error")
  told : ∃ message, failure.text = .ok message ∧ span.status = .failed message ∧
    span.events = left.events ++ [⟨"exception", failure.kindName, message⟩]

/-- Does a span tell of a success, with the figures of a call record and without an event since the work ended? -/
structure TellsSuccess (span left : Span) (log : CallLog) : Prop where
  outcome : span.get? "status" = some (.text "success")
  events : span.events = left.events
  latencyMs : span.get? "latency_ms" = some (.int log.latencyMs)
  tokenCount : span.get? "token_count" = some (.int log.tokenCount)

/-- Do a call record and a span agree on how a call ended? -/
structure AgreesWith (span left : Span) (log : CallLog) (ending : Except Failure (Value × Int)) : Prop where
  error_iff : log.outcome = .error ↔ ∃ failure, ending = .error failure ∧ span.TellsFailure left failure
  success_iff : log.outcome = .success ↔ span.TellsSuccess left log

theorem name_ended (s : Span) {α : Type} (result : Except Failure α) : (s.ended result).name = s.name := by
  cases result with
  | ok a => exact name_set _ _ _
  | error failure =>
    rw [ended]
    split
    · rfl
    · split
      · exact name_set _ _ _
      · rfl

theorem name_closedSpan (c : Call) (clock : Clock) (left : Span) (ending : Except Failure (Value × Int)) :
    (c.closedSpan clock left ending).name = left.name := by
  unfold Call.closedSpan
  split
  · simp [setAll, Call.successEntries]
  · exact left.name_ended _
  · exact left.name_ended _

/-- A failure with a text, unless it is an interruption, is told by the span in which it came up. -/
theorem tellsFailure_ended (s : Span) {failure : Failure} {message : String} (hkind : failure.isInterruption = false)
    (htext : failure.text = .ok message) {α : Type} :
    (s.ended (.error failure : Except Failure α)).TellsFailure s failure := by
  have hended : s.ended (.error failure : Except Failure α) = s.fail failure.kindName message := by
    rw [ended, hkind, htext]
    rfl
  rw [hended]
  exact ⟨get?_set_self s "status" rfl, message, htext, rfl, rfl⟩

/-- A span that is left as it is tells of no failure. -/
theorem not_tellsFailure_self (s : Span) (failure : Failure) : ¬s.TellsFailure s failure := by
  intro h
  obtain ⟨message, -, -, hevents⟩ := h.told
  have hlength := congrArg List.length hevents
  simp at hlength

/-- The attribute of how work ended has one value only. -/
theorem TellsFailure.not_tellsSuccess {span left : Span} {failure : Failure} (h : span.TellsFailure left failure)
    (log : CallLog) : ¬span.TellsSuccess left log := by
  intro hsuccess
  have hwords := h.outcome.symm.trans hsuccess.outcome
  simp at hwords

theorem tellsSuccess_setAll (left : Span) (log : CallLog) :
    (left.setAll (Call.successEntries log)).TellsSuccess left log := by
  have hshown : shown (Call.successEntries log) = Call.successEntries log := rfl
  have hkeys : (Entries.keys (Call.successEntries log)).Nodup := by
    show ["latency_ms", "token_count", "status"].Nodup
    simp
  have hroom : (Call.successEntries log).length ≤ attributeLimit := by
    show 3 ≤ 128
    decide
  have hlast := (endsWith_nil left).setAll hshown hkeys hroom
  refine ⟨?_, ?_, ?_, ?_⟩
  · rw [hlast.get?_eq (by simp [Call.successEntries, Entries.keys])]
    rfl
  · simp [setAll, Call.successEntries]
  · rw [hlast.get?_eq (by simp [Call.successEntries, Entries.keys])]
    rfl
  · rw [hlast.get?_eq (by simp [Call.successEntries, Entries.keys])]
    rfl

/-- The record and the span of a call agree exactly if the call did not end with an interruption. -/
theorem agreesWith_closedSpan_iff (c : Call) {clock : Clock} (left : Span) {ending : Except Failure (Value × Int)}
    {log : CallLog} (h : c.recordOf clock ending = .ok log) :
    (c.closedSpan clock left ending).AgreesWith left log ending ↔
      ∀ failure, ending = .error failure → failure.isInterruption = false := by
  obtain ⟨ms, -, ⟨reply, rfl, hlog⟩ | ⟨failure, message, rfl, hreport, hlog⟩⟩ := c.recordOf_eq_ok_iff.1 h
  · rw [c.closedSpan_of_reply left h]
    have htells := tellsSuccess_setAll left log
    subst hlog
    refine iff_of_true ⟨iff_of_false ?_ ?_, iff_of_true rfl htells⟩ ?_
    · rintro ⟨⟩
    · rintro ⟨failure, ⟨⟩, -⟩
    · rintro failure ⟨⟩
  · rw [c.closedSpan_of_failure left h]
    subst hlog
    cases hkind : failure.isInterruption with
    | false =>
      obtain ⟨text, htext⟩ := Failure.text_of_report hreport
      have htells := left.tellsFailure_ended hkind htext (α := Observed)
      refine iff_of_true ⟨iff_of_true rfl ⟨failure, rfl, htells⟩, iff_of_false ?_ (htells.not_tellsSuccess _)⟩ ?_
      · rintro ⟨⟩
      · rintro _ ⟨⟩
        exact hkind
    | true =>
      have hended : left.ended (.error failure : Except Failure Observed) = left := by
        rw [ended, hkind]
        rfl
      rw [hended]
      refine iff_of_false (fun hagrees => ?_) fun hall => ?_
      · obtain ⟨other, -, htells⟩ := hagrees.error_iff.1 rfl
        exact not_tellsFailure_self left other htells
      · rw [hall failure rfl] at hkind
        cases hkind

end Span

/-- A call ends with an interruption exactly if its invocation does: a reply that cannot be unpacked is none. -/
theorem Invocation.interrupted_iff (reply : Except Failure Invocation) :
    (∀ failure, ending reply = .error failure → failure.isInterruption = false) ↔
      ∀ failure, reply = .error failure → failure.isInterruption = false := by
  constructor
  · intro h failure hreply
    exact h failure (ending_eq_error_iff.2 (.inl hreply))
  · intro h failure hending
    rcases ending_eq_error_iff.1 hending with hreply | ⟨_, m, -, -, rfl⟩
    · exact h failure hreply
    · rfl

/-- An observed call leaves one span.  If it can be recorded, it also leaves one call record, and the two agree on how
it ended exactly if the invocation was not interrupted; otherwise there is no record that the span could agree with.
The invocation may do anything, as long as the span is still there. -/
theorem record_agrees_with_span_iff (c : Call) {inputs : Entries Value} (hhash : hashInputs inputs = .ok c.inputHash)
    (hkey : c.prompt.key = .ok c.promptKey) (clock : Clock) (invoke : Session σ Invocation) (s : SessionState σ)
    {left : Span} (hleft : (Session.run invoke (s.opened callSpan c.attributes)).2.span = some left) :
    let called := Session.run invoke (s.opened callSpan c.attributes)
    let ending := Invocation.ending called.1
    let final := Session.run (observe c.prompt c.model inputs c.retryCount clock invoke) s
    ∃ span, final.2.journal.spans = called.2.journal.spans ++ [span] ∧ span.name = left.name ∧
      (Call.Recordable clock ending → ∃ log : CallLog,
        final.2.journal.callRecords =
          called.2.journal.callRecords ++ [⟨log.outcome.level, CallLog.event, log.written⟩] ∧
        (span.AgreesWith left log ending ↔
          ∀ failure, called.1 = .error failure → failure.isInterruption = false)) ∧
      (¬ Call.Recordable clock ending → final.2.journal.callRecords = called.2.journal.callRecords) := by
  intro called ending final
  have hcompletes := c.completes_observe hhash hkey clock invoke s
  refine ⟨_, c.spans_observe hhash hkey clock invoke s hleft, Span.name_closedSpan c clock left _, ?_, ?_⟩
  · intro hrecordable
    obtain ⟨log, hlog⟩ := c.exists_recordOf_iff.2 hrecordable
    refine ⟨log, (hcompletes.leaves_record hlog).1, ?_⟩
    rw [← Invocation.interrupted_iff]
    exact Span.agreesWith_closedSpan_iff c left hlog
  · intro hlost
    cases hrecord : c.recordOf clock ending with
    | ok log => exact absurd (c.exists_recordOf_iff.1 ⟨log, hrecord⟩) hlost
    | error failure => exact (hcompletes.loses_record hrecord).2

/-- The record and the span of a call agree on a reply without an output. -/
theorem record_agrees_with_span_iff_outputless :
    hashInputs [] = .ok bareCall.inputHash ∧ bareCall.prompt.key = .ok bareCall.promptKey ∧
      (let called := Session.run outputless ((SessionState.start 0).opened callSpan bareCall.attributes)
      let ending := Invocation.ending called.1
      let final := Session.run (observe bareCall.prompt bareCall.model [] 0 secondClock outputless) (.start 0)
      ∃ left, called.2.span = some left ∧ called.2.world = 1 ∧
        ∃ (log : CallLog) (span : Span),
          final.2.journal.callRecords = [⟨log.outcome.level, CallLog.event, log.written⟩] ∧
          final.2.journal.spans = [span] ∧ span.AgreesWith left log ending) := by
  have hcall := record_agrees_with_span_iff bareCall hashInputs_nil key_bareCall secondClock outputless (.start 0) rfl
  obtain ⟨span, hspans, -, hrecord, -⟩ := hcall
  have hending : Invocation.ending (.ok (.table [("tokenCount", .int 5)])) =
      .error (.misuse (.missingKey "output")) := rfl
  obtain ⟨log, hrecords, hagrees⟩ := hrecord ⟨⟨1000, elapsedMs_secondClock⟩, fun failure hfailure => by
    cases hending.symm.trans hfailure
    exact ⟨_, rfl⟩⟩
  refine ⟨hashInputs_nil, key_bareCall, _, rfl, rfl, log, span, hrecords, hspans, hagrees.2 ?_⟩
  rintro failure ⟨⟩

/-- An invocation that is cancelled: the record of the call says error, the span has neither a status nor an event. -/
theorem span_silent_of_cancelled_call :
    let cancelled : Failure :=
      .foreign ⟨"CancelledError", "asyncio.exceptions.CancelledError", .interruption, "CancelledError('stop')"⟩
        (.ok "stop")
    let final := Session.run (observe bareCall.prompt bareCall.model [] 0 secondClock (Session.fail cancelled))
      (.start ())
    final.1 = .error cancelled ∧
      ∃ (log : CallLog) (span : Span),
        final.2.journal.callRecords = [⟨log.outcome.level, CallLog.event, log.written⟩] ∧ log.outcome = .error ∧
        final.2.journal.spans = [span] ∧ span.status = .unset ∧ span.get? "status" = none ∧ span.events = [] := by
  intro cancelled final
  have hcompletes := bareCall.completes_observe hashInputs_nil key_bareCall secondClock (Session.fail cancelled)
    (SessionState.start ())
  have hspans := bareCall.spans_observe hashInputs_nil key_bareCall secondClock (Session.fail cancelled)
    (SessionState.start ()) rfl
  have hrecord := bareCall.recordOf_of_failure elapsedMs_secondClock cancelled
  have hspan := bareCall.closedSpan_of_failure
    ((Span.start callSpan).setAll bareCall.attributes) hrecord
  obtain ⟨hrecords, -, htells⟩ := hcompletes.leaves_record hrecord
  refine ⟨(htells.raised _).2 ⟨cancelled, rfl, rfl⟩, _, _, hrecords, rfl, hspans.trans (congrArg ([·]) hspan), ?_, ?_,
    ?_⟩
  · rfl
  · rfl
  · rfl

end Promptbook
