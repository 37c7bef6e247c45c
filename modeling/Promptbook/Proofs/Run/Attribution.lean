import Promptbook.Proofs.Registry.Split
import Promptbook.Proofs.Run.Stages
import Promptbook.Proofs.Telemetry.SpanEndings

/-!
# What a run reports

The identity of a prompt leaves a run by four ways: with the request to the model, in the call record, on the span and
in the result.  On each of them it is that of the prompt which was resolved and rendered, not the one that was asked
for; the model, the hash of the inputs and the figures of the call are the same on all of them too
(`run_attribution`).
-/

namespace Promptbook

open Promptbook.Schema Promptbook.Number

variable {σ : Type}

/-! ### The span of a call -/

/-- Does a span name the prompt, the model, the tries and the inputs of a call? -/
structure Span.Names (span : Span) (call : Call) : Prop where
  promptKey : span.get? "prompt_key" = some (.text call.promptKey)
  model : span.get? "model" = call.model.map .text
  retryCount : span.get? "retry_count" = some (.int call.retryCount)
  inputHash : span.get? "input_hash" = some (.text call.inputHash)

namespace Call

/-- The span with which a call begins. -/
def openSpan (c : Call) : Span :=
  (Span.start callSpan).setAll c.attributes

/-- The attributes with which the span of a call begins.  A model that is not named leaves none. -/
def identity (c : Call) : Entries Value :=
  List.flatten [
    [("prompt_key", .text c.promptKey)],
    CallLog.textEntry "model" c.model,
    [("retry_count", .int c.retryCount), ("input_hash", .text c.inputHash)]]

theorem shown_attributes (c : Call) : Span.shown c.attributes = c.identity := by
  rcases c with ⟨_, _, model, _, _⟩
  cases model <;> rfl

theorem length_identity_le (c : Call) : c.identity.length ≤ 4 := by
  rcases c with ⟨_, _, model, _, _⟩
  cases model with
  | none => exact Nat.le_succ 3
  | some name => exact Nat.le_refl 4

theorem nodup_keys_identity (c : Call) : c.identity.keys.Nodup := by
  rcases c with ⟨_, _, model, _, _⟩
  cases model with
  | none =>
    show ["prompt_key", "retry_count", "input_hash"].Nodup
    simp
  | some name =>
    show ["prompt_key", "model", "retry_count", "input_hash"].Nodup
    simp

theorem length_openSpan_le (c : Call) : c.openSpan.attributes.length ≤ c.identity.length := by
  have hset := (Span.start callSpan).length_attributes_setAll_le c.attributes
  rwa [shown_attributes, show (Span.start callSpan).attributes = [] from rfl, List.length_nil, Nat.zero_add] at hset

/-- A call begins with exactly these attributes. -/
theorem get?_openSpan (c : Call) (key : String) : c.openSpan.get? key = c.identity.get? key := by
  have hroom : c.identity.length ≤ Span.attributeLimit := Nat.le_trans c.length_identity_le (by decide)
  have hset := (Span.endsWith_nil (Span.start callSpan)).setAll c.shown_attributes c.nodup_keys_identity hroom
  exact hset.get?_of_length_le c.length_openSpan_le key

/-- Work that fails leaves the attributes of its span, but for how it ended. -/
theorem get?_ended_failure (c : Call) (failure : Failure) {key : String} (hstatus : key ≠ "status") :
    (c.openSpan.ended (.error failure : Except Failure Observed)).get? key = c.openSpan.get? key := by
  have hopen := Nat.le_trans c.length_openSpan_le c.length_identity_le
  have hlimit : Span.attributeLimit = 128 := rfl
  rw [Span.ended]
  split
  · rfl
  · split
    · rw [Span.get?_fail, c.openSpan.get?_set_of_ne hstatus (by omega)]
    · rfl

/-- The end of a call leaves the attributes with which its span began. -/
theorem get?_closedSpan (c : Call) (clock : Clock) (ending : Except Failure (Value × Int)) {key : String}
    (hlatency : key ≠ "latency_ms") (htokens : key ≠ "token_count") (hstatus : key ≠ "status") :
    (c.closedSpan clock c.openSpan ending).get? key = c.openSpan.get? key := by
  have hopen := Nat.le_trans c.length_openSpan_le c.length_identity_le
  have hlimit : Span.attributeLimit = 128 := rfl
  unfold closedSpan
  split
  · next log reply _ =>
    have htimed := c.openSpan.length_attributes_set_le "latency_ms" (.int log.latencyMs)
    have hcounted :=
      (c.openSpan.set "latency_ms" (.int log.latencyMs)).length_attributes_set_le "token_count" (.int log.tokenCount)
    have hset : c.openSpan.setAll (successEntries log) =
        ((c.openSpan.set "latency_ms" (.int log.latencyMs)).set "token_count" (.int log.tokenCount)).set "status"
          (.text "success") := rfl
    rw [hset, Span.get?_set_of_ne _ hstatus (by omega), Span.get?_set_of_ne _ htokens (by omega),
      Span.get?_set_of_ne _ hlatency (by omega)]
  · exact c.get?_ended_failure _ hstatus
  · exact c.get?_ended_failure _ hstatus

theorem names_closedSpan (c : Call) (clock : Clock) (ending : Except Failure (Value × Int)) :
    (c.closedSpan clock c.openSpan ending).Names c := by
  have hkept : ∀ key, key ≠ "latency_ms" → key ≠ "token_count" → key ≠ "status" →
      (c.closedSpan clock c.openSpan ending).get? key = c.identity.get? key := by
    intro key hlatency htokens hstatus
    rw [c.get?_closedSpan clock ending hlatency htokens hstatus, c.get?_openSpan]
  refine ⟨?_, ?_, ?_, ?_⟩ <;> rw [hkept _ (by decide) (by decide) (by decide)] <;>
    rcases c with ⟨_, _, model, _, _⟩ <;> cases model <;> rfl

end Call

/-! ### The result -/

/-- Does a result carry what a call record says? -/
structure CallResult.Matches (result : CallResult) (log : CallLog) : Prop where
  promptId : result.promptId = log.promptId
  promptVersion : result.promptVersion = log.promptVersion
  promptVariant : result.promptVariant = log.promptVariant
  model : result.model = log.model
  latencyMs : result.latencyMs = log.latencyMs
  tokensUsed : result.tokensUsed = log.tokenCount

/-- What is delivered of a call carries what its record says. -/
theorem Call.matches_delivered {c : Call} {clock : Clock} {answer : Except Failure String} {result : CallResult}
    (h : c.delivered clock answer = .ok result) {log : CallLog} (hnames : log.Names c)
    (hclock : elapsedMs clock.start clock.finish = .ok log.latencyMs) (htokens : log.tokenCount = 0) :
    result.Matches log := by
  rw [delivered.eq_def, hclock] at h
  cases answer with
  | error failure =>
    simp only at h
    split at h <;> cases h
  | ok text =>
    cases h
    exact ⟨hnames.promptId.symm, hnames.promptVersion.symm, hnames.promptVariant.symm, hnames.model.symm, rfl,
      htokens.symm⟩

/-! ### A run -/

/-- The model that a request asks: the one that it names, or else the first one of the prompt. -/
def RunRequest.modelFor (r : RunRequest) (prompt : Prompt) : Option String :=
  if r.modelOverride.getD "" ≠ "" then r.modelOverride else prompt.models.head?

/-- What a model is asked with a rendered prompt, by the settings of the prompt. -/
def Prompt.requestWith (prompt : Prompt) (rendered : Rendered) : Request :=
  ⟨[⟨"system", rendered.system⟩, ⟨"user", rendered.user⟩], prompt.params.temperature, prompt.params.maxTokens⟩

/-- Rendering takes model and settings from the prompt. -/
theorem Prompt.render_keeps {p : Prompt} {options : RenderOptions} {inputs : Inputs} {rendered : Rendered}
    (h : p.render options inputs = .ok rendered) : rendered.model = p.models.head? ∧ rendered.params = p.params := by
  rw [Prompt.render] at h
  split at h
  · cases h
    exact ⟨rfl, rfl⟩
  · cases h

theorem modelName_of_render {p : Prompt} {options : RenderOptions} {inputs : Inputs} {rendered : Rendered}
    (h : p.render options inputs = .ok rendered) (r : RunRequest) : r.modelName rendered = r.modelFor p := by
  rw [RunRequest.modelName, RunRequest.modelFor, (Prompt.render_keeps h).1]

theorem request_of_render {p : Prompt} {options : RenderOptions} {inputs : Inputs} {rendered : Rendered}
    (h : p.render options inputs = .ok rendered) : rendered.request = p.requestWith rendered := by
  rw [Rendered.request, Prompt.requestWith, (Prompt.render_keeps h).2]

/-- All that a run reports is about the prompt that it has resolved and rendered.  The model is asked for the texts of
that prompt with its settings; the call record and the span name it, the model that was asked and the hash of the
validated inputs, whether the model answers or fails; and a result carries what the record says.  Where no record can
be written there is no result either.  The span is the model's to change, so its part is about models that do not
touch it. -/
theorem run_attribution (registry : Registry) (model : Model σ) (r : RunRequest) (s : SessionState σ)
    {inputs : Entries Value} {prompt : Prompt} {key : String}
    (hvalid : SchemaBook.builtin.validateInput r.id r.inputs = .ok inputs)
    (hfound : r.sought registry = .ok (some prompt)) (hcomplete : prompt.blankInputs inputs = [])
    (hkey : prompt.key = .ok key) :
    ∃ rendered hash, prompt.render r.options (renderingTexts inputs) = .ok rendered ∧ hashInputs inputs = .ok hash ∧
      let call : Call := ⟨prompt, key, r.modelFor prompt, r.retryCount, hash⟩
      let opened := s.opened callSpan call.attributes
      let called := Session.run (model call.model (prompt.requestWith rendered)) opened
      let final := Session.run (run registry SchemaBook.builtin.validateInput model r) s
      final.2.world = called.2.world ∧
      (called.2.span = opened.span →
        ∃ span, final.2.journal.spans = called.2.journal.spans ++ [span] ∧ span.Names call) ∧
      (Call.Recordable r.clock (answered called.1) → ∃ log : CallLog, log.Names call ∧
        final.2.journal.callRecords =
          called.2.journal.callRecords ++ [⟨log.outcome.level, CallLog.event, log.written⟩] ∧
        ∀ result, final.1 = .ok result → result.Matches log) ∧
      (¬ Call.Recordable r.clock (answered called.1) →
        final.2.journal.callRecords = called.2.journal.callRecords ∧ ∃ failure, final.1 = .error failure) := by
  obtain ⟨rendered, hrendered⟩ := render_of_complete r.options hcomplete
  obtain ⟨⟨hash, hhash⟩, hwritten⟩ := usable_of_validateInput hvalid
  refine ⟨rendered, hash, hrendered, hhash, ?_⟩
  intro call opened called final
  have hprepare : prepare registry SchemaBook.builtin.validateInput r = .ok ⟨prompt, inputs, rendered⟩ := by
    rw [prepare_of_found hvalid hwritten hfound, hrendered]
    rfl
  have hdelivers := run_of_prepared hprepare hhash hkey model s
  simp only [modelName_of_render hrendered, request_of_render hrendered] at hdelivers
  refine ⟨hdelivers.world, fun hspan => ?_, fun hrecordable => ?_, fun hlost => ?_⟩
  · -- what is observed is asking the model
    let invoke := ask model call.model (prompt.requestWith rendered)
    have hobserve := run_eq_observe hprepare key hash model s
    simp only [modelName_of_render hrendered, request_of_render hrendered] at hobserve
    have hasked : (Session.run invoke opened).2 = called.2.afterAnswer called.1 :=
      congrArg Prod.snd (run_ask model call.model (prompt.requestWith rendered) opened)
    have hleft : (Session.run invoke opened).2.span = some call.openSpan := by
      rw [hasked, SessionState.span_afterAnswer]
      exact hspan
    refine ⟨_, ?_, call.names_closedSpan r.clock (Invocation.ending (Session.run invoke opened).1)⟩
    rw [show final.2 = _ from congrArg Prod.snd hobserve, ← SessionState.spans_afterAnswer called.2 called.1,
      ← hasked]
    exact call.spans_observe hhash hkey r.clock invoke s hleft
  · obtain ⟨log, hnames, hclock, htokens, -, hrecords⟩ := hdelivers.record hrecordable
    exact ⟨log, hnames, hrecords, fun result hresult =>
      Call.matches_delivered (hdelivers.result.symm.trans hresult) hnames hclock htokens⟩
  · obtain ⟨failure, hfailure⟩ := call.delivered_of_lost hlost
    exact ⟨hdelivers.lost hlost, failure, hdelivers.result.trans hfailure⟩

/-- A variant of that prompt. -/
def siteVariant : Prompt :=
  { sitePrompt with variant := some "b" }

/-- A registry that gives the variant to every seed. -/
def splitRegistry : Registry :=
  (siteRegistry.withPrompt siteVariant.keyText siteVariant).withExperiment (Key.text "generate_site" 1 none)
    ⟨"generate_site", 1, [("b", 100)]⟩

/-- A request by seed, with a model of its own. -/
def seededRequest : RunRequest :=
  { siteRequest with seed := some "user-1", modelOverride := some "m" }

theorem sought_seededRequest : seededRequest.sought splitRegistry = .ok (some siteVariant) := by
  have hshort : isLong 1 = false := isLong_of_lt_hundred (by decide)
  have hsplit : splitRegistry.experiment? "generate_site" 1 = .ok (some ⟨"generate_site", 1, [("b", 100)]⟩) :=
    Registry.experiment?_withExperiment hshort _ _ _
  have hselected : splitRegistry.selectVariant "generate_site" 1 "user-1" = .ok (some "b") :=
    Registry.selectVariant_of_experiment hsplit (bucketFor_of_short hshort _ _)
  have hexact : splitRegistry.resolveExact "generate_site" 1 (some "b") = .ok (some siteVariant) := by
    rw [Registry.resolveExact_of_short hshort]
    exact congrArg Except.ok (Entries.get?_put_self _ _ _)
  have hseeded : splitRegistry.resolveVariant "generate_site" 1 "user-1" = .ok (some siteVariant) := by
    rw [Registry.resolveVariant, hselected]
    show (splitRegistry.resolveExact "generate_site" 1 (some "b") >>= _) = _
    rw [hexact]
    rfl
  rw [RunRequest.sought, if_pos (by decide)]
  exact hseeded

/-- A seed that falls to a variant: result, record and span name the variant and the model that was asked. -/
theorem run_attribution_seeded :
    let final := Session.run
      (run splitRegistry SchemaBook.builtin.validateInput countingModel seededRequest) (.start 0)
    SchemaBook.builtin.validateInput seededRequest.id seededRequest.inputs = .ok [("research_data", .text "facts")] ∧
      seededRequest.sought splitRegistry = .ok (some siteVariant) ∧
      siteVariant.blankInputs [("research_data", .text "facts")] = [] ∧
      siteVariant.key = .ok "generate_site@1:b" ∧ final.2.world = 1 ∧
      (∃ span, final.2.journal.spans = [span] ∧ span.get? "prompt_key" = some (.text "generate_site@1:b")) ∧
      (∃ log : CallLog, log.promptVariant = some "b" ∧ log.model = some "m" ∧
        final.2.journal.callRecords = [⟨log.outcome.level, CallLog.event, log.written⟩] ∧
        ∀ result, final.1 = .ok result → result.promptVariant = some "b" ∧ result.model = some "m") := by
  intro final
  have hvalid : SchemaBook.builtin.validateInput seededRequest.id seededRequest.inputs =
      .ok [("research_data", .text "facts")] := by
    rfl
  have hcomplete : siteVariant.blankInputs [("research_data", .text "facts")] = [] := by decide +kernel
  have hkey : siteVariant.key = .ok "generate_site@1:b" := by
    have htext : siteVariant.keyText = "generate_site@1:b" := by decide +kernel
    rw [Prompt.key_of_short (isLong_of_lt_hundred (by decide)), htext]
  obtain ⟨rendered, hash, -, -, hworld, hspan, hrecord, -⟩ :=
    run_attribution splitRegistry countingModel seededRequest (.start 0) hvalid sought_seededRequest hcomplete hkey
  obtain ⟨span, hspans, hspanNames⟩ := hspan rfl
  obtain ⟨log, hnames, hrecords, hresult⟩ := hrecord ⟨⟨1000, elapsedMs_secondClock⟩, nofun⟩
  refine ⟨hvalid, sought_seededRequest, hcomplete, hkey, hworld, ⟨span, hspans, hspanNames.promptKey⟩, log,
    hnames.promptVariant, hnames.model, hrecords, fun result hok => ?_⟩
  have hmatches := hresult result hok
  exact ⟨hmatches.promptVariant.trans hnames.promptVariant, hmatches.model.trans hnames.model⟩

end Promptbook
