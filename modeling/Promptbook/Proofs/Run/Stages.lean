import Promptbook.Proofs.Render.Outcome
import Promptbook.Proofs.Schema.Texts
import Promptbook.Proofs.Telemetry.ObservedCalls
import Promptbook.Run.Basic

/-!
# The stages of a run

A run validates its inputs, looks for its prompt, renders it and then asks the model, once, inside an observed call.
What stops it before the call leaves the session as it was (`run_of_refused`); after that it leaves a span, and a call
record if one can be written (`run_of_prepared`).  With the built-in schemas nothing else can fail between the stages,
but for a version that does not fit in a key: `run_stages` goes through them in order.
-/

namespace Promptbook

open Promptbook.Schema Promptbook.Text Promptbook.Number

variable {σ : Type}

/-! ### Before the call -/

namespace RunRequest

/-- The prompt that is asked for.  A seed goes before a variant, and the empty text stands for none. -/
def sought (r : RunRequest) (registry : Registry) : Except Misuse (Option Prompt) :=
  if r.seed.getD "" ≠ "" then registry.resolveVariant r.id r.version (r.seed.getD "")
  else if r.variant.getD "" ≠ "" then registry.resolveExact r.id r.version r.variant
  else registry.resolve r.id r.version

/-- The key that is named if there is no such prompt. -/
def soughtKey (r : RunRequest) : String :=
  Key.text r.id r.version (if r.seed.getD "" ≠ "" then none else r.variant)

theorem given_of_empty {name : Option String} (h : name.getD "" = "") : given name = none := by
  cases name with
  | none => rfl
  | some s => simp_all [given]

theorem given_of_named {name : Option String} (h : name.getD "" ≠ "") : given name = name := by
  cases name with
  | none => rfl
  | some s => simp_all [given]

private theorem eq_some_of_named {name : Option String} (h : name.getD "" ≠ "") : name = some (name.getD "") := by
  cases name with
  | none => exact absurd rfl h
  | some s => rfl

theorem resolve_eq_sought (r : RunRequest) (registry : Registry) : r.resolve registry = r.sought registry := by
  rw [resolve, sought]
  by_cases hseed : r.seed.getD "" = ""
  · rw [given_of_empty hseed, if_neg (not_not.2 hseed)]
    by_cases hvariant : r.variant.getD "" = ""
    · rw [given_of_empty hvariant, if_neg (not_not.2 hvariant)]
    · rw [given_of_named hvariant, if_pos hvariant, eq_some_of_named hvariant]
  · rw [given_of_named hseed, if_pos hseed, eq_some_of_named hseed]
    rfl

theorem missedKey_of_short {r : RunRequest} (h : isLong r.version = false) : r.missedKey = .ok r.soughtKey := by
  rw [missedKey, soughtKey, Key.build_of_short h]
  by_cases hseed : r.seed.getD "" = ""
  · rw [given_of_empty hseed, if_neg (not_not.2 hseed)]
    rfl
  · rw [given_of_named hseed, if_pos hseed, eq_some_of_named hseed]
    rfl

/-- No prompt is looked for under a version that does not fit in a key. -/
theorem sought_of_long {r : RunRequest} (h : isLong r.version = true) (registry : Registry) :
    r.sought registry = .error .integerTooLongToWrite := by
  have hexact := registry.resolveExact_of_long h r.id
  have hseeded : ∀ seed, registry.resolveVariant r.id r.version seed = .error .integerTooLongToWrite := by
    intro seed
    rw [Registry.resolveVariant, Registry.selectVariant, Registry.experiment?_of_long h]
    rfl
  rw [sought]
  split
  · exact hseeded _
  · split
    · exact hexact _
    · exact hexact _

theorem exists_sought_of_short {r : RunRequest} (h : isLong r.version = false) (registry : Registry) :
    ∃ found, r.sought registry = .ok found := by
  have hexact := registry.resolveExact_of_short h r.id
  have hselected : ∀ seed, ∃ variant, registry.selectVariant r.id r.version seed = .ok variant := by
    intro seed
    rw [Registry.selectVariant, Registry.experiment?_of_short h, bucketFor_of_short h]
    cases registry.experiments.get? (Key.text r.id r.version none) with
    | none => exact ⟨_, rfl⟩
    | some e => exact ⟨_, rfl⟩
  have hseeded : ∀ seed, ∃ found, registry.resolveVariant r.id r.version seed = .ok found := by
    intro seed
    obtain ⟨variant, hvariant⟩ := hselected seed
    rw [Registry.resolveVariant, hvariant, Registry.resolve, hexact none]
    cases variant with
    | none => exact ⟨_, rfl⟩
    | some name =>
      show ∃ found, (registry.resolveExact r.id r.version (some name) >>= _) = .ok found
      rw [hexact]
      cases registry.prompts.get? (Key.text r.id r.version (some name)) with
      | none => exact ⟨_, rfl⟩
      | some p => exact ⟨some p, rfl⟩
  rw [sought]
  split
  · exact hseeded _
  · split
    · exact ⟨_, hexact _⟩
    · exact ⟨_, hexact _⟩

end RunRequest

/-- The required inputs of a prompt that are blank as texts, in the order in which they are declared. -/
def Prompt.blankInputs (p : Prompt) (inputs : Entries Value) : List String :=
  p.inputs.required.filter fun name => allBlank (((inputTexts inputs).get? name).getD "").toList

/-- The texts that a prompt is rendered with. -/
def renderingTexts (inputs : Entries Value) : Inputs :=
  (inputTexts inputs).map fun e => (e.1, some e.2)

theorem stringifyInputs_of_written {inputs : Entries Value} (h : Value.entriesHoldLong inputs = false) :
    stringifyInputs inputs = .ok (inputTexts inputs) := by
  rw [stringifyInputs, h]
  rfl

theorem missingInputs_renderingTexts (p : Prompt) (inputs : Entries Value) :
    Render.missingInputs p (renderingTexts inputs) = p.blankInputs inputs := by
  have htext : ∀ name, Render.inputText (renderingTexts inputs) name = ((inputTexts inputs).get? name).getD "" := by
    intro name
    rw [Render.inputText, renderingTexts, Entries.get?_map]
    cases (inputTexts inputs).get? name <;> rfl
  simp [Render.missingInputs, Prompt.blankInputs, Render.isSupplied, htext]

section Preparing

variable {registry : Registry} {validate : Validator} {r : RunRequest} {inputs : Entries Value} {prompt : Prompt}

theorem prepare_of_invalid {failure : Failure} (h : validate r.id r.inputs = .error failure) :
    prepare registry validate r = .error failure := by
  rw [prepare, h]
  rfl

theorem prepare_of_unsought {m : Misuse} (hvalid : validate r.id r.inputs = .ok inputs)
    (hmiss : r.sought registry = .error m) : prepare registry validate r = .error (.misuse m) := by
  have hrequire : r.require registry = .error (.misuse m) := by
    rw [RunRequest.require, RunRequest.resolve_eq_sought, hmiss]
    rfl
  rw [prepare, hvalid]
  simp only [bind, Except.bind, hrequire]

theorem prepare_of_unregistered (hvalid : validate r.id r.inputs = .ok inputs) (hshort : isLong r.version = false)
    (hmiss : r.sought registry = .ok none) : prepare registry validate r = .error (.promptNotFound r.soughtKey) := by
  have hrequire : r.require registry = .error (.promptNotFound r.soughtKey) := by
    rw [RunRequest.require, RunRequest.resolve_eq_sought, hmiss, RunRequest.missedKey_of_short hshort]
    rfl
  rw [prepare, hvalid]
  simp only [bind, Except.bind, hrequire]

/-- Validated inputs and the prompt that is asked for are rendered. -/
theorem prepare_of_found (hvalid : validate r.id r.inputs = .ok inputs)
    (hwritten : Value.entriesHoldLong inputs = false) (hfound : r.sought registry = .ok (some prompt)) :
    prepare registry validate r =
      (prompt.render r.options (renderingTexts inputs)).map fun rendered => ⟨prompt, inputs, rendered⟩ := by
  have hrequire : r.require registry = .ok prompt := by
    rw [RunRequest.require, RunRequest.resolve_eq_sought, hfound]
    rfl
  rw [prepare, hvalid]
  simp only [bind, Except.bind, hrequire, stringifyInputs_of_written hwritten]
  rfl

theorem render_of_blank (options : RenderOptions) (h : prompt.blankInputs inputs ≠ []) :
    prompt.render options (renderingTexts inputs) =
      .error (if isLong prompt.version then .misuse .integerTooLongToWrite
        else .missingInputs (Key.text prompt.id prompt.version none) (prompt.blankInputs inputs)) := by
  rw [Prompt.render, missingInputs_renderingTexts, if_neg (by simpa using h), Render.refusal_eq]

theorem render_of_complete (options : RenderOptions) (h : prompt.blankInputs inputs = []) :
    ∃ rendered, prompt.render options (renderingTexts inputs) = .ok rendered := by
  rw [Prompt.render, missingInputs_renderingTexts, if_pos (by simpa using h)]
  exact ⟨_, rfl⟩

end Preparing

/-! ### The call -/

/-- The text of a model's answer: the one that it is or holds, or else the answer as JSON. -/
def Value.answerText (answer : Value) : Except Misuse String :=
  match answer.responseText? with
  | some s => .ok s
  | none => answer.jsonText none

/-- What asking a model comes to: the text of the answer, or else a failure, be it the model's own or that of an
answer which cannot be written. -/
def answered (called : Except Failure Value) : Except Failure String :=
  (called.bind fun answer => answer.answerText.mapError .misuse).mapError (Failure.leaving "coroutine")

/-- The failure of an answer has left the coroutine of the call already. -/
theorem leaving_of_answered {called : Except Failure Value} {failure : Failure} (h : answered called = .error failure)
    (place : String) : failure.leaving place = failure := by
  rw [answered] at h
  cases hasked : called.bind fun answer => answer.answerText.mapError .misuse with
  | ok text =>
    rw [hasked] at h
    cases h
  | error cause =>
    rw [hasked] at h
    cases h
    exact cause.leaving_leaving _ _

/-- The state after a model's answer was turned into a text; that an answer has none is logged. -/
def SessionState.afterAnswer (s : SessionState σ) : Except Failure Value → SessionState σ
  | .ok answer => if answer.responseText?.isSome then s else s.logged (serializingRecord answer)
  | .error _ => s

namespace SessionState

@[simp] theorem world_afterAnswer (s : SessionState σ) (called : Except Failure Value) :
    (s.afterAnswer called).world = s.world := by
  cases called with
  | error failure => rfl
  | ok answer =>
    rw [afterAnswer]
    split <;> rfl

@[simp] theorem spans_afterAnswer (s : SessionState σ) (called : Except Failure Value) :
    (s.afterAnswer called).journal.spans = s.journal.spans := by
  cases called with
  | error failure => rfl
  | ok answer =>
    rw [afterAnswer]
    split <;> rfl

@[simp] theorem span_afterAnswer (s : SessionState σ) (called : Except Failure Value) :
    (s.afterAnswer called).span = s.span := by
  cases called with
  | error failure => rfl
  | ok answer =>
    rw [afterAnswer]
    split <;> rfl

/-- What is logged of an answer is no call record. -/
@[simp] theorem callRecords_afterAnswer (s : SessionState σ) (called : Except Failure Value) :
    (s.afterAnswer called).journal.callRecords = s.journal.callRecords := by
  cases called with
  | error failure => rfl
  | ok answer =>
    have hother : CallLog.isCallRecord (serializingRecord answer) = false := rfl
    rw [afterAnswer]
    split
    · rfl
    · simp [Journal.callRecords, Journal.log, List.filter_append, hother]

end SessionState

theorem run_responseText (answer : Value) (s : SessionState σ) :
    Session.run (responseText answer) s = (answer.answerText.mapError .misuse, s.afterAnswer (.ok answer)) := by
  rw [responseText, Value.answerText, SessionState.afterAnswer]
  cases answer.responseText? with
  | some text => rfl
  | none => simp only [Session.run_bind, Session.run_log, Session.run_ofMisuse]; rfl

/-- Asking a model calls it once. -/
theorem run_ask (model : Model σ) (name : Option String) (request : Request) (s : SessionState σ) :
    Session.run (ask model name request) s =
      ((answered (Session.run (model name request) s).1).map fun text => .output (.text text) (.int 0),
        (Session.run (model name request) s).2.afterAnswer (Session.run (model name request) s).1) := by
  rw [ask, Session.run_coroutine, Session.run_bind]
  rcases Session.run (model name request) s with ⟨failure | answer, s'⟩
  · rfl
  · simp only [Session.run_bind, run_responseText, answered, Except.bind]
    cases answer.answerText <;> rfl

/-- An answer with a text is a reply without tokens. -/
theorem ending_answered (called : Except Failure Value) :
    Invocation.ending ((answered called).map fun text => .output (.text text) (.int 0)) =
      (answered called).map fun text => (.text text, 0) := by
  cases answered called <;> rfl

/-! ### A run -/

/-- What a run gives whose model was called, with the text of the answer or the failure that came instead.  A clock
whose readings are no finite time apart and a failure that fails to give its message come before that. -/
def Call.delivered (c : Call) (clock : Clock) (answer : Except Failure String) : Except Failure CallResult :=
  match elapsedMs clock.start clock.finish, answer with
  | .error m, _ => .error (.misuse m)
  | .ok latencyMs, .ok text => .ok {
      output := text
      model := c.model
      tokensUsed := 0
      latencyMs := latencyMs
      promptId := c.prompt.id
      promptVersion := c.prompt.version
      promptVariant := c.prompt.variant }
  | .ok _, .error failure =>
    match failure.report with
    | .ok _ => .error failure
    | .error other => .error other.leavingCall

/-- What a run leaves once its model was called: what the answer comes to, one span, and one call record if it can be
written. -/
structure Call.Delivers (c : Call) (clock : Clock) (called : Except Failure Value × SessionState σ)
    (final : Except Failure CallResult × SessionState σ) : Prop where
  world : final.2.world = called.2.world
  result : final.1 = c.delivered clock (answered called.1)
  span : ∃ span, final.2.journal.spans = called.2.journal.spans ++ [span]
  record : Call.Recordable clock (answered called.1) → ∃ log : CallLog, log.Names c ∧
    elapsedMs clock.start clock.finish = .ok log.latencyMs ∧ log.tokenCount = 0 ∧
    ((∃ result, final.1 = .ok result) ↔ log.outcome = .success) ∧
    final.2.journal.callRecords =
      called.2.journal.callRecords ++ [⟨log.outcome.level, CallLog.event, log.written⟩]
  lost : ¬ Call.Recordable clock (answered called.1) →
    final.2.journal.callRecords = called.2.journal.callRecords

/-- The model that a run calls. -/
def RunRequest.modelName (r : RunRequest) (rendered : Rendered) : Option String :=
  if r.modelOverride.getD "" ≠ "" then r.modelOverride else rendered.model

theorem RunRequest.modelName_eq (r : RunRequest) (rendered : Rendered) :
    ((given r.modelOverride).orElse fun _ => rendered.model) = r.modelName rendered := by
  rw [modelName]
  by_cases h : r.modelOverride.getD "" = ""
  · rw [given_of_empty h, if_neg (not_not.2 h)]
    rfl
  · rw [given_of_named h, if_pos h, eq_some_of_named h]
    rfl

/-- The result of a run, from what was observed of its call. -/
def Call.resultFrom (c : Call) (observed : Observed) : CallResult where
  output := observed.result.shownString
  model := c.model
  tokensUsed := observed.log.tokenCount
  latencyMs := observed.log.latencyMs
  promptId := c.prompt.id
  promptVersion := c.prompt.version
  promptVariant := c.prompt.variant

/-- A run whose call cannot be recorded gives no result. -/
theorem Call.delivered_of_lost (c : Call) {clock : Clock} {answer : Except Failure String}
    (h : ¬ Call.Recordable clock answer) : ∃ failure, c.delivered clock answer = .error failure := by
  cases hclock : elapsedMs clock.start clock.finish with
  | error m => exact ⟨.misuse m, by simp only [delivered, hclock]⟩
  | ok latencyMs =>
    cases answer with
    | ok text => exact absurd ⟨⟨latencyMs, hclock⟩, nofun⟩ h
    | error failure =>
      simp only [delivered, hclock]
      cases failure.report <;> exact ⟨_, rfl⟩

/-- What is made of the result of an observed call that asked a model. -/
theorem Call.map_resultOf (c : Call) (clock : Clock) {called : Except Failure Value} :
    (((c.resultOf clock ((answered called).map fun text => (.text text, 0))).mapError Failure.leavingCall).map
      c.resultFrom).mapError (Failure.leaving "coroutine") = c.delivered clock (answered called) := by
  cases hclock : elapsedMs clock.start clock.finish with
  | error m =>
    rw [resultOf, recordOf_of_endless c hclock]
    simp only [delivered, hclock]
    rfl
  | ok latencyMs =>
    cases hanswer : answered called with
    | ok text =>
      simp only [Except.map, resultOf, recordOf_of_reply c hclock, delivered, hclock]
      simp [bind, Except.bind, pure, Except.pure, Except.mapError, resultFrom, log, Value.shownString, Value.shown]
    | error failure =>
      simp only [Except.map, resultOf, recordOf_of_failure c hclock, delivered, hclock]
      cases hreport : failure.report with
      | ok message =>
        have hleaves := leaving_of_answered hanswer "coroutine"
        simp only [bind, Except.bind, Except.mapError, Failure.leavingCall_of_report hreport, hleaves]
      | error other =>
        simp only [bind, Except.bind, Except.mapError, Failure.leavingCall, Failure.leaving_leaving]

/-- The record of a call that asked a model has the time of the call and no tokens. -/
theorem Call.figures_of_recordOf (c : Call) {clock : Clock} {called : Except Failure Value} {log : CallLog}
    (h : c.recordOf clock ((answered called).map fun text => (.text text, 0)) = .ok log) :
    elapsedMs clock.start clock.finish = .ok log.latencyMs ∧ log.tokenCount = 0 := by
  obtain ⟨ms, hclock, ⟨reply, hreply, rfl⟩ | ⟨failure, message, -, -, rfl⟩⟩ := c.recordOf_eq_ok_iff.1 h
  · have htokens : reply.2 = 0 := by
      cases hanswer : answered called with
      | error failure =>
        rw [hanswer] at hreply
        cases hreply
      | ok text =>
        rw [hanswer] at hreply
        cases hreply
        rfl
    exact ⟨hclock, htokens⟩
  · exact ⟨hclock, rfl⟩

/-- An observed call that asked a model leaves what a run leaves. -/
theorem Call.Completes.delivers {c : Call} {clock : Clock} {called : Except Failure Value × SessionState σ}
    {final : Except Failure Observed × SessionState σ}
    (h : c.Completes clock
      ((answered called.1).map fun text => .output (.text text) (.int 0), called.2.afterAnswer called.1) final) :
    c.Delivers clock called ((final.1.map c.resultFrom).mapError (Failure.leaving "coroutine"), final.2) := by
  have hresult : (final.1.map c.resultFrom).mapError (Failure.leaving "coroutine") =
      c.delivered clock (answered called.1) := by
    rw [h.result, ending_answered, c.map_resultOf]
  have hrecordable : Call.Recordable clock (answered called.1) ↔
      ∃ log, c.recordOf clock ((answered called.1).map fun text => (.text text, 0)) = .ok log := by
    rw [exists_recordOf_iff, recordable_map_iff]
  constructor
  case world => exact h.world.trans (SessionState.world_afterAnswer _ _)
  case result => exact hresult
  case span =>
    obtain ⟨span, hspan⟩ := h.spans
    exact ⟨span, hspan.trans (by rw [SessionState.spans_afterAnswer])⟩
  case record =>
    intro hcan
    obtain ⟨log, hlog⟩ := hrecordable.1 hcan
    obtain ⟨hrecords, hnames, htells⟩ := h.leaves_record (by rw [ending_answered]; exact hlog)
    have hreturns : (∃ result, (final.1.map c.resultFrom).mapError (Failure.leaving "coroutine") = .ok result) ↔
        ∃ observed, final.1 = .ok observed := by
      cases final.1 <;> simp [Except.map, Except.mapError]
    have hlevel : log.outcome = .success → log.logRecord.level = .info := fun hsuccess => by
      rw [CallLog.logRecord, hsuccess]
      rfl
    rw [SessionState.callRecords_afterAnswer] at hrecords
    obtain ⟨hlatency, htokens⟩ := c.figures_of_recordOf hlog
    refine ⟨log, hnames, hlatency, htokens, ?_, hrecords⟩
    rw [hreturns, htells.success_iff]
    exact ⟨fun hboth => hboth.1, fun hsuccess => ⟨hsuccess, hlevel hsuccess⟩⟩
  case lost =>
    intro hcannot
    cases hlog : c.recordOf clock ((answered called.1).map fun text => (.text text, 0)) with
    | ok log => exact absurd (hrecordable.2 ⟨log, hlog⟩) hcannot
    | error failure =>
      obtain ⟨-, hrecords⟩ := h.loses_record (by rw [ending_answered]; exact hlog)
      rwa [SessionState.callRecords_afterAnswer] at hrecords

section

variable {registry : Registry} {validate : Validator} {r : RunRequest} {prepared : Prepared}

/-- A prepared run observes the call of its model. -/
theorem run_eq_observe (h : prepare registry validate r = .ok prepared) (key hash : String) (model : Model σ)
    (s : SessionState σ) :
    let call : Call := ⟨prepared.prompt, key, r.modelName prepared.rendered, r.retryCount, hash⟩
    let observed := Session.run (observe prepared.prompt call.model prepared.inputs r.retryCount r.clock
      (ask model call.model prepared.rendered.request)) s
    Session.run (run registry validate model r) s =
      ((observed.1.map call.resultFrom).mapError (Failure.leaving "coroutine"), observed.2) := by
  intro call observed
  rw [run, Session.run_coroutine, Session.run_bind, Session.run_ofExcept, h]
  simp only [RunRequest.modelName_eq]
  have hmap := Session.run_map (observe prepared.prompt call.model prepared.inputs r.retryCount r.clock
    (ask model call.model prepared.rendered.request)) call.resultFrom s
  exact congrArg (fun left : Except Failure CallResult × SessionState σ =>
    (left.1.mapError (Failure.leaving "coroutine"), left.2)) hmap

/-- So does a prompt without a key. -/
theorem run_of_unkeyed (h : prepare registry validate r = .ok prepared) {hash : String}
    (hhash : hashInputs prepared.inputs = .ok hash) {m : Misuse} (hkey : prepared.prompt.key = .error m)
    (model : Model σ) (s : SessionState σ) :
    Session.run (run registry validate model r) s = (.error (.misuse m), s) := by
  rw [run_eq_observe h "" "" model s, run_observe_of_unkeyed hhash hkey]
  rfl

/-- Any other prepared run calls the model once. -/
theorem run_of_prepared (h : prepare registry validate r = .ok prepared) {key hash : String}
    (hhash : hashInputs prepared.inputs = .ok hash) (hkey : prepared.prompt.key = .ok key) (model : Model σ)
    (s : SessionState σ) :
    let call : Call := ⟨prepared.prompt, key, r.modelName prepared.rendered, r.retryCount, hash⟩
    call.Delivers r.clock
      (Session.run (model call.model prepared.rendered.request) (s.opened callSpan call.attributes))
      (Session.run (run registry validate model r) s) := by
  intro call
  have hobserved := call.completes_observe hhash hkey r.clock
    (ask model call.model prepared.rendered.request) s
  rw [run_eq_observe h key hash model s]
  -- the invocation that is observed is the one call of the model
  rw [run_ask] at hobserved
  exact hobserved.delivers

end

/-- What stops a run before the call leaves the session as it was. -/
theorem run_of_refused {registry : Registry} {validate : Validator} {r : RunRequest} {failure : Failure}
    (h : prepare registry validate r = .error failure) (model : Model σ) (s : SessionState σ) :
    Session.run (run registry validate model r) s = (.error (failure.leaving "coroutine"), s) := by
  rw [run, Session.run_coroutine, Session.run_bind, Session.run_ofExcept, h]
  rfl

/-! ### All stages -/

private theorem validateInput_of_unknown {r : RunRequest} (h : Entries.get? SchemaBook.builtin r.id = none) :
    SchemaBook.builtin.validateInput r.id r.inputs = .error (.schemaNotFound r.id) := by
  rw [SchemaBook.validateInput, SchemaBook.require, h]
  rfl

private theorem validateInput_of_faults {r : RunRequest} {shapes : PromptShapes} {faults : List Fault}
    (hshapes : Entries.get? SchemaBook.builtin r.id = some shapes)
    (hread : shapes.input.read (.table r.inputs) = .error faults) :
    SchemaBook.builtin.validateInput r.id r.inputs = .error (violation r.id "input" shapes.input.model faults) := by
  rw [SchemaBook.validateInput, SchemaBook.require, hshapes]
  simp only [bind, Except.bind, hread]

private theorem validateInput_of_record {r : RunRequest} {shapes : PromptShapes} {record : Value}
    {inputs : Entries Value} (hshapes : Entries.get? SchemaBook.builtin r.id = some shapes)
    (hread : shapes.input.read (.table r.inputs) = .ok record) (htable : record.tableOf .template = .ok inputs) :
    SchemaBook.builtin.validateInput r.id r.inputs = .ok inputs :=
  validateInput_eq_ok_iff.2 ⟨shapes, record, hshapes, hread, htable⟩

/-- What comes of a run with valid inputs once its prompt is found. -/
private theorem run_of_found {registry : Registry} {r : RunRequest} {inputs : Entries Value} {prompt : Prompt}
    {hash : String} (hvalid : SchemaBook.builtin.validateInput r.id r.inputs = .ok inputs)
    (hhash : hashInputs inputs = .ok hash) (hwritten : Value.entriesHoldLong inputs = false)
    (hfound : r.sought registry = .ok (some prompt)) (model : Model σ) (s : SessionState σ) :
    let final := Session.run (run registry SchemaBook.builtin.validateInput model r) s
    if isLong prompt.version then final = (.error (.misuse .integerTooLongToWrite), s)
    else if prompt.blankInputs inputs ≠ [] then
      final = (.error (.missingInputs (Key.text prompt.id prompt.version none) (prompt.blankInputs inputs)), s)
    else
      ∃ rendered hash, prompt.render r.options (renderingTexts inputs) = .ok rendered ∧
        hashInputs inputs = .ok hash ∧
        let call : Call := ⟨prompt, prompt.keyText, r.modelName rendered, r.retryCount, hash⟩
        call.Delivers r.clock
          (Session.run (model call.model rendered.request) (s.opened callSpan call.attributes)) final := by
  intro final
  have hprepare := prepare_of_found hvalid hwritten hfound
  split
  case isTrue hlong =>
    by_cases hblank : prompt.blankInputs inputs = []
    · obtain ⟨rendered, hrendered⟩ := render_of_complete r.options hblank
      rw [hrendered] at hprepare
      exact run_of_unkeyed hprepare hhash (Prompt.key_of_long hlong) model s
    · rw [render_of_blank r.options hblank, if_pos hlong] at hprepare
      exact run_of_refused hprepare model s
  case isFalse hshort =>
    split
    case isTrue hblank =>
      rw [render_of_blank r.options hblank, if_neg hshort] at hprepare
      exact run_of_refused hprepare model s
    case isFalse hcomplete =>
      obtain ⟨rendered, hrendered⟩ := render_of_complete r.options (not_not.1 hcomplete)
      rw [hrendered] at hprepare
      have hkey : prompt.key = .ok prompt.keyText := Prompt.key_of_short (by simpa using hshort)
      exact ⟨rendered, hash, hrendered, hhash, run_of_prepared hprepare hhash hkey model s⟩

/-- A run with the built-in schemas fails at the first of its stages that is not passed, and then leaves the session
as it was: no schema, faults in the inputs, no prompt, blank inputs.  A version that does not fit in a key stops it
where the prompt is looked for.  After these the model is called exactly once, by a name and with a request that do
not depend on it, and the run leaves one span, and one call record if that can be written. -/
theorem run_stages (registry : Registry) (model : Model σ) (r : RunRequest) (s : SessionState σ) :
    let final := Session.run (run registry SchemaBook.builtin.validateInput model r) s
    match Entries.get? SchemaBook.builtin r.id with
    | none => final = (.error (.schemaNotFound r.id), s)
    | some shapes =>
      match shapes.input.read (.table r.inputs) with
      | .error faults => final = (.error (violation r.id "input" shapes.input.model faults), s)
      | .ok record =>
        ∃ inputs, record.tableOf .template = .ok inputs ∧
          match r.sought registry with
          | .error m => isLong r.version = true ∧ final = (.error (.misuse m), s)
          | .ok none => final = (.error (.promptNotFound r.soughtKey), s)
          | .ok (some prompt) =>
            if isLong prompt.version then final = (.error (.misuse .integerTooLongToWrite), s)
            else if prompt.blankInputs inputs ≠ [] then
              final =
                (.error (.missingInputs (Key.text prompt.id prompt.version none) (prompt.blankInputs inputs)), s)
            else
              ∃ rendered hash, prompt.render r.options (renderingTexts inputs) = .ok rendered ∧
                hashInputs inputs = .ok hash ∧
                let call : Call := ⟨prompt, prompt.keyText, r.modelName rendered, r.retryCount, hash⟩
                call.Delivers r.clock
                  (Session.run (model call.model rendered.request) (s.opened callSpan call.attributes)) final := by
  intro final
  cases hshapes : Entries.get? SchemaBook.builtin r.id with
  | none => exact run_of_refused (prepare_of_invalid (validateInput_of_unknown hshapes)) model s
  | some shapes =>
    dsimp only
    cases hread : shapes.input.read (.table r.inputs) with
    | error faults => exact run_of_refused (prepare_of_invalid (validateInput_of_faults hshapes hread)) model s
    | ok record =>
      -- what a built-in schema accepts has a table, texts and a hash, so no failure comes between the stages
      obtain ⟨inputs, htable, ⟨hash, hhash⟩, hwritten⟩ := usable_of_read_builtin hshapes hread
      have hvalid := validateInput_of_record hshapes hread htable
      refine ⟨inputs, htable, ?_⟩
      cases hsought : isLong r.version with
      | true =>
        have hunsought := r.sought_of_long hsought registry
        rw [hunsought]
        exact ⟨rfl, run_of_refused (prepare_of_unsought hvalid hunsought) model s⟩
      | false =>
        obtain ⟨found, hfound⟩ := r.exists_sought_of_short hsought registry
        rw [hfound]
        cases found with
        | none => exact run_of_refused (prepare_of_unregistered hvalid hsought hfound) model s
        | some prompt => exact run_of_found hvalid hhash hwritten hfound model s

/-- A prompt that requires an input. -/
def sitePrompt : Prompt :=
  { Prompt.bare "generate_site" 1 none with inputs := ⟨["research_data"], []⟩ }

/-- A request for that prompt, with an input that its schema does not know and an empty seed. -/
def siteRequest : RunRequest where
  id := "generate_site"
  version := 1
  inputs := [("research_data", .text "facts"), ("mood", .null)]
  variant := none
  seed := some ""
  retryCount := 0
  modelOverride := none
  options := .standard
  clock := secondClock

/-- A model that counts its calls. -/
def countingModel : Model Nat := fun _ _ => do
  Session.setWorld ((← Session.world) + 1)
  return .text "done"

/-- A registry with that prompt. -/
def siteRegistry : Registry :=
  Registry.empty.withPrompt sitePrompt.keyText sitePrompt

theorem sought_siteRequest : siteRequest.sought siteRegistry = .ok (some sitePrompt) := by
  have hshort : isLong siteRequest.version = false := isLong_of_lt_hundred (by decide)
  rw [RunRequest.sought, if_neg (by decide), if_neg (by decide), Registry.resolve,
    Registry.resolveExact_of_short hshort]
  exact congrArg Except.ok (Entries.get?_put_self _ _ _)

/-- A run that passes all stages calls its model once and leaves one record and one span. -/
theorem run_stages_site :
    let final := Session.run (run siteRegistry SchemaBook.builtin.validateInput countingModel siteRequest) (.start 0)
    (∃ result, final.1 = .ok result ∧ result.output = "done") ∧ final.2.world = 1 ∧
      final.2.journal.callRecords.length = 1 ∧ final.2.journal.spans.length = 1 := by
  intro final
  have hclock : elapsedMs siteRequest.clock.start siteRequest.clock.finish = .ok 1000 := elapsedMs_secondClock
  have hshapes : Entries.get? SchemaBook.builtin siteRequest.id =
      some ⟨generateSiteInput, some generateSiteOutput⟩ := by
    rfl
  have hread : generateSiteInput.read (.table siteRequest.inputs) =
      .ok (.record "GenerateSiteInput" [(⟨"research_data", "research_data", false⟩, .text "facts")]) := by
    rfl
  have htable : (Value.record "GenerateSiteInput"
      [(⟨"research_data", "research_data", false⟩, .text "facts")]).tableOf .template =
        .ok [("research_data", .text "facts")] := by
    rfl
  have hshort : ¬isLong sitePrompt.version = true := by
    rw [show isLong sitePrompt.version = false from isLong_of_lt_hundred (by decide)]
    exact Bool.false_ne_true
  have hcomplete : ¬sitePrompt.blankInputs [("research_data", .text "facts")] ≠ [] := by decide +kernel
  have hstages := run_stages siteRegistry countingModel siteRequest (.start 0)
  simp only [hshapes, hread, sought_siteRequest, htable, Except.ok.injEq, exists_eq_left', if_neg hshort,
    if_neg hcomplete] at hstages
  obtain ⟨rendered, hash, -, -, hworld, hresult, ⟨span, hspan⟩, hrecord, -⟩ := hstages
  obtain ⟨log, -, -, -, -, hrecords⟩ := hrecord ⟨⟨1000, hclock⟩, nofun⟩
  refine ⟨⟨_, hresult, rfl⟩, hworld, ?_, ?_⟩
  · rw [hrecords]
    rfl
  · rw [hspan]
    rfl

end Promptbook
