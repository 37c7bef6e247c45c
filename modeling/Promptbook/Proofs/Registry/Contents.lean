import Promptbook.Proofs.Registry.Configuring
import Promptbook.Proofs.Registry.Identity

/-!
# What a registry holds after a run

Everything that can be read off a registry is fixed by what was done since it was last cleared.  `history` lists the
prompts that were stored, `configurations` the experiments that were configured, `written` the log records.
One step lemma for each table says what an action does to it (`prompts_perform`, `experiments_perform`,
`newRecords_perform`); by induction the run leaves the prompts and experiments of the history, and as many records
of new keys as there are prompts.  `contents_run` puts the readings together.
-/

namespace Promptbook.Registry

open Promptbook.Number

/-! ### What was done since the last clear -/

/-- Are the weights integers, if the action configures an experiment? -/
def Action.HasIntegerWeights : Action → Prop
  | .configure _ _ weights => ∃ integers, weights = Experiment.given integers
  | _ => True

/-- The ids and versions configured since the last clear, after an action.  A version that is too long for a key is
not configured. -/
def configured (past : List (String × Int)) : Action → List (String × Int)
  | .configure id version _ => if isLong version then past else past ++ [(id, version)]
  | .clear => []
  | _ => past

/-- The ids and versions that a run configures after its last clear, in order. -/
def configurations (actions : List Action) : List (String × Int) :=
  actions.foldl configured []

/-- The log records since the last clear, after an action on a registry. -/
def writtenAfter (past : List LogRecord) (r : Registry) : Action → List LogRecord
  | .clear => []
  | action => past ++ (r.perform action).2

/-- The log records since the last clear, after a run that starts with a registry. -/
def writtenFrom (past : List LogRecord) (r : Registry) : List Action → List LogRecord
  | [] => past
  | action :: actions => writtenFrom (writtenAfter past r action) (r.perform action).1 actions

/-- The log records that a run of a new registry writes after its last clear, in order. -/
def written (actions : List Action) : List LogRecord :=
  writtenFrom [] empty actions

/-- Does a record tell that a prompt was registered under a new key? -/
def tellsNewPrompt (r : LogRecord) : Bool :=
  r.level == .debug && r.event == "prompt registered" &&
    match r.fields.get? "replaced" with
    | some (.bool replaced) => !replaced
    | _ => false

/-- The number of records that tell of a new key. -/
def newRecords (records : List LogRecord) : Nat :=
  records.countP tellsNewPrompt

/-! ### What one action does -/

@[simp] theorem tellsNewPrompt_registerRecord (key : String) (replaced : Bool) :
    tellsNewPrompt (registerRecord key replaced) = !replaced := by
  simp [tellsNewPrompt, registerRecord, Entries.get?]

@[simp] theorem tellsNewPrompt_weightRecord (key : String) (total : Value) :
    tellsNewPrompt (weightRecord key total) = false := by
  simp [tellsNewPrompt, weightRecord]

theorem newRecords_append (records more : List LogRecord) :
    newRecords (records ++ more) = newRecords records + newRecords more :=
  List.countP_append

/-- A registration tells of a new key exactly if it makes the registry larger. -/
theorem length_withPrompt (r : Registry) (key : String) (p : Prompt) :
    (r.withPrompt key p).prompts.length =
      r.prompts.length + newRecords [registerRecord key (r.prompts.has key)] := by
  rw [newRecords, List.countP_singleton, tellsNewPrompt_registerRecord]
  show (r.prompts.entries.put key p).length = r.prompts.entries.length + _
  rw [Entries.length_put, Table.has]
  cases r.prompts.entries.has key <;> rfl

/-- Registering prompts keeps the distance between the number of prompts and the number of records of new keys. -/
theorem length_run_registerAll (ps : List Prompt) (s : SessionState Registry) :
    let final := (Session.run (registerAll ps) s).2
    final.world.prompts.length + newRecords s.journal.logs =
      s.world.prompts.length + newRecords final.journal.logs := by
  induction ps generalizing s with
  | nil => rfl
  | cons p ps ih =>
    rw [registerAll, Session.run_bind]
    cases hlong : isLong p.version with
    | true => rw [run_register_of_long hlong]
    | false =>
      rw [run_register_of_short hlong]
      have hrest := ih (({ s with world := s.world.withPrompt p.keyText p } : SessionState Registry).logged
        (registerRecord p.keyText (s.world.prompts.has p.keyText)))
      simp only [SessionState.world_logged, SessionState.journal_logged, Journal.log, newRecords_append,
        length_withPrompt] at hrest
      simp only
      omega

/-- Configuring an experiment tells of no new key. -/
theorem newRecords_perform_configure (r : Registry) (id : String) (version : Int) (weights : Entries Value) :
    newRecords (r.perform (.configure id version weights)).2 = 0 := by
  show newRecords (Session.run (configure id version weights) (.start r)).2.journal.logs = 0
  obtain ⟨noted, hnoted, hrun⟩ := configure_cases id version weights (.start r)
  have hlogs : newRecords noted.journal.logs = 0 := by
    rcases hnoted.journal_eq with hsame | ⟨total, hlogged⟩
    · rw [hsame]
      rfl
    · rw [hlogged]
      simp [SessionState.start, Journal.log, Journal.empty, newRecords]
  rcases hrun with ⟨e, -, hrun⟩ | ⟨-, failure, hrun⟩ <;> rw [hrun] <;> exact hlogs

/-- An action keeps the number of prompts equal to the number of records of new keys. -/
theorem newRecords_perform {r : Registry} {past : List LogRecord} (h : r.prompts.length = newRecords past)
    (action : Action) : (r.perform action).1.prompts.length = newRecords (writtenAfter past r action) := by
  have hall : ∀ ps, (r.perform (.registerAll ps)).1.prompts.length =
      newRecords (past ++ (r.perform (.registerAll ps)).2) := by
    intro ps
    have hlength := length_run_registerAll ps (.start r)
    rw [newRecords_append, ← h]
    exact hlength
  cases action with
  | register p =>
    rw [writtenAfter, perform_register]
    · exact hall [p]
    · nofun
  | registerAll ps => exact hall ps
  | configure id version weights =>
    rw [prompts_perform_configure, writtenAfter, newRecords_append, newRecords_perform_configure, h, Nat.add_zero]
    nofun
  | clear => rfl

/-- The keys of the experiments of ids and versions, each once. -/
def experimentKeys (pairs : List (String × Int)) : List String :=
  (pairs.map fun c => Key.text c.1 c.2 none).eraseDups

/-- An action keeps the keys of the experiments equal to those of the configured ids and versions. -/
theorem experiments_perform {r : Registry} {past : List (String × Int)} (h : r.experiments.keys = experimentKeys past)
    {action : Action} (hweights : action.HasIntegerWeights) :
    (r.perform action).1.experiments.keys = experimentKeys (configured past action) := by
  have hall : ∀ ps, (r.perform (.registerAll ps)).1.experiments.keys = experimentKeys past := by
    intro ps
    rw [experiments_perform_registerAll, h]
  cases action with
  | register p =>
    rw [perform_register]
    exact hall [p]
  | registerAll ps => exact hall ps
  | configure id version weights =>
    obtain ⟨integers, rfl⟩ := hweights
    rw [configured]
    cases hlong : isLong version with
    | true =>
      rw [perform_of_refused r (by rw [configured?, hlong]; rfl)]
      exact h
    | false =>
      rw [perform_of_configured r (configured?_given hlong id integers), if_neg Bool.false_ne_true, experimentKeys,
        List.map_append, List.map_singleton, Entries.eraseDups_concat]
      show Entries.keys (r.experiments.entries.put _ _) = _
      rw [Entries.keys_put, show r.experiments.entries.keys = experimentKeys past from h, experimentKeys]
      simp only [List.mem_eraseDups]
  | clear => rfl

/-! ### What a run does -/

private theorem newRecords_foldl (actions : List Action) {r : Registry} {past : List LogRecord}
    (h : r.prompts.length = newRecords past) :
    (r.run actions).prompts.length = newRecords (writtenFrom past r actions) := by
  induction actions generalizing r past with
  | nil => exact h
  | cons action actions ih => exact ih (newRecords_perform h action)

private theorem experiments_foldl (actions : List Action) {r : Registry} {past : List (String × Int)}
    (h : r.experiments.keys = experimentKeys past) (hweights : ∀ action ∈ actions, action.HasIntegerWeights) :
    (r.run actions).experiments.keys = experimentKeys (actions.foldl configured past) := by
  induction actions generalizing r past with
  | nil => exact h
  | cons action actions ih =>
    rw [List.forall_mem_cons] at hweights
    exact ih (experiments_perform h hweights.1) hweights.2

/-- After a run there are as many prompts as records of new keys. -/
theorem length_prompts_run (actions : List Action) :
    (empty.run actions).prompts.length = newRecords (written actions) :=
  newRecords_foldl actions rfl

/-- After a run the experiments are those of the configured ids and versions. -/
theorem keys_experiments_run {actions : List Action} (h : ∀ action ∈ actions, action.HasIntegerWeights) :
    (empty.run actions).experiments.keys = experimentKeys (configurations actions) :=
  experiments_foldl actions rfl h

/-- The keys of prompts in the order in which they first come. -/
def firstKeys (ps : List Prompt) : List String :=
  (ps.map Prompt.keyText).eraseDups

theorem keys_prompts_run (actions : List Action) :
    (empty.run actions).prompts.keys = firstKeys (history actions) := by
  rw [Table.keys, prompts_run, Entries.keys_ofPairs, keyed, List.map_map, firstKeys]
  rfl

/-- After a run the list of all prompts has, for every key of the history in the order in which they first come, the
last prompt with that key. -/
theorem listAll_run (actions : List Action) :
    (empty.run actions).listAll.map some =
      (firstKeys (history actions)).map fun key => lastWith (fun p => p.keyText = key) (history actions) := by
  rw [← keys_prompts_run]
  refine (Entries.map_get?_keys (empty.run actions).prompts.nodup).symm.trans ?_
  exact List.map_congr_left fun key _ => get?_prompts_run actions key

theorem mem_history_of_mem_listAll {actions : List Action} {p : Prompt} (h : p ∈ (empty.run actions).listAll) :
    p ∈ history actions := by
  obtain ⟨e, he, rfl⟩ := List.mem_map.1 h
  rw [prompts_run] at he
  obtain ⟨p, hp, rfl⟩ := List.mem_map.1 (Entries.mem_of_mem_ofPairs he)
  exact hp

theorem text_none_injective : Function.Injective fun c : String × Int => Key.text c.1 c.2 none := by
  rintro ⟨id, version⟩ ⟨id', version'⟩ h
  have htext : (Key.Parts.mk id version none).text = (Key.Parts.mk id' version' none).text := h
  rcases (Key.text_eq_text_iff (by simp) (by simp)).1 htext with heq | ⟨_, hvariant, _⟩ | ⟨_, hvariant, _⟩
  · simp only [Key.Parts.mk.injEq, and_true] at heq
    rw [heq.1, heq.2]
  · cases hvariant
  · cases hvariant

/-- The text of the key of a prompt without its variant, as far as its version has a text. -/
def baseText (p : Prompt) : String :=
  Key.text p.id p.version none

private theorem mapM_baseKey_of_short {ps : List Prompt} (h : ∀ p ∈ ps, isLong p.version = false) :
    ps.mapM Prompt.baseKey = .ok (ps.map baseText) := by
  induction ps with
  | nil => rfl
  | cons p ps ih =>
    rw [List.forall_mem_cons] at h
    rw [List.mapM_cons, ih h.2, Prompt.baseKey, Key.build_of_short h.1]
    rfl

private theorem mapM_baseKey_of_long {ps : List Prompt} (h : ∃ p ∈ ps, isLong p.version = true) :
    ps.mapM Prompt.baseKey = .error .integerTooLongToWrite := by
  induction ps with
  | nil => exact absurd h (by simp)
  | cons p ps ih =>
    rw [List.mapM_cons, Prompt.baseKey]
    cases hlong : isLong p.version with
    | true =>
      rw [Key.build_of_long hlong]
      rfl
    | false =>
      rw [List.exists_mem_cons_iff, hlong] at h
      rw [Key.build_of_short hlong, ih (h.resolve_left Bool.false_ne_true)]
      rfl

/-- The counts of a registry whose prompts all have keys. -/
def counts (r : Registry) : Stats :=
  ⟨r.prompts.length, (r.listAll.map baseText).eraseDups.length, r.experiments.length⟩

theorem stats_of_short {r : Registry} (h : ∀ p ∈ r.listAll, isLong p.version = false) : r.stats = .ok r.counts := by
  rw [stats, mapM_baseKey_of_short h]
  rfl

theorem stats_of_long {r : Registry} (h : ∃ p ∈ r.listAll, isLong p.version = true) :
    r.stats = .error .integerTooLongToWrite := by
  rw [stats, mapM_baseKey_of_long h]
  rfl

/-- After a run everything can be counted. -/
theorem stats_run (actions : List Action) : (empty.run actions).stats = .ok (empty.run actions).counts :=
  stats_of_short fun _ hp => isLong_of_mem_history (mem_history_of_mem_listAll hp)

/-- The prompts that were to be registered since the last clear, after an action. -/
def requested (past : List Prompt) : Action → List Prompt
  | .register p => past ++ [p]
  | .registerAll ps => past ++ ps
  | .configure _ _ _ => past
  | .clear => []

/-- The prompts that a run was to register after its last clear, in order. -/
def requests (actions : List Action) : List Prompt :=
  actions.foldl requested []

private theorem recorded_eq_or_long {past past' : List Prompt}
    (h : past = past' ∨ ∃ p ∈ past', isLong p.version = true) (action : Action) :
    recorded past action = requested past' action ∨ ∃ p ∈ requested past' action, isLong p.version = true := by
  have hall : ∀ ps, past ++ stored ps = past' ++ ps ∨ ∃ p ∈ past' ++ ps, isLong p.version = true := by
    intro ps
    rcases h with rfl | ⟨p, hp, hlong⟩
    · by_cases hps : ∃ p ∈ ps, isLong p.version = true
      · obtain ⟨p, hp, hlong⟩ := hps
        exact .inr ⟨p, List.mem_append_right _ hp, hlong⟩
      · have hshort : ∀ p ∈ ps, isLong p.version = false := by simpa using hps
        exact .inl (by rw [stored_eq_self hshort])
    · exact .inr ⟨p, List.mem_append_left _ hp, hlong⟩
  cases action with
  | register p => exact hall [p]
  | registerAll ps => exact hall ps
  | configure id version weights => exact h
  | clear => exact .inl rfl

/-- A clear makes up for what could not be stored, so the induction keeps that the two lists are the same or that a
prompt that could not be stored is still among those that were to be registered. -/
private theorem foldl_recorded_eq {actions : List Action} {past past' : List Prompt}
    (h : past = past' ∨ ∃ p ∈ past', isLong p.version = true)
    (hshort : ∀ p ∈ actions.foldl requested past', isLong p.version = false) :
    actions.foldl recorded past = actions.foldl requested past' := by
  induction actions generalizing past past' with
  | nil =>
    rcases h with rfl | ⟨p, hp, hlong⟩
    · rfl
    · rw [hshort p hp] at hlong
      cases hlong
  | cons action actions ih => exact ih (recorded_eq_or_long h action) hshort

/-- The prompts that were to be registered are stored exactly if all their versions fit in keys. -/
theorem history_eq_requests_iff (actions : List Action) :
    history actions = requests actions ↔ ∀ p ∈ requests actions, isLong p.version = false :=
  ⟨fun h _ hp => isLong_of_mem_history (h ▸ hp), foldl_recorded_eq (.inl rfl)⟩

/-- What can be read off a registry after a run: the list of all prompts, the lookups, and the counts.  All of it is
fixed by the prompts and experiments that the run stored, and the records that it wrote, after the last clear.  A
version that does not fit in a key is neither stored nor looked up, so the prompts that were to be registered are
those that were stored exactly if there is no such version among them. -/
theorem contents_run (actions : List Action) (h : ∀ action ∈ actions, action.HasIntegerWeights) :
    (history actions = requests actions ↔ ∀ p ∈ requests actions, isLong p.version = false) ∧
    ((empty.run actions).listAll.map some =
      (firstKeys (history actions)).map fun key => lastWith (fun p => p.keyText = key) (history actions)) ∧
    (∀ id version variant, (empty.run actions).resolveExact id version variant =
      (Key.build id version variant).map fun key => lastWith (fun p => p.keyText = key) (history actions)) ∧
    (∀ id version, (empty.run actions).resolve id version =
      (Key.build id version none).map fun key => lastWith (fun p => p.keyText = key) (history actions)) ∧
    ∃ stats, (empty.run actions).stats = .ok stats ∧
      stats.totalPrompts = (firstKeys (history actions)).length ∧
      stats.totalPrompts = newRecords (written actions) ∧
      stats.variantConfigs = (configurations actions).eraseDups.length := by
  refine ⟨history_eq_requests_iff actions, listAll_run actions, resolveExact_run actions,
    fun id version => resolveExact_run actions id version none, _, stats_run actions, ?_,
    length_prompts_run actions, ?_⟩
  · rw [← keys_prompts_run]
    exact (List.length_map _).symm
  · have hkeys := congrArg List.length (keys_experiments_run h)
    rw [experimentKeys, Entries.length_eraseDups_map text_none_injective] at hkeys
    rw [← hkeys]
    exact (List.length_map _).symm

/-- A run that registers a prompt again, before and after a clear, and configures an experiment twice. -/
def relaunch : List Action :=
  [.register (.bare "c" 1 none), .clear, .registerAll [.bare "a" 1 none, .bare "b" 2 (some "x"), .bare "a" 1 none],
    .configure "a" 1 (Experiment.given [("x", 80), ("y", 20)]), .configure "a" 1 (Experiment.given [("x", -5)])]

/-- The repeated key counts once, in the list of prompts, among the records and among the experiments. -/
theorem contents_run_relaunch :
    (∀ action ∈ relaunch, action.HasIntegerWeights) ∧ firstKeys (history relaunch) = ["a@1", "b@2:x"] ∧
      newRecords (written relaunch) = 2 ∧
      ∃ stats, (empty.run relaunch).stats = .ok stats ∧ stats.totalPrompts = 2 ∧ stats.variantConfigs = 1 := by
  have hweights : ∀ action ∈ relaunch, action.HasIntegerWeights := by
    intro action haction
    simp only [relaunch, List.mem_cons, List.not_mem_nil, or_false] at haction
    rcases haction with rfl | rfl | rfl | rfl | rfl
    · trivial
    · trivial
    · trivial
    · exact ⟨_, rfl⟩
    · exact ⟨_, rfl⟩
  have hkeys : firstKeys (history relaunch) = ["a@1", "b@2:x"] := by decide +kernel
  have hconfigured : (configurations relaunch).eraseDups.length = 1 := by decide +kernel
  obtain ⟨-, -, -, -, stats, hstats, htotal, hrecords, hconfigs⟩ := contents_run relaunch hweights
  rw [hkeys] at htotal
  exact ⟨hweights, hkeys, hrecords.symm.trans htotal, stats, hstats, htotal, hconfigs.trans hconfigured⟩

/-- A prompt whose version has one digit too many for a key. -/
def oversized : Prompt :=
  .bare "a" (Int.ofNat longInteger) none

/-- The prompt is not stored, and neither logged nor counted, and looking it up fails instead of finding nothing. -/
theorem oversized_not_stored :
    requests [.register oversized] = [oversized] ∧ history [.register oversized] = [] ∧
      Session.run (register oversized) (.start empty) = (.error (.misuse .integerTooLongToWrite), .start empty) ∧
      (empty.run [.register oversized]).listAll = [] ∧
      empty.resolve oversized.id oversized.version = .error .integerTooLongToWrite := by
  have hlong : isLong oversized.version = true := isLong_longInteger
  have hhistory : history [.register oversized] = [] := stored_cons_of_long hlong []
  have hlisted : (empty.run [.register oversized]).listAll = [] := by
    refine List.eq_nil_iff_forall_not_mem.2 fun p hp => ?_
    have hmem := mem_history_of_mem_listAll hp
    rw [hhistory] at hmem
    cases hmem
  refine ⟨rfl, hhistory, run_register_of_long hlong _, hlisted, ?_⟩
  exact resolveExact_of_long hlong empty _ none

end Promptbook.Registry
