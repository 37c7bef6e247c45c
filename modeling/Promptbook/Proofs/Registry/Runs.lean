import Promptbook.Prompt.Registry
import Promptbook.Proofs.Entries
import Promptbook.Proofs.Registry.Configuring

/-!
# Runs of a registry

A run is a list of actions on a registry, of which some may fail.  Beside the registry that a run leads to stands
its `history`, the prompts that were stored since the registry was last cleared: a prompt whose version is too long
for a key is not stored, and ends a registration of several.  The prompts of the registry are the history read as a
table (`prompts_run`), so a lookup finds the last prompt of the history that has the key (`resolveExact_run`).
-/

namespace Promptbook

open Promptbook.Number

/-- The text of the key of a prompt, as far as its version has a text. -/
def Prompt.keyText (p : Prompt) : String :=
  Key.text p.id p.version p.variant

theorem Prompt.key_of_short {p : Prompt} (h : isLong p.version = false) : p.key = .ok p.keyText :=
  Key.build_of_short h _ _

theorem Prompt.key_of_long {p : Prompt} (h : isLong p.version = true) : p.key = .error .integerTooLongToWrite :=
  Key.build_of_long h _ _

namespace Registry

/-- What can be done to a registry. -/
inductive Action
  | register (p : Prompt)
  | registerAll (ps : List Prompt)
  | configure (id : String) (version : Int) (weights : Entries Value)
  | clear

/-- The work of an action. -/
def Action.work : Action → Session Registry Unit
  | register p => Registry.register p
  | registerAll ps => Registry.registerAll ps
  | configure id version weights => Registry.configure id version weights
  | clear => Registry.clear

/-- The registry after an action, and the log records of the action.  What an action that fails has done before it
fails remains done. -/
def perform (r : Registry) (action : Action) : Registry × List LogRecord :=
  let left := (Session.run action.work (.start r)).2
  (left.world, left.journal.logs)

/-- The registry after a run. -/
def run (r : Registry) (actions : List Action) : Registry :=
  actions.foldl (fun r action => (r.perform action).1) r

/-- The prompts that a registration of several stores: those before the first one without a key. -/
def stored (ps : List Prompt) : List Prompt :=
  ps.takeWhile fun p => !isLong p.version

/-- The prompts stored since the last clear, after an action. -/
def recorded (past : List Prompt) : Action → List Prompt
  | .register p => past ++ stored [p]
  | .registerAll ps => past ++ stored ps
  | .configure _ _ _ => past
  | .clear => []

/-- The prompts stored since the last clear of a run, in order. -/
def history (actions : List Action) : List Prompt :=
  actions.foldl recorded []

/-- Prompts with their keys. -/
def keyed (ps : List Prompt) : List (String × Prompt) :=
  ps.map fun p => (p.keyText, p)

/-- The last prompt with a property. -/
def lastWith (q : Prompt → Prop) [DecidablePred q] (ps : List Prompt) : Option Prompt :=
  (ps.filter fun p => q p).getLast?

/-! ### What one action does -/

theorem stored_cons_of_short {p : Prompt} (h : isLong p.version = false) (ps : List Prompt) :
    stored (p :: ps) = p :: stored ps := by
  rw [stored, List.takeWhile_cons_of_pos (by simp [h])]
  rfl

theorem stored_cons_of_long {p : Prompt} (h : isLong p.version = true) (ps : List Prompt) :
    stored (p :: ps) = [] := by
  rw [stored, List.takeWhile_cons_of_neg (by simp [h])]

theorem stored_eq_self {ps : List Prompt} (h : ∀ p ∈ ps, isLong p.version = false) : stored ps = ps :=
  List.takeWhile_eq_self_iff.2 fun p hp => by simp [h p hp]

theorem isLong_of_mem_stored {ps : List Prompt} {p : Prompt} (h : p ∈ stored ps) : isLong p.version = false := by
  simpa using List.mem_takeWhile_imp h

/-- A prompt with a key is stored under it. -/
theorem run_register_of_short {p : Prompt} (h : isLong p.version = false) (s : SessionState Registry) :
    Session.run (register p) s =
      (.ok (), ({ s with world := s.world.withPrompt p.keyText p } : SessionState Registry).logged
        (registerRecord p.keyText (s.world.prompts.has p.keyText))) := by
  rw [register, Session.run_bind, Session.run_ofMisuse, Prompt.key_of_short h]
  simp only [Except.mapError, Session.run_bind, Session.run_world, Session.run_setWorld, Session.run_log]

theorem run_register_of_long {p : Prompt} (h : isLong p.version = true) (s : SessionState Registry) :
    Session.run (register p) s = (.error (.misuse .integerTooLongToWrite), s) := by
  rw [register, Session.run_bind, Session.run_ofMisuse, Prompt.key_of_long h]
  rfl

/-- Registering one prompt is registering a list of one. -/
theorem run_registerAll_singleton (p : Prompt) (s : SessionState Registry) :
    Session.run (registerAll [p]) s = Session.run (register p) s := by
  rw [registerAll, Session.run_bind]
  rcases Session.run (register p) s with ⟨_ | _, _⟩ <;> rfl

/-- Prompts with keys can all be registered. -/
theorem run_registerAll_of_short {ps : List Prompt} (h : ∀ p ∈ ps, isLong p.version = false)
    (s : SessionState Registry) : (Session.run (registerAll ps) s).1 = .ok () := by
  induction ps generalizing s with
  | nil => rfl
  | cons p ps ih =>
    rw [List.forall_mem_cons] at h
    rw [registerAll, Session.run_bind, run_register_of_short h.1]
    exact ih h.2 _

theorem prompts_run_registerAll (ps : List Prompt) (s : SessionState Registry) :
    (Session.run (registerAll ps) s).2.world.prompts.entries =
      s.world.prompts.entries.putAll (keyed (stored ps)) := by
  induction ps generalizing s with
  | nil => rfl
  | cons p ps ih =>
    rw [registerAll, Session.run_bind]
    cases hlong : isLong p.version with
    | true =>
      rw [run_register_of_long hlong, stored_cons_of_long hlong]
      rfl
    | false =>
      rw [run_register_of_short hlong, stored_cons_of_short hlong]
      exact ih _

theorem experiments_run_registerAll (ps : List Prompt) (s : SessionState Registry) :
    (Session.run (registerAll ps) s).2.world.experiments = s.world.experiments := by
  induction ps generalizing s with
  | nil => rfl
  | cons p ps ih =>
    rw [registerAll, Session.run_bind]
    cases hlong : isLong p.version with
    | true => rw [run_register_of_long hlong]
    | false =>
      rw [run_register_of_short hlong]
      exact ih _

theorem perform_register (r : Registry) (p : Prompt) : r.perform (.register p) = r.perform (.registerAll [p]) := by
  simp only [perform, Action.work, run_registerAll_singleton]

theorem prompts_perform_registerAll (r : Registry) (ps : List Prompt) :
    (r.perform (.registerAll ps)).1.prompts.entries = r.prompts.entries.putAll (keyed (stored ps)) :=
  prompts_run_registerAll ps (.start r)

theorem experiments_perform_registerAll (r : Registry) (ps : List Prompt) :
    (r.perform (.registerAll ps)).1.experiments = r.experiments :=
  experiments_run_registerAll ps (.start r)

/-- Weights that make an experiment set it. -/
theorem perform_of_configured (r : Registry) {id : String} {version : Int} {weights : Entries Value} {e : Experiment}
    (h : configured? id version weights = some e) :
    (r.perform (.configure id version weights)).1 = r.withExperiment (Key.text id version none) e :=
  (run_configure_of_some h (.start r)).2

/-- Configuring that is refused leaves the whole registry as it was. -/
theorem perform_of_refused (r : Registry) {id : String} {version : Int} {weights : Entries Value}
    (h : configured? id version weights = none) : (r.perform (.configure id version weights)).1 = r :=
  (run_configure_of_none h (.start r)).2

/-- Configuring an experiment leaves the prompts alone. -/
theorem prompts_perform_configure (r : Registry) (id : String) (version : Int) (weights : Entries Value) :
    (r.perform (.configure id version weights)).1.prompts = r.prompts := by
  cases h : configured? id version weights with
  | none => rw [perform_of_refused r h]
  | some e =>
    rw [perform_of_configured r h]
    rfl

private theorem keyed_append (ps qs : List Prompt) : keyed (ps ++ qs) = keyed ps ++ keyed qs :=
  List.map_append

private theorem putAll_append {α : Type} (t : Entries α) (pairs more : List (String × α)) :
    t.putAll (pairs ++ more) = (t.putAll pairs).putAll more := by
  simp [Entries.putAll, List.foldl_append]

/-- An action keeps the prompts equal to the recorded ones as a table. -/
theorem prompts_perform {r : Registry} {past : List Prompt} (h : r.prompts.entries = Entries.ofPairs (keyed past))
    (action : Action) : (r.perform action).1.prompts.entries = Entries.ofPairs (keyed (recorded past action)) := by
  have hall : ∀ ps,
      (r.perform (.registerAll ps)).1.prompts.entries = Entries.ofPairs (keyed (past ++ stored ps)) := by
    intro ps
    rw [prompts_perform_registerAll, h, keyed_append, Entries.ofPairs, Entries.ofPairs, putAll_append]
  cases action with
  | register p =>
    rw [perform_register]
    exact hall [p]
  | registerAll ps => exact hall ps
  | configure id version weights =>
    rw [prompts_perform_configure]
    exact h
  | clear => rfl

/-! ### What a run does -/

private theorem prompts_foldl (actions : List Action) {r : Registry} {past : List Prompt}
    (h : r.prompts.entries = Entries.ofPairs (keyed past)) :
    (r.run actions).prompts.entries = Entries.ofPairs (keyed (actions.foldl recorded past)) := by
  induction actions generalizing r past with
  | nil => exact h
  | cons action actions ih => exact ih (prompts_perform h action)

/-- After a run the prompts are its history as a table. -/
theorem prompts_run (actions : List Action) :
    (empty.run actions).prompts.entries = Entries.ofPairs (keyed (history actions)) :=
  prompts_foldl actions rfl

private theorem isLong_foldl (actions : List Action) {past : List Prompt} (h : ∀ p ∈ past, isLong p.version = false) :
    ∀ p ∈ actions.foldl recorded past, isLong p.version = false := by
  induction actions generalizing past with
  | nil => exact h
  | cons action actions ih =>
    have hall : ∀ ps, ∀ p ∈ past ++ stored ps, isLong p.version = false := by
      intro ps p hp
      exact (List.mem_append.1 hp).elim (h p) isLong_of_mem_stored
    refine ih ?_
    cases action with
    | register p => exact hall [p]
    | registerAll ps => exact hall ps
    | configure id version weights => exact h
    | clear => exact List.forall_mem_nil _

/-- The prompts of a history have keys. -/
theorem isLong_of_mem_history {actions : List Action} {p : Prompt} (h : p ∈ history actions) :
    isLong p.version = false :=
  isLong_foldl actions (List.forall_mem_nil _) p h

/-- After a run a key finds the last prompt of the history that has it. -/
theorem get?_prompts_run (actions : List Action) (key : String) :
    (empty.run actions).prompts.get? key = lastWith (fun p => p.keyText = key) (history actions) := by
  rw [Table.get?, prompts_run, Entries.ofPairs, Entries.get?_putAll, keyed, List.filter_map, List.getLast?_map,
    Option.map_map]
  simp [lastWith, Function.comp_def, Entries.get?]

/-- After a run a lookup finds the last prompt of the history that has the key, if there can be such a key. -/
theorem resolveExact_run (actions : List Action) (id : String) (version : Int) (variant : Option String) :
    (empty.run actions).resolveExact id version variant =
      (Key.build id version variant).map fun key => lastWith (fun p => p.keyText = key) (history actions) := by
  rw [resolveExact]
  exact congrArg (Except.map · (Key.build id version variant)) (funext (get?_prompts_run actions))

end Registry
end Promptbook
