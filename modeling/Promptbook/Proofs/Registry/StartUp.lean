import Promptbook.Proofs.Prompt.Builtin
import Promptbook.Proofs.Registry.Listings

/-!
# Starting up in any order

A program registers its prompts and experiments when it starts.  If each of them has a place of its own, it does not
matter in which order this is done, nor how often.  Entries that were there keep their places and are changed in the
same way, so only new entries may stand in different orders (`CarriesOut.prompts_start`).  Of these at most one is a
version of an id without a variant, so the listed versions do not show the order (`CarriesOut.listDefaults_eq`).
-/

namespace Promptbook.Registry

open Promptbook.Number

/-- What a program sets up: a prompt, or an experiment with integer weights. -/
inductive Setting
  | prompt (p : Prompt)
  | experiment (e : Experiment)

namespace Setting

/-- The action that sets it up. -/
def action : Setting → Action
  | prompt p => .register p
  | experiment e => .configure e.promptId e.version (Experiment.given e.weights)

/-- Do two settings take the same place? -/
def Rivals : Setting → Setting → Prop
  | prompt p, prompt q => ∃ key, p.key = .ok key ∧ q.key = .ok key
  | experiment e, experiment f => e.promptId = f.promptId ∧ e.version = f.version
  | _, _ => False

/-- The prompt that it stores, if it is one with a key. -/
def prompt? : Setting → Option Prompt
  | prompt p => if isLong p.version then none else some p
  | experiment _ => none

/-- The experiment that it stores, if it is one with a key. -/
def experiment? : Setting → Option Experiment
  | prompt _ => none
  | experiment e => if isLong e.version then none else some e

theorem rivals_prompt_iff {p q : Prompt} :
    (prompt p).Rivals (prompt q) ↔
      isLong p.version = false ∧ isLong q.version = false ∧ p.keyText = q.keyText := by
  constructor
  · rintro ⟨key, hp, hq⟩
    obtain ⟨hshort, rfl⟩ := Key.build_eq_ok_iff.1 hp
    obtain ⟨hshort', hkey⟩ := Key.build_eq_ok_iff.1 hq
    exact ⟨hshort, hshort', hkey⟩
  · rintro ⟨hshort, hshort', hkey⟩
    exact ⟨p.keyText, Prompt.key_of_short hshort, hkey ▸ Prompt.key_of_short hshort'⟩

instance : DecidableRel Rivals
  | prompt _, prompt _ => decidable_of_iff _ rivals_prompt_iff.symm
  | experiment e, experiment f => inferInstanceAs (Decidable (e.promptId = f.promptId ∧ e.version = f.version))
  | prompt _, experiment _ => inferInstanceAs (Decidable False)
  | experiment _, prompt _ => inferInstanceAs (Decidable False)

theorem Rivals.symm {s t : Setting} (h : s.Rivals t) : t.Rivals s := by
  cases s <;> cases t
  · obtain ⟨key, hs, ht⟩ := h
    exact ⟨key, ht, hs⟩
  · exact h
  · exact h
  · exact ⟨h.1.symm, h.2.symm⟩

end Setting

/-- The registry after settings were set up one after the other. -/
def start (r : Registry) (execution : List Setting) : Registry :=
  r.run (execution.map Setting.action)

/-- No two settings of a plan take the same place. -/
def Compatible (plan : List Setting) : Prop :=
  plan.Pairwise fun s t => ¬ s.Rivals t

instance : DecidablePred Compatible :=
  fun plan => inferInstanceAs (Decidable (plan.Pairwise fun s t => ¬ s.Rivals t))

/-- An execution sets up everything in a plan, in some order and at least once, and nothing else. -/
def CarriesOut (execution plan : List Setting) : Prop :=
  ∀ s, s ∈ execution ↔ s ∈ plan

/-- Two registries answer all questions alike, up to the order of the lists that are in the order of registration. -/
structure SameAnswers (r r' : Registry) : Prop where
  resolve : ∀ id version, r.resolve id version = r'.resolve id version
  resolveExact : ∀ id version variant, r.resolveExact id version variant = r'.resolveExact id version variant
  resolveLatest : ∀ id, r.resolveLatest id = r'.resolveLatest id
  listVersions : ∀ id, r.listVersions id = r'.listVersions id
  experiment? : ∀ id version, r.experiment? id version = r'.experiment? id version
  selectVariant : ∀ id version seed, r.selectVariant id version seed = r'.selectVariant id version seed
  resolveVariant : ∀ id version seed, r.resolveVariant id version seed = r'.resolveVariant id version seed
  stats : r.stats = r'.stats
  listAll : r.listAll.Perm r'.listAll
  listVariants : ∀ id version, (r.listVariants id version).Perm (r'.listVariants id version)

/-! ### What is set up -/

theorem start_cons (r : Registry) (s : Setting) (execution : List Setting) :
    r.start (s :: execution) = (r.perform s.action).1.start execution := rfl

/-- The prompts that are stored, with their keys. -/
def promptEntries (execution : List Setting) : List (String × Prompt) :=
  keyed (execution.filterMap Setting.prompt?)

/-- The experiments that are stored, with their keys. -/
def experimentEntries (execution : List Setting) : List (String × Experiment) :=
  keyedExperiments (execution.filterMap Setting.experiment?)

theorem perform_prompt_of_short (r : Registry) {p : Prompt} (h : isLong p.version = false) :
    (r.perform (Setting.prompt p).action).1 = r.withPrompt p.keyText p := by
  show (Session.run (register p) (.start r)).2.world = _
  rw [run_register_of_short h]
  rfl

theorem perform_prompt_of_long (r : Registry) {p : Prompt} (h : isLong p.version = true) :
    (r.perform (Setting.prompt p).action).1 = r := by
  show (Session.run (register p) (.start r)).2.world = _
  rw [run_register_of_long h]
  rfl

theorem perform_experiment_of_short (r : Registry) {e : Experiment} (h : isLong e.version = false) :
    (r.perform (Setting.experiment e).action).1 = r.withExperiment (Key.text e.promptId e.version none) e :=
  perform_of_configured r (configured?_given h e.promptId e.weights)

theorem perform_experiment_of_long (r : Registry) {e : Experiment} (h : isLong e.version = true) :
    (r.perform (Setting.experiment e).action).1 = r :=
  perform_of_refused r (by rw [configured?, if_pos h])

/-- The tables after an execution: the entries of what can be stored are set one after the other. -/
theorem tables_start (r : Registry) (execution : List Setting) :
    (r.start execution).prompts.entries = r.prompts.entries.putAll (promptEntries execution) ∧
      (r.start execution).experiments.entries = r.experiments.entries.putAll (experimentEntries execution) := by
  induction execution generalizing r with
  | nil => exact ⟨rfl, rfl⟩
  | cons s execution ih =>
    rw [start_cons, promptEntries, experimentEntries]
    cases s with
    | prompt p =>
      have hother : (Setting.prompt p).experiment? = none := rfl
      cases hlong : isLong p.version with
      | true =>
        have hnone : (Setting.prompt p).prompt? = none := if_pos hlong
        rw [perform_prompt_of_long r hlong, List.filterMap_cons_none hnone, List.filterMap_cons_none hother]
        exact ih r
      | false =>
        have hsome : (Setting.prompt p).prompt? = some p := if_neg (by simp [hlong])
        rw [perform_prompt_of_short r hlong, List.filterMap_cons_some hsome, List.filterMap_cons_none hother]
        exact ih (r.withPrompt p.keyText p)
    | experiment e =>
      have hother : (Setting.experiment e).prompt? = none := rfl
      cases hlong : isLong e.version with
      | true =>
        have hnone : (Setting.experiment e).experiment? = none := if_pos hlong
        rw [perform_experiment_of_long r hlong, List.filterMap_cons_none hnone, List.filterMap_cons_none hother]
        exact ih r
      | false =>
        have hsome : (Setting.experiment e).experiment? = some e := if_neg (by simp [hlong])
        rw [perform_experiment_of_short r hlong, List.filterMap_cons_some hsome, List.filterMap_cons_none hother]
        exact ih (r.withExperiment (Key.text e.promptId e.version none) e)

theorem prompt?_eq_some_iff {s : Setting} {p : Prompt} :
    s.prompt? = some p ↔ s = .prompt p ∧ isLong p.version = false := by
  cases s with
  | experiment e => simp [Setting.prompt?]
  | prompt q =>
    simp only [Setting.prompt?, Option.ite_none_left_eq_some, Option.some.injEq, Bool.not_eq_true,
      Setting.prompt.injEq]
    constructor
    · rintro ⟨hshort, rfl⟩
      exact ⟨rfl, hshort⟩
    · rintro ⟨rfl, hshort⟩
      exact ⟨hshort, rfl⟩

theorem experiment?_eq_some_iff {s : Setting} {e : Experiment} :
    s.experiment? = some e ↔ s = .experiment e ∧ isLong e.version = false := by
  cases s with
  | prompt p => simp [Setting.experiment?]
  | experiment f =>
    simp only [Setting.experiment?, Option.ite_none_left_eq_some, Option.some.injEq, Bool.not_eq_true,
      Setting.experiment.injEq]
    constructor
    · rintro ⟨hshort, rfl⟩
      exact ⟨rfl, hshort⟩
    · rintro ⟨rfl, hshort⟩
      exact ⟨hshort, rfl⟩

theorem mem_promptEntries {execution : List Setting} {e : String × Prompt} :
    e ∈ promptEntries execution ↔
      Setting.prompt e.2 ∈ execution ∧ isLong e.2.version = false ∧ e.1 = e.2.keyText := by
  simp only [promptEntries, keyed, List.mem_map, List.mem_filterMap, prompt?_eq_some_iff]
  constructor
  · rintro ⟨p, ⟨s, hs, rfl, hshort⟩, rfl⟩
    exact ⟨hs, hshort, rfl⟩
  · rintro ⟨hmem, hshort, hkey⟩
    exact ⟨e.2, ⟨_, hmem, rfl, hshort⟩, Prod.ext hkey.symm rfl⟩

theorem mem_experimentEntries {execution : List Setting} {e : String × Experiment} :
    e ∈ experimentEntries execution ↔ Setting.experiment e.2 ∈ execution ∧ isLong e.2.version = false ∧
      e.1 = Key.text e.2.promptId e.2.version none := by
  simp only [experimentEntries, keyedExperiments, List.mem_map, List.mem_filterMap, experiment?_eq_some_iff]
  constructor
  · rintro ⟨f, ⟨s, hs, rfl, hshort⟩, rfl⟩
    exact ⟨hs, hshort, rfl⟩
  · rintro ⟨hmem, hshort, hkey⟩
    exact ⟨e.2, ⟨_, hmem, rfl, hshort⟩, Prod.ext hkey.symm rfl⟩

/-! ### Plans without rivals -/

variable {r : Registry} {plan first second : List Setting}

/-- Rivals in a plan without rivals are the same setting. -/
theorem Compatible.eq_of_rivals (h : Compatible plan) {s t : Setting} (hs : s ∈ plan) (ht : t ∈ plan)
    (hrivals : s.Rivals t) : s = t := by
  have : Std.Symm fun s t : Setting => ¬ s.Rivals t := ⟨fun s t hst hts => hst hts.symm⟩
  by_contra hne
  exact h.forall hs ht hne hrivals

theorem CarriesOut.mem_iff (hfirst : CarriesOut first plan) (hsecond : CarriesOut second plan) (s : Setting) :
    s ∈ second ↔ s ∈ first := by
  rw [hsecond, hfirst]

/-- No two prompts that are set up have one key. -/
theorem CarriesOut.promptEntries_unique (h : CarriesOut first plan) (hplan : Compatible plan) :
    ∀ e ∈ promptEntries first, ∀ f ∈ promptEntries first, e.1 = f.1 → e = f := by
  intro e he f hf hkey
  rw [mem_promptEntries, h] at he hf
  have hrivals : (Setting.prompt e.2).Rivals (Setting.prompt f.2) :=
    Setting.rivals_prompt_iff.2 ⟨he.2.1, hf.2.1, he.2.2.symm.trans (hkey.trans hf.2.2)⟩
  exact Prod.ext hkey (Setting.prompt.inj (hplan.eq_of_rivals he.1 hf.1 hrivals))

/-- No two experiments that are set up have one key. -/
theorem CarriesOut.experimentEntries_unique (h : CarriesOut first plan) (hplan : Compatible plan) :
    ∀ e ∈ experimentEntries first, ∀ f ∈ experimentEntries first, e.1 = f.1 → e = f := by
  intro e he f hf hkey
  rw [mem_experimentEntries, h] at he hf
  have hpair : (e.2.promptId, e.2.version) = (f.2.promptId, f.2.version) :=
    text_none_injective (he.2.2.symm.trans (hkey.trans hf.2.2))
  have hrivals : (Setting.experiment e.2).Rivals (Setting.experiment f.2) := Prod.mk.inj hpair
  exact Prod.ext hkey (Setting.experiment.inj (hplan.eq_of_rivals he.1 hf.1 hrivals))

/-- The prompts that were there keep their places, with the same changes; the new ones follow in some order. -/
theorem CarriesOut.prompts_start (hfirst : CarriesOut first plan) (hsecond : CarriesOut second plan)
    (hplan : Compatible plan) :
    ∃ kept new new' : Entries Prompt, (r.start first).prompts.entries = kept ++ new ∧
      (r.start second).prompts.entries = kept ++ new' ∧ new.Perm new' ∧ ∀ e ∈ new, e.1 = e.2.keyText := by
  have hmem : ∀ e, e ∈ promptEntries second ↔ e ∈ promptEntries first := by
    intro e
    rw [mem_promptEntries, mem_promptEntries, hfirst.mem_iff hsecond]
  obtain ⟨kept, new, new', hkept, hkept', hperm, hnew⟩ :=
    Entries.putAll_of_same_pairs r.prompts.nodup (hfirst.promptEntries_unique hplan) hmem
  refine ⟨kept, new, new', ?_, ?_, hperm, fun e he => (mem_promptEntries.1 (hnew e he)).2.2⟩
  · rw [(tables_start r first).1, hkept]
  · rw [(tables_start r second).1, hkept']

theorem CarriesOut.experiments_perm (hfirst : CarriesOut first plan) (hsecond : CarriesOut second plan)
    (hplan : Compatible plan) : (r.start first).experiments.entries.Perm (r.start second).experiments.entries := by
  have hmem : ∀ e, e ∈ experimentEntries second ↔ e ∈ experimentEntries first := by
    intro e
    rw [mem_experimentEntries, mem_experimentEntries, hfirst.mem_iff hsecond]
  obtain ⟨kept, new, new', hkept, hkept', hperm, -⟩ :=
    Entries.putAll_of_same_pairs r.experiments.nodup (hfirst.experimentEntries_unique hplan) hmem
  rw [(tables_start r first).2, (tables_start r second).2, hkept, hkept']
  exact hperm.append_left kept

/-! ### Versions in order -/

/-- Lists in the order of their versions are equal if they agree on each version. -/
private theorem eq_of_filter_version {ps qs : List Prompt} (hps : ps.Pairwise fun p q => p.version ≤ q.version)
    (hqs : qs.Pairwise fun p q => p.version ≤ q.version)
    (h : ∀ version, (ps.filter fun p => p.version = version) = qs.filter fun p => p.version = version) : ps = qs := by
  induction ps generalizing qs with
  | nil =>
    cases qs with
    | nil => rfl
    | cons q qs => simpa using h q.version
  | cons p ps ih =>
    cases qs with
    | nil => simpa using h p.version
    | cons q qs =>
      rw [List.pairwise_cons] at hps hqs
      -- Each head stands in the other list too, so both have the least version and are the first of it.
      have hp : p ∈ (q :: qs).filter fun q => q.version = p.version := by simp [← h]
      have hq : q ∈ (p :: ps).filter fun p => p.version = q.version := by simp [h]
      simp only [List.mem_filter, List.mem_cons, decide_eq_true_eq] at hp hq
      have hversion : p.version = q.version := by
        refine le_antisymm ?_ ?_
        · rcases hq.1 with rfl | hq
          · exact le_rfl
          · exact hps.1 q hq
        · rcases hp.1 with rfl | hp
          · exact le_rfl
          · exact hqs.1 p hp
      have hfirst := h q.version
      rw [List.filter_cons_of_pos (by simpa using hversion), List.filter_cons_of_pos (by simp)] at hfirst
      obtain ⟨rfl, -⟩ := List.cons.inj hfirst
      refine congrArg (p :: ·) (ih hps.2 hqs.2 fun version => ?_)
      have hrest := h version
      by_cases hp : p.version = version
      · rw [List.filter_cons_of_pos (by simpa using hp), List.filter_cons_of_pos (by simpa using hp)] at hrest
        exact (List.cons.inj hrest).2
      · rwa [List.filter_cons_of_neg (by simpa using hp), List.filter_cons_of_neg (by simpa using hp)] at hrest

/-- The listed versions depend on which prompt each version has without a variant. -/
theorem listVersions_congr {r r' : Registry} {id : String}
    (h : ∀ version, r.listDefaults id version = r'.listDefaults id version) :
    r.listVersions id = r'.listVersions id := by
  refine eq_of_filter_version (sorted_listVersions r id) (sorted_listVersions r' id) fun version => ?_
  rw [filter_listVersions, filter_listVersions, h]

/-! ### Answers -/

theorem CarriesOut.prompts_perm (hfirst : CarriesOut first plan) (hsecond : CarriesOut second plan)
    (hplan : Compatible plan) : (r.start first).prompts.entries.Perm (r.start second).prompts.entries := by
  obtain ⟨kept, new, new', hkept, hkept', hperm, -⟩ := hfirst.prompts_start (r := r) hsecond hplan
  rw [hkept, hkept']
  exact hperm.append_left kept

/-- Lists of prompts with different keys in different orders have the same prompt of an id and version without a
variant, since there is at most one. -/
private theorem filter_default_eq {ps qs : List Prompt} (hperm : ps.Perm qs)
    (hdistinct : ps.Pairwise fun p q => p.keyText ≠ q.keyText) (id : String) (version : Int) :
    ps.filter (fun p => p.id = id ∧ p.version = version ∧ p.variant = none) =
      qs.filter fun p => p.id = id ∧ p.version = version ∧ p.variant = none := by
  have hkey : ∀ p ∈ ps.filter fun p => p.id = id ∧ p.version = version ∧ p.variant = none,
      p.keyText = Key.text id version none :=
    fun p hp => keyText_of_default (of_decide_eq_true (List.mem_filter.1 hp).2)
  have hnone : (ps.filter fun p => p.id = id ∧ p.version = version ∧ p.variant = none).Pairwise fun _ _ => False := by
    refine (hdistinct.filter _).imp_of_mem fun hp hq hne => hne ?_
    rw [hkey _ hp, hkey _ hq]
  have hfilter := hperm.filter fun p => p.id = id ∧ p.version = version ∧ p.variant = none
  have hnone' := (hfilter.pairwise_iff (fun h => h)).1 hnone
  exact hfilter.eq_of_pairwise (fun _ _ _ _ h _ => h.elim) hnone hnone'

theorem CarriesOut.listDefaults_eq (hfirst : CarriesOut first plan) (hsecond : CarriesOut second plan)
    (hplan : Compatible plan) (id : String) (version : Int) :
    (r.start first).listDefaults id version = (r.start second).listDefaults id version := by
  obtain ⟨kept, new, new', hkept, hkept', hperm, hkeys⟩ := hfirst.prompts_start (r := r) hsecond hplan
  have hnodup : new.keys.Nodup := by
    have hall := (r.start first).prompts.nodup
    rw [hkept, Entries.keys, List.map_append] at hall
    exact (List.nodup_append.1 hall).2.1
  have hmap : new.values.map Prompt.keyText = new.keys := by
    rw [Entries.values, List.map_map]
    exact List.map_congr_left fun e he => (hkeys e he).symm
  have hdistinct : new.values.Pairwise fun p q => p.keyText ≠ q.keyText := List.pairwise_map.1 (hmap ▸ hnodup)
  have hvalues : new.values.Perm new'.values := hperm.map Prod.snd
  have hnew := filter_default_eq hvalues hdistinct id version
  have happend : ∀ t u : Entries Prompt, Entries.values (t ++ u) = t.values ++ u.values := fun _ _ => List.map_append
  rw [listDefaults, listDefaults, listAll, listAll, Table.values, Table.values, hkept, hkept', happend, happend,
    List.filter_append, List.filter_append]
  exact congrArg _ hnew

/-- Counting does not depend on the order of what is counted. -/
theorem stats_of_perm {r r' : Registry} (hall : r.listAll.Perm r'.listAll)
    (hprompts : r.prompts.length = r'.prompts.length) (hexperiments : r.experiments.length = r'.experiments.length) :
    r.stats = r'.stats := by
  by_cases hlong : ∃ p ∈ r.listAll, isLong p.version = true
  · have hlong' : ∃ p ∈ r'.listAll, isLong p.version = true := by
      obtain ⟨p, hp, hversion⟩ := hlong
      exact ⟨p, hall.mem_iff.1 hp, hversion⟩
    rw [stats_of_long hlong, stats_of_long hlong']
  · have hshort : ∀ p ∈ r.listAll, isLong p.version = false := by simpa using hlong
    have hshort' : ∀ p ∈ r'.listAll, isLong p.version = false := fun p hp => hshort p (hall.mem_iff.2 hp)
    rw [stats_of_short hshort, stats_of_short hshort', counts, counts, hprompts, hexperiments,
      (Entries.eraseDups_perm (hall.map baseText)).length_eq]

/-- Executions of a plan lead to registries that answer alike. -/
theorem sameAnswers_start (hplan : Compatible plan) (hfirst : CarriesOut first plan)
    (hsecond : CarriesOut second plan) : SameAnswers (r.start first) (r.start second) := by
  have hprompts := hfirst.prompts_perm (r := r) hsecond hplan
  have hexperiments := hfirst.experiments_perm (r := r) hsecond hplan
  have hresolve : ∀ id version variant,
      (r.start first).resolveExact id version variant = (r.start second).resolveExact id version variant := by
    intro id version variant
    exact congrArg (Except.map · _) (funext (Table.get?_of_perm hprompts))
  have hversions : ∀ id, (r.start first).listVersions id = (r.start second).listVersions id := by
    intro id
    exact listVersions_congr (hfirst.listDefaults_eq hsecond hplan id)
  have hexperiment : ∀ id version,
      (r.start first).experiment? id version = (r.start second).experiment? id version := by
    intro id version
    exact congrArg (Except.map · _) (funext (Table.get?_of_perm hexperiments))
  have hselect : ∀ id version seed,
      (r.start first).selectVariant id version seed = (r.start second).selectVariant id version seed := by
    intro id version seed
    exact selectVariant_congr (hexperiment id version) seed
  have hselected : ∀ id version, (r.start first).resolveSelected id version =
      (r.start second).resolveSelected id version := by
    intro id version
    funext variant
    cases variant with
    | none => rfl
    | some name => exact hresolve id version (some name)
  have hall : (r.start first).listAll.Perm (r.start second).listAll := hprompts.map _
  constructor
  case resolve => exact fun id version => hresolve id version none
  case resolveExact => exact hresolve
  case resolveLatest =>
    intro id
    rw [resolveLatest, resolveLatest, hversions]
  case listVersions => exact hversions
  case experiment? => exact hexperiment
  case selectVariant => exact hselect
  case resolveVariant =>
    intro id version seed
    simp only [resolveVariant, resolve, hselect, hselected, hresolve]
  case stats => exact stats_of_perm hall hprompts.length_eq hexperiments.length_eq
  case listAll => exact hall
  case listVariants => exact fun id version => hall.filter _

/-! ### The built-in prompts -/

/-- Registers the built-in prompts and their experiment a number of times. -/
def registerBuiltins : Nat → Session Registry Unit
  | 0 => return ()
  | n + 1 => do
    Catalog.register
    registerBuiltins n

/-- The experiment of the built-in prompts. -/
def siteCopyExperiment : Experiment :=
  ⟨"site_copy", 3, [("a", 80), ("b", 20)]⟩

/-- Are the built-in prompts and their experiment in a registry? -/
structure HasBuiltins (ps : List Prompt) (r : Registry) : Prop where
  prompts : ∀ p ∈ ps, r.prompts.get? p.keyText = some p
  experiment : r.experiments.get? (Key.text "site_copy" 3 none) = some siteCopyExperiment

section

variable {ps : List Prompt}

/-- No two built-in prompts have one key. -/
theorem nodup_keyText_catalog (h : Catalog.prompts = .ok ps) : (ps.map Prompt.keyText).Nodup := by
  have hkeys : ps.map Prompt.keyText = Catalog.builtinParts.map Key.Parts.text := by
    rw [← Catalog.parts_of_prompts h, List.map_map]
    rfl
  rw [hkeys]
  decide +kernel

/-- Once the built-in prompts are read, what is left is to register them and to configure their experiment. -/
theorem register_catalog_eq (h : Catalog.prompts = .ok ps) :
    Catalog.register = (registerAll ps >>= fun _ => configure "site_copy" 3 Catalog.siteCopyWeights) := by
  rw [Catalog.register, h]
  rfl

/-- Registering the built-in prompts succeeds, with these tables. -/
theorem run_register_catalog (h : Catalog.prompts = .ok ps) (s : SessionState Registry) :
    ∃ final, Session.run Catalog.register s = (.ok (), final) ∧
      final.world.prompts.entries = s.world.prompts.entries.putAll (keyed ps) ∧
      final.world.experiments = s.world.experiments.put (Key.text "site_copy" 3 none) siteCopyExperiment := by
  have hshort := Catalog.isLong_of_prompts h
  obtain ⟨registered, hregistered⟩ : ∃ registered, Session.run (registerAll ps) s = (.ok (), registered) :=
    ⟨_, Prod.ext (run_registerAll_of_short hshort s) rfl⟩
  have hprompts := prompts_run_registerAll ps s
  have hexperiments := experiments_run_registerAll ps s
  rw [hregistered, stored_eq_self hshort] at hprompts
  rw [hregistered] at hexperiments
  have hweights : Catalog.siteCopyWeights = Experiment.given siteCopyExperiment.weights := rfl
  have hconfigured : configured? "site_copy" 3 Catalog.siteCopyWeights = some siteCopyExperiment := by
    rw [hweights]
    exact configured?_given (isLong_of_lt_hundred (by decide)) _ _
  obtain ⟨hok, hworld⟩ := run_configure_of_some hconfigured registered
  obtain ⟨final, hfinal⟩ : ∃ final,
      Session.run (configure "site_copy" 3 Catalog.siteCopyWeights) registered = (.ok (), final) :=
    ⟨_, Prod.ext hok rfl⟩
  rw [hfinal] at hworld
  refine ⟨final, ?_, ?_, ?_⟩
  · rw [register_catalog_eq h, Session.run_bind_of_ok hregistered, hfinal]
  · rw [hworld]
    exact hprompts
  · rw [hworld]
    exact congrArg (Table.put · _ _) hexperiments

/-- Registering the built-in prompts leaves them in the registry; where they are already, it changes nothing. -/
theorem register_catalog (h : Catalog.prompts = .ok ps) (s : SessionState Registry) :
    ∃ final, Session.run Catalog.register s = (.ok (), final) ∧ HasBuiltins ps final.world ∧
      (HasBuiltins ps s.world → final.world = s.world) := by
  obtain ⟨final, hrun, hprompts, hexperiments⟩ := run_register_catalog h s
  have hunique : ∀ a ∈ keyed ps, ∀ b ∈ keyed ps, a.1 = b.1 → a = b := by
    have hmap : (keyed ps).map (·.1) = ps.map Prompt.keyText := by
      rw [keyed, List.map_map]
      rfl
    exact fun a ha b hb => List.inj_on_of_nodup_map (hmap ▸ nodup_keyText_catalog h) ha hb
  refine ⟨final, hrun, ⟨?_, ?_⟩, ?_⟩
  · intro p hp
    rw [Table.get?, hprompts]
    exact Entries.get?_putAll_of_mem hunique _ (e := (p.keyText, p)) (List.mem_map_of_mem hp)
  · rw [hexperiments]
    exact Entries.get?_put_self _ _ _
  · intro hs
    have hkeyed : ∀ e ∈ keyed ps, s.world.prompts.entries.get? e.1 = some e.2 := by
      intro e he
      obtain ⟨p, hp, rfl⟩ := List.mem_map.1 he
      exact hs.prompts p hp
    rw [Entries.putAll_eq_self hkeyed] at hprompts
    have hexperiment : s.world.experiments.put (Key.text "site_copy" 3 none) siteCopyExperiment =
        s.world.experiments := Table.ext (Entries.put_eq_self hs.experiment)
    exact congrArg₂ Registry.mk (Table.ext hprompts) (hexperiments.trans hexperiment)

theorem HasBuiltins.run_registerBuiltins (h : Catalog.prompts = .ok ps) (n : Nat) {s : SessionState Registry}
    (hs : HasBuiltins ps s.world) :
    (Session.run (registerBuiltins n) s).1 = .ok () ∧ (Session.run (registerBuiltins n) s).2.world = s.world := by
  induction n generalizing s with
  | zero => exact ⟨rfl, rfl⟩
  | succ n ih =>
    obtain ⟨final, hrun, hfinal, hsame⟩ := register_catalog h s
    obtain ⟨hok, hworld⟩ := ih hfinal
    rw [registerBuiltins, Session.run_bind_of_ok hrun]
    exact ⟨hok, hworld.trans (hsame hs)⟩

end

/-- From every registry, all executions of a plan without rivals lead to registries that answer alike; and registering
the built-in prompts, however often but at least once, leads to one registry, which has them all. -/
theorem start_order_irrelevant (r : Registry) :
    (∀ plan, Compatible plan → ∀ first second, CarriesOut first plan → CarriesOut second plan →
      SameAnswers (r.start first) (r.start second)) ∧
    ∃ ps r', Catalog.prompts = .ok ps ∧ HasBuiltins ps r' ∧
      ∀ n, 1 ≤ n → (Session.run (registerBuiltins n) (.start r)).1 = .ok () ∧
        (Session.run (registerBuiltins n) (.start r)).2.world = r' := by
  refine ⟨fun plan hplan first second hfirst hsecond => sameAnswers_start hplan hfirst hsecond, ?_⟩
  obtain ⟨ps, hps, -⟩ := Catalog.exists_interfaces
  obtain ⟨registered, hrun, hbuiltins, -⟩ := register_catalog hps (.start r)
  refine ⟨ps, registered.world, hps, hbuiltins, fun n hn => ?_⟩
  obtain ⟨n, rfl⟩ := Nat.exists_eq_add_of_le' hn
  rw [registerBuiltins, Session.run_bind_of_ok hrun]
  exact hbuiltins.run_registerBuiltins hps n

/-- Two prompts of one id, a variant of another prompt, and an experiment. -/
def sitePlan : List Setting :=
  [.prompt (.bare "a" 1 none), .prompt (.bare "a" 2 none), .prompt (.bare "b" 2 (some "x")),
    .experiment ⟨"a", 1, [("x", 60), ("y", 40)]⟩]

/-- A registry that has the variant already, and another experiment. -/
def occupied : Registry :=
  empty.run [.register (.bare "b" 2 (some "x")), .configure "b" 2 (Experiment.given [("x", 100)])]

/-- The plan is carried out forwards, and then backwards with the first prompt registered twice more. -/
theorem start_order_irrelevant_backwards :
    Compatible sitePlan ∧
      SameAnswers (occupied.start sitePlan)
        (occupied.start (.prompt (.bare "a" 1 none) :: sitePlan.reverse ++ [.prompt (.bare "a" 1 none)])) ∧
      (Session.run (registerBuiltins 3) (.start occupied)).2.world =
        (Session.run (registerBuiltins 1) (.start occupied)).2.world := by
  have hplan : Compatible sitePlan := by decide +kernel
  have hbackwards :
      CarriesOut (.prompt (.bare "a" 1 none) :: sitePlan.reverse ++ [.prompt (.bare "a" 1 none)]) sitePlan := by
    intro s
    simp only [sitePlan, List.cons_append, List.mem_cons, List.mem_append, List.mem_reverse, List.not_mem_nil,
      or_false]
    tauto
  obtain ⟨hanswers, -, r', -, -, htimes⟩ := start_order_irrelevant occupied
  exact ⟨hplan, hanswers sitePlan hplan _ _ (fun s => Iff.rfl) hbackwards,
    (htimes 3 (by omega)).2.trans (htimes 1 le_rfl).2.symm⟩

end Promptbook.Registry
