import Promptbook.Proofs.Registry.Isolation

/-!
# Listings, lookups and counts agree

A registry is `Sound` if every prompt is stored under its own key.  Every action keeps this (`Sound.perform`), so
every run does.  In a sound registry the listings, which go by the parts of the prompts, agree with the lookups and
counts, which go by the keys: `listings_agree`.
-/

namespace Promptbook.Registry

open Promptbook.Number

/-- Every prompt of a registry stands under its own key. -/
def Sound (r : Registry) : Prop :=
  ∀ e ∈ r.prompts.entries, e.2.key = .ok e.1

/-! ### What is done to a registry keeps it sound -/

theorem sound_empty : Sound empty :=
  List.forall_mem_nil _

variable {r : Registry}

theorem Sound.withPrompt (h : r.Sound) {key : String} {p : Prompt} (hkey : p.key = .ok key) :
    (r.withPrompt key p).Sound := by
  intro e he
  rcases Entries.mem_put he with he | rfl
  · exact h e he
  · exact hkey

theorem Sound.registerAll {s : SessionState Registry} (h : s.world.Sound) (ps : List Prompt) :
    (Session.run (Registry.registerAll ps) s).2.world.Sound := by
  induction ps generalizing s with
  | nil => exact h
  | cons p ps ih =>
    rw [Registry.registerAll, Session.run_bind]
    cases hlong : isLong p.version with
    | true =>
      rw [run_register_of_long hlong]
      exact h
    | false =>
      rw [run_register_of_short hlong]
      exact ih (h.withPrompt (Prompt.key_of_short hlong))

theorem Sound.perform (h : r.Sound) (action : Action) : (r.perform action).1.Sound := by
  cases action with
  | register p =>
    rw [perform_register]
    exact Sound.registerAll (s := .start r) h [p]
  | registerAll ps => exact Sound.registerAll (s := .start r) h ps
  | configure id version weights =>
    rw [Sound, prompts_perform_configure]
    exact h
  | clear => exact sound_empty

theorem Sound.run (h : r.Sound) (actions : List Action) : (r.run actions).Sound := by
  induction actions generalizing r with
  | nil => exact h
  | cons action actions ih => exact ih (h.perform action)

/-! ### Lookups -/

theorem Sound.isLong_of_mem (h : r.Sound) {p : Prompt} (hp : p ∈ r.listAll) : isLong p.version = false := by
  obtain ⟨e, he, rfl⟩ := List.mem_map.1 hp
  exact (Key.build_eq_ok_iff.1 (h e he)).1

/-- Every listed prompt has a place of its own. -/
theorem Sound.pairwise_keyText (h : r.Sound) : r.listAll.Pairwise fun p q => p.keyText ≠ q.keyText := by
  have hkeys : r.listAll.map Prompt.keyText = r.prompts.entries.keys := by
    rw [listAll, Table.values, Entries.values, List.map_map, Entries.keys]
    exact List.map_congr_left fun e he => (Key.build_eq_ok_iff.1 (h e he)).2.symm
  exact List.pairwise_map.1 (hkeys ▸ r.prompts.nodup)

/-- Every listed prompt is found under its identity. -/
theorem Sound.resolveExact_of_mem (h : r.Sound) {p : Prompt} (hp : p ∈ r.listAll) :
    r.resolveExact p.id p.version p.variant = .ok (some p) := by
  obtain ⟨e, he, rfl⟩ := List.mem_map.1 hp
  rw [resolveExact, ← Prompt.key, h e he]
  exact congrArg Except.ok (Entries.get?_of_mem r.prompts.nodup he)

/-! ### Versions -/

theorem mem_listVersions {id : String} {p : Prompt} :
    p ∈ r.listVersions id ↔ p ∈ r.listAll ∧ p.id = id ∧ p.variant = none := by
  simp [listVersions]

/-- The prompts of an id and version without a variant. -/
def listDefaults (r : Registry) (id : String) (version : Int) : List Prompt :=
  r.listAll.filter fun p => p.id = id ∧ p.version = version ∧ p.variant = none

private theorem version_le_trans (p q s : Prompt) (hpq : decide (p.version ≤ q.version) = true)
    (hqs : decide (q.version ≤ s.version) = true) : decide (p.version ≤ s.version) = true :=
  decide_eq_true (le_trans (of_decide_eq_true hpq) (of_decide_eq_true hqs))

private theorem version_le_total (p q : Prompt) :
    (decide (p.version ≤ q.version) || decide (q.version ≤ p.version)) = true := by
  simpa using le_total p.version q.version

theorem sorted_listVersions (r : Registry) (id : String) :
    (r.listVersions id).Pairwise fun p q => p.version ≤ q.version :=
  (List.pairwise_mergeSort version_le_trans version_le_total _).imp of_decide_eq_true

/-- Putting prompts in the order of their versions keeps the order of those with one version. -/
theorem filter_listVersions (r : Registry) (id : String) (version : Int) :
    ((r.listVersions id).filter fun p => p.version = version) = r.listDefaults id version := by
  have hdefaults : r.listDefaults id version =
      (r.listAll.filter fun p => p.id == id && p.variant.isNone).filter fun p => p.version = version := by
    rw [List.filter_filter, listDefaults]
    refine List.filter_congr fun p _ => ?_
    rw [Bool.eq_iff_iff]
    simp [and_left_comm]
  have hsorted : (r.listDefaults id version).Pairwise fun p q => decide (p.version ≤ q.version) := by
    refine List.pairwise_of_forall_mem_list fun p hp q hq => ?_
    simp only [listDefaults, List.mem_filter, decide_eq_true_eq] at hp hq
    simp [hp.2.2.1, hq.2.2.1]
  have hsublist : (r.listDefaults id version).Sublist (r.listVersions id) :=
    List.sublist_mergeSort version_le_trans version_le_total hsorted (hdefaults ▸ List.filter_sublist)
  -- The sort is stable, so what is in order already is a part of its result, and there is nothing else of this
  -- version.
  have hall : ((r.listDefaults id version).filter fun p => p.version = version) = r.listDefaults id version := by
    rw [hdefaults, List.filter_filter]
    simp
  have hfilter := hsublist.filter fun p => p.version = version
  rw [hall] at hfilter
  have hlength : ((r.listVersions id).filter fun p => p.version = version).length =
      (r.listDefaults id version).length := by
    rw [hdefaults]
    exact ((List.mergeSort_perm _ _).filter _).length_eq
  exact (hfilter.eq_of_length hlength.symm).symm

/-- The listed versions increase, since two prompts of one id and version without a variant have one key. -/
theorem Sound.pairwise_listVersions (h : r.Sound) (id : String) :
    (r.listVersions id).Pairwise fun p q => p.version < q.version := by
  have hdistinct : (r.listVersions id).Pairwise fun p q => p.keyText ≠ q.keyText := by
    rw [listVersions, (List.mergeSort_perm _ _).pairwise_iff Ne.symm]
    exact h.pairwise_keyText.filter _
  refine ((sorted_listVersions r id).and hdistinct).imp_of_mem ?_
  rintro p q hp hq ⟨hle, hkey⟩
  obtain ⟨-, hpid, hpvariant⟩ := mem_listVersions.1 hp
  obtain ⟨-, hqid, hqvariant⟩ := mem_listVersions.1 hq
  refine lt_of_le_of_ne hle fun heq => hkey ?_
  rw [Prompt.keyText, Prompt.keyText, hpid, hqid, hpvariant, hqvariant, heq]

/-- Where versions increase, the search for the latest one ends at the last. -/
private theorem foldl_laterOf {ps : List Prompt} {best : Prompt}
    (h : (best :: ps).Pairwise fun p q => p.version < q.version) :
    ps.foldl laterOf (some best) = (best :: ps).getLast? := by
  induction ps generalizing best with
  | nil => rfl
  | cons p ps ih =>
    rw [List.pairwise_cons] at h
    have hlater : laterOf (some best) p = some p := if_pos (h.1 p List.mem_cons_self)
    rw [List.foldl_cons, hlater, ih h.2, List.getLast?_cons_cons]

theorem Sound.resolveLatest_eq (h : r.Sound) (id : String) : r.resolveLatest id = (r.listVersions id).getLast? := by
  have hincreasing := h.pairwise_listVersions id
  rw [resolveLatest]
  cases hversions : r.listVersions id with
  | nil => rfl
  | cons p ps =>
    rw [hversions] at hincreasing
    exact foldl_laterOf hincreasing

/-! ### Variants -/

theorem mem_listVariants {id : String} {version : Int} {p : Prompt} :
    p ∈ r.listVariants id version ↔ p ∈ r.listAll ∧ p.id = id ∧ p.version = version ∧ p.variant ≠ none := by
  simp [listVariants, Option.isSome_iff_ne_none, and_assoc]

/-- Different prompts listed for one id and version are different variants. -/
theorem Sound.pairwise_listVariants (h : r.Sound) (id : String) (version : Int) :
    (r.listVariants id version).Pairwise fun p q => p.variant ≠ q.variant := by
  refine (h.pairwise_keyText.filter _).imp_of_mem ?_
  intro p q hp hq hkey hvariant
  obtain ⟨-, hpid, hpversion, -⟩ := mem_listVariants.1 hp
  obtain ⟨-, hqid, hqversion, -⟩ := mem_listVariants.1 hq
  rw [Prompt.keyText, Prompt.keyText, hpid, hqid, hpversion, hqversion, hvariant] at hkey
  exact hkey rfl

theorem Sound.existsUnique_listVariants (h : r.Sound) {p : Prompt} (hp : p ∈ r.listAll)
    (hvariant : p.variant ≠ none) : ∃! i : Nat, (r.listVariants p.id p.version)[i]? = some p := by
  have hnodup : (r.listVariants p.id p.version).Nodup :=
    (h.pairwise_listVariants p.id p.version).imp fun hne heq => hne (congrArg Prompt.variant heq)
  obtain ⟨i, hi, hp⟩ := List.getElem_of_mem (mem_listVariants.2 ⟨hp, rfl, rfl, hvariant⟩)
  have hget : (r.listVariants p.id p.version)[i]? = some p := by rw [List.getElem?_eq_getElem hi, hp]
  exact ⟨i, hget, fun j hj => ((List.getElem?_inj hi hnodup).1 (hget.trans hj.symm)).symm⟩

/-! ### Counts -/

/-- The different ids and versions of the registered prompts. -/
def bases (r : Registry) : List (String × Int) :=
  (r.listAll.map fun p => (p.id, p.version)).eraseDups

theorem keyText_of_default {p : Prompt} {id : String} {version : Int}
    (h : p.id = id ∧ p.version = version ∧ p.variant = none) : p.keyText = Key.text id version none := by
  obtain ⟨rfl, rfl, hvariant⟩ := h
  rw [Prompt.keyText, hvariant]

theorem Sound.length_listDefaults (h : r.Sound) (id : String) (version : Int) :
    (r.listDefaults id version).length ≤ 1 := by
  have hdistinct := h.pairwise_keyText.filter fun p => p.id = id ∧ p.version = version ∧ p.variant = none
  rw [← listDefaults] at hdistinct
  have hkey : ∀ p ∈ r.listDefaults id version, p.keyText = Key.text id version none :=
    fun p hp => keyText_of_default (of_decide_eq_true (List.mem_filter.1 hp).2)
  cases hlist : r.listDefaults id version with
  | nil => simp
  | cons p ps =>
    cases ps with
    | nil => simp
    | cons q ps =>
      rw [hlist] at hdistinct hkey
      have hne := List.rel_of_pairwise_cons hdistinct (List.mem_cons_self (a := q))
      exact absurd ((hkey p (by simp)).trans (hkey q (by simp)).symm) hne

/-- The prompts of an id and version are those without a variant and the variants. -/
theorem count_bases (r : Registry) (id : String) (version : Int) :
    (r.listAll.map fun p => (p.id, p.version)).count (id, version) =
      (r.listDefaults id version).length + (r.listVariants id version).length := by
  have hdefaults : r.listDefaults id version =
      r.listAll.filter fun p => (p.id, p.version) == (id, version) && p.variant.isNone := by
    refine List.filter_congr fun p _ => ?_
    rw [Bool.eq_iff_iff]
    simp [and_assoc]
  have hvariants : r.listVariants id version =
      r.listAll.filter fun p => (p.id, p.version) == (id, version) && !p.variant.isNone := by
    refine List.filter_congr fun p _ => ?_
    rw [Bool.eq_iff_iff]
    simp [Option.isSome_iff_ne_none]
  rw [List.count, List.countP_map, List.countP_eq_countP_filter_add _ _ fun p => p.variant.isNone, List.countP_filter,
    List.countP_filter, List.countP_eq_length_filter, List.countP_eq_length_filter, hdefaults, hvariants]
  rfl

theorem totalPrompts_eq (r : Registry) :
    r.counts.totalPrompts =
      (r.bases.map fun b => (r.listDefaults b.1 b.2).length + (r.listVariants b.1 b.2).length).sum := by
  have hlength : r.counts.totalPrompts = (r.listAll.map fun p => (p.id, p.version)).length := by
    rw [List.length_map]
    exact (List.length_map _).symm
  rw [hlength, ← Entries.sum_count_eraseDups, bases]
  exact congrArg List.sum (List.map_congr_left fun b _ => count_bases r b.1 b.2)

theorem uniqueIds_eq (r : Registry) : r.counts.uniqueIds = r.bases.length := by
  rw [bases, ← Entries.length_eraseDups_map text_none_injective, List.map_map]
  rfl

/-! ### All readings together -/

/-- The versions listed for an id are in order, they are the prompts of the id without a variant, each of them is
found, and the latest is the last. -/
structure VersionsAgree (r : Registry) (id : String) : Prop where
  increasing : (r.listVersions id).Pairwise fun p q => p.version < q.version
  mem_iff : ∀ p, p ∈ r.listVersions id ↔ p ∈ r.listAll ∧ p.id = id ∧ p.variant = none
  found : ∀ p ∈ r.listVersions id, r.resolve id p.version = .ok (some p)
  latest : r.resolveLatest id = (r.listVersions id).getLast?

/-- The variants listed for an id and version are different, every prompt with a variant is among those listed for its
id and version, once, and is found. -/
structure VariantsAgree (r : Registry) : Prop where
  distinct : ∀ id version, (r.listVariants id version).Pairwise fun p q => p.variant ≠ q.variant
  once : ∀ p ∈ r.listAll, p.variant ≠ none → ∃! i : Nat, (r.listVariants p.id p.version)[i]? = some p
  found : ∀ p ∈ r.listAll, p.variant ≠ none → r.resolveExact p.id p.version p.variant = .ok (some p)

/-- All prompts are counted, by id and version the one without a variant, if there is one, and the variants; and so
are the ids and versions. -/
structure CountsAgree (r : Registry) (stats : Stats) : Prop where
  total : stats.totalPrompts =
    (r.bases.map fun b => (r.listDefaults b.1 b.2).length + (r.listVariants b.1 b.2).length).sum
  default_le_one : ∀ id version, (r.listDefaults id version).length ≤ 1
  unique : stats.uniqueIds = r.bases.length

/-- After every run the listings, the lookups and the counts of a registry agree. -/
theorem listings_agree (actions : List Action) :
    (∀ id, (empty.run actions).VersionsAgree id) ∧ (empty.run actions).VariantsAgree ∧
      ∃ stats, (empty.run actions).stats = .ok stats ∧ (empty.run actions).CountsAgree stats := by
  have hsound : (empty.run actions).Sound := sound_empty.run actions
  refine ⟨?_, ?_, ?_⟩
  · intro id
    refine ⟨hsound.pairwise_listVersions id, fun p => mem_listVersions, ?_, hsound.resolveLatest_eq id⟩
    intro p hp
    obtain ⟨hall, rfl, hvariant⟩ := mem_listVersions.1 hp
    have hfound := hsound.resolveExact_of_mem hall
    rwa [hvariant] at hfound
  · exact ⟨hsound.pairwise_listVariants, fun p => hsound.existsUnique_listVariants,
      fun p hp _ => hsound.resolveExact_of_mem hp⟩
  · exact ⟨_, stats_of_short fun _ => hsound.isLong_of_mem, totalPrompts_eq _, hsound.length_listDefaults,
      uniqueIds_eq _⟩

/-- A run in which a prompt takes the place of a variant of another id, since the two have one key. -/
def crossed : List Action :=
  [.register (.bare "a" 10 none), .registerAll [.bare "a" 2 none, .bare "a" 1 (some "b@2"), .bare "a@1:b" 2 none],
    .register (.bare "a" 2 (some "x"))]

/-- The prompt that was replaced is neither listed nor counted any more, nor is its version. -/
theorem listings_agree_crossed :
    (empty.run crossed).bases = [("a", 10), ("a", 2), ("a@1:b", 2)] ∧
      (∃ stats, (empty.run crossed).stats = .ok stats ∧ stats.uniqueIds = 3 ∧ stats.totalPrompts = 4) ∧
      (empty.run crossed).resolveLatest "a" = ((empty.run crossed).listVersions "a").getLast? := by
  obtain ⟨hversions, -, stats, hstats, hcounts⟩ := listings_agree crossed
  have hbases : (empty.run crossed).bases = [("a", 10), ("a", 2), ("a@1:b", 2)] := by decide +kernel
  refine ⟨hbases, ⟨stats, hstats, ?_, ?_⟩, (hversions "a").latest⟩
  · rw [hcounts.unique, hbases]
    rfl
  · rw [hcounts.total]
    decide +kernel

end Promptbook.Registry
