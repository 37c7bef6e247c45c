import Promptbook.Proofs.Registry.Configuring

/-!
# How an experiment splits the buckets

The variants of an experiment take the buckets in order.  After the first `i` variants all buckets below
`reach weights i` are taken, the greatest of zero and the cumulative weights so far; a negative weight takes nothing
back.  A variant takes the buckets between two such bounds, and the last one takes all that are left (`Takes`).
`pick_eq_some_iff` says that the loop over the weights picks by this rule, `card_owned` counts the buckets of a
variant, and `exact_split` states both for a registry in which the experiment is configured.
-/

namespace Promptbook

namespace Experiment

/-- The least bucket that the first variants leave. -/
def reach (weights : List Int) : Nat → Int
  | 0 => 0
  | i + 1 => max (reach weights i) (weights.take (i + 1)).sum

/-- Does the variant at a place take a bucket? -/
def Takes (weights : List Int) (i : Nat) (bucket : Int) : Prop :=
  (reach weights i ≤ bucket ∧ bucket < reach weights (i + 1)) ∨
    (i + 1 = weights.length ∧ reach weights weights.length ≤ bucket)

instance (weights : List Int) (i : Nat) (bucket : Int) : Decidable (Takes weights i bucket) :=
  inferInstanceAs (Decidable ((reach weights i ≤ bucket ∧ bucket < reach weights (i + 1)) ∨
    (i + 1 = weights.length ∧ reach weights weights.length ≤ bucket)))

/-- How many buckets the first variants take. -/
def covered (weights : List Int) (i : Nat) : Int :=
  min (bucketCount : Int) (reach weights i)

/-- The buckets in which a variant is picked. -/
def owned (e : Experiment) (name : String) : Finset Nat :=
  (Finset.range bucketCount).filter fun bucket => e.pick bucket = some name

/-! ### Bounds -/

theorem reach_le_iff {weights : List Int} {i : Nat} {bucket : Int} :
    reach weights i ≤ bucket ↔ 0 ≤ bucket ∧ ∀ j < i, (weights.take (j + 1)).sum ≤ bucket := by
  induction i with
  | zero => simp [reach]
  | succ i ih => rw [reach, max_le_iff, ih, Nat.forall_lt_succ_right, and_assoc]

theorem reach_nonneg (weights : List Int) (i : Nat) : 0 ≤ reach weights i :=
  (reach_le_iff.1 le_rfl).1

theorem reach_le_succ (weights : List Int) (i : Nat) : reach weights i ≤ reach weights (i + 1) :=
  le_max_left _ _

/-- The bounds of weights that are not negative are their cumulative sums. -/
theorem reach_eq_sum {weights : List Int} (h : ∀ w ∈ weights, 0 ≤ w) (i : Nat) :
    reach weights i = (weights.take i).sum := by
  induction i with
  | zero => rfl
  | succ i ih =>
    rw [reach, ih]
    apply max_eq_right
    rw [List.take_add_one, List.sum_append]
    have : 0 ≤ (weights[i]?.toList).sum := by
      apply List.sum_nonneg
      intro w hw
      rw [Option.mem_toList] at hw
      exact h w (List.mem_of_getElem? hw)
    omega

/-! ### What the loop picks -/

/-- The loop always picks one of the variants. -/
theorem exists_pickFrom {weights : Entries Int} (h : weights ≠ []) (taken bucket : Int) :
    ∃ i, ∃ hi : i < weights.length, pickFrom taken bucket weights = some weights[i].1 := by
  induction weights generalizing taken with
  | nil => exact absurd rfl h
  | cons w weights ih =>
    cases weights with
    | nil => exact ⟨0, by simp, rfl⟩
    | cons next rest =>
      rw [pickFrom]
      split
      · exact ⟨0, by simp, rfl⟩
      · obtain ⟨i, hi, hpick⟩ := ih (by simp) (taken + w.2)
        exact ⟨i + 1, by simpa using hi, hpick⟩

/-- Among variants with different names, the loop picks the first one whose weight, with those before it, goes beyond
the bucket, and the last one if there is none. -/
theorem pickFrom_eq_some_iff {weights : Entries Int} (hkeys : weights.keys.Nodup) (taken bucket : Int) {i : Nat}
    (hi : i < weights.length) :
    pickFrom taken bucket weights = some weights[i].1 ↔
      (∀ j < i, taken + (weights.values.take (j + 1)).sum ≤ bucket) ∧
        (bucket < taken + (weights.values.take (i + 1)).sum ∨ i + 1 = weights.length) := by
  induction weights generalizing taken i with
  | nil => simp at hi
  | cons w weights ih =>
    rw [Entries.keys, List.map_cons, List.nodup_cons] at hkeys
    have hother : ∀ k, ∀ hk : k < weights.length, weights[k].1 ≠ w.1 := by
      intro k hk heq
      exact hkeys.1 (heq ▸ List.mem_map_of_mem (List.getElem_mem hk))
    cases weights with
    | nil =>
      have hzero : i = 0 := by simpa using hi
      subst hzero
      simp [pickFrom]
    | cons next rest =>
      have hhead : taken + ((Entries.values (w :: next :: rest)).take 1).sum = taken + w.2 := by
        simp [Entries.values]
      have hshift : ∀ k, taken + ((Entries.values (w :: next :: rest)).take (k + 1)).sum =
          taken + w.2 + ((Entries.values (next :: rest)).take k).sum := by
        intro k
        rw [Entries.values, Entries.values, List.map_cons, List.take_succ_cons, List.sum_cons, Int.add_assoc]
      rw [pickFrom]
      cases i with
      | zero =>
        rw [hhead]
        by_cases hlt : bucket < taken + w.2
        · simp [hlt]
        · -- a later variant is picked, which has another name
          obtain ⟨k, hk, hpick⟩ := exists_pickFrom (List.cons_ne_nil next rest) (taken + w.2) bucket
          simp [hlt, hpick, hother k hk]
      | succ i =>
        have hi' : i < (next :: rest).length := by simpa using hi
        have hname : (w :: next :: rest)[i + 1].1 = (next :: rest)[i].1 := rfl
        rw [hname]
        by_cases hlt : bucket < taken + w.2
        · have hfirst : ¬∀ j < i + 1, taken + ((Entries.values (w :: next :: rest)).take (j + 1)).sum ≤ bucket := by
            intro hall
            have := hall 0 (Nat.succ_pos i)
            rw [Nat.zero_add, hhead] at this
            omega
          simp only [if_pos hlt, Option.some.injEq, hfirst, false_and, iff_false]
          exact Ne.symm (hother i hi')
        · rw [if_neg hlt, ih hkeys.2 (taken + w.2) hi']
          simp only [hshift]
          constructor
          · rintro ⟨hbefore, hend⟩
            refine ⟨?_, ?_⟩
            · intro j hj
              cases j with
              | zero => simpa using hlt
              | succ j => exact hbefore j (by omega)
            · simpa using hend
          · rintro ⟨hbefore, hend⟩
            exact ⟨fun j hj => hbefore (j + 1) (by omega), by simpa using hend⟩

/-- A variant is picked in the buckets that it takes. -/
theorem pick_eq_some_iff {e : Experiment} (hkeys : e.weights.keys.Nodup) (bucket : Nat) {i : Nat}
    (hi : i < e.weights.length) :
    e.pick bucket = some e.weights[i].1 ↔ Takes e.weights.values i bucket := by
  have hlength : e.weights.values.length = e.weights.length := List.length_map _
  have hbefore : (∀ j < i, (0 : Int) + (e.weights.values.take (j + 1)).sum ≤ bucket) ↔
      reach e.weights.values i ≤ bucket := by
    simp [reach_le_iff]
  rw [pick, pickFrom_eq_some_iff hkeys 0 bucket hi, hbefore, Takes, hlength, reach, Int.zero_add]
  constructor
  · rintro ⟨hle, hlt | hlast⟩
    · exact .inl ⟨hle, lt_max_of_lt_right hlt⟩
    · by_cases hlt : (bucket : Int) < (e.weights.values.take (i + 1)).sum
      · exact .inl ⟨hle, lt_max_of_lt_right hlt⟩
      · refine .inr ⟨hlast, ?_⟩
        rw [← hlast, reach]
        exact max_le hle (not_lt.1 hlt)
  · rintro (⟨hle, hlt⟩ | ⟨hlast, hle⟩)
    · exact ⟨hle, .inl ((lt_max_iff.1 hlt).resolve_left (not_lt.2 hle))⟩
    · rw [← hlast, reach] at hle
      exact ⟨(le_max_left _ _).trans hle, .inr hlast⟩

/-! ### How many buckets a variant has -/

/-- The number of buckets between two bounds. -/
private theorem card_between {low high : Int} (hlow : 0 ≤ low) (hhigh : low ≤ high) :
    (((Finset.range bucketCount).filter fun bucket : Nat => low ≤ bucket ∧ (bucket : Int) < high).card : Int) =
      min (bucketCount : Int) high - min (bucketCount : Int) low := by
  have heq : ((Finset.range bucketCount).filter fun bucket : Nat => low ≤ bucket ∧ (bucket : Int) < high) =
      Finset.Ico (min (bucketCount : Int) low).toNat (min (bucketCount : Int) high).toNat := by
    ext bucket
    simp only [Finset.mem_filter, Finset.mem_range, Finset.mem_Ico]
    omega
  rw [heq, Nat.card_Ico]
  omega

/-- A variant has the buckets between its two bounds, and the last one also those that are left. -/
theorem card_owned {e : Experiment} (hkeys : e.weights.keys.Nodup) {i : Nat} (hi : i < e.weights.length) :
    ((e.owned e.weights[i].1).card : Int) =
      covered e.weights.values (i + 1) - covered e.weights.values i +
        if i + 1 = e.weights.length then bucketCount - covered e.weights.values e.weights.length else 0 := by
  have hlength : e.weights.values.length = e.weights.length := List.length_map _
  have hlow := reach_nonneg e.weights.values i
  have hstep := reach_le_succ e.weights.values i
  simp only [owned, pick_eq_some_iff hkeys _ hi, Takes, covered, hlength]
  by_cases hlast : i + 1 = e.weights.length
  · have hall : ∀ bucket ∈ Finset.range bucketCount,
        ((reach e.weights.values i ≤ bucket ∧ (bucket : Int) < reach e.weights.values (i + 1)) ∨
          (i + 1 = e.weights.length ∧ reach e.weights.values e.weights.length ≤ bucket)) ↔
        reach e.weights.values i ≤ bucket ∧
        (bucket : Int) < max (bucketCount : Int) (reach e.weights.values (i + 1)) := by
      intro bucket hbucket
      rw [Finset.mem_range] at hbucket
      rw [← hlast]
      omega
    rw [Finset.filter_congr hall, card_between hlow (hstep.trans (le_max_right _ _)), if_pos hlast, ← hlast]
    omega
  · simp only [hlast, false_and, or_false, if_false]
    rw [card_between hlow hstep, Int.add_zero]

/-- If no weight is negative and the weights sum to the number of buckets, every variant has as many buckets as its
weight says. -/
theorem card_owned_of_full {e : Experiment} (hkeys : e.weights.keys.Nodup)
    (hweights : ∀ weight ∈ e.weights.values, 0 ≤ weight) (hsum : e.weights.values.sum = bucketCount) {i : Nat}
    (hi : i < e.weights.length) : ((e.owned e.weights[i].1).card : Int) = e.weights[i].2 := by
  have hlength : e.weights.values.length = e.weights.length := List.length_map _
  have hle : ∀ k, (e.weights.values.take k).sum ≤ bucketCount := by
    intro k
    have hrest : 0 ≤ (e.weights.values.drop k).sum := List.sum_nonneg fun w hw => hweights w (List.mem_of_mem_drop hw)
    have := List.sum_take_add_sum_drop e.weights.values k
    omega
  have hnext : (e.weights.values.take (i + 1)).sum = (e.weights.values.take i).sum + e.weights[i].2 := by
    rw [List.sum_take_succ _ _ (by rwa [hlength])]
    simp [Entries.values]
  have hcovered : ∀ k, covered e.weights.values k = (e.weights.values.take k).sum := by
    intro k
    rw [covered, reach_eq_sum hweights, min_eq_right (hle k)]
  rw [card_owned hkeys hi, hcovered, hcovered, hcovered, ← hlength, List.take_length, hsum, sub_self, ite_self, hnext]
  omega

end Experiment

namespace Registry

open Experiment Promptbook.Number

/-- An experiment that is set is found. -/
theorem experiment?_withExperiment {version : Int} (h : isLong version = false) (r : Registry) (id : String)
    (e : Experiment) :
    (r.withExperiment (Key.text id version none) e).experiment? id version = .ok (some e) := by
  rw [experiment?_of_short h]
  exact congrArg Except.ok (Entries.get?_put_self _ _ _)

/-- An experiment with integer weights that is configured is the one found afterwards. -/
theorem configure_experiment? {e : Experiment} (h : isLong e.version = false) (s : SessionState Registry) :
    let final := Session.run (configure e.promptId e.version (given e.weights)) s
    final.1 = .ok () ∧ final.2.world.experiment? e.promptId e.version = .ok (some e) := by
  obtain ⟨hok, hworld⟩ := run_configure_of_some (configured?_given h e.promptId e.weights) s
  refine ⟨hok, ?_⟩
  rw [hworld]
  exact experiment?_withExperiment h _ _ _

/-- An experiment that is found has a version that fits in a key. -/
theorem isLong_of_experiment? {r : Registry} {id : String} {version : Int} {e : Option Experiment}
    (h : r.experiment? id version = .ok e) : isLong version = false := by
  cases hlong : isLong version with
  | false => rfl
  | true =>
    rw [experiment?_of_long hlong] at h
    cases h

/-- A seed is given the variant that the experiment picks for its bucket. -/
theorem selectVariant_of_experiment {r : Registry} {id seed : String} {version : Int} {e : Experiment} {bucket : Nat}
    (hfound : r.experiment? id version = .ok (some e)) (hbucket : bucketFor seed id version = .ok bucket) :
    r.selectVariant id version seed = .ok (e.pick bucket) := by
  rw [selectVariant, hfound, hbucket]
  rfl

/-- Any integer weights can be configured for a version that fits in a key.  Where they are, every seed has a bucket
and is given the variant that takes it, exactly one of them.  Over all buckets a variant owns those between its two
bounds, the last one also what is left; weights that are not negative and sum to the number of buckets are owned
exactly. -/
theorem exact_split (e : Experiment) (hvariants : e.weights ≠ []) (hkeys : e.weights.keys.Nodup) :
    (isLong e.version = false → ∀ s : SessionState Registry,
      let final := Session.run (configure e.promptId e.version (given e.weights)) s
      final.1 = .ok () ∧ final.2.world.experiment? e.promptId e.version = .ok (some e)) ∧
    (∀ r : Registry, r.experiment? e.promptId e.version = .ok (some e) → ∀ seed,
      ∃ bucket, bucketFor seed e.promptId e.version = .ok bucket ∧ bucket < bucketCount ∧
      (∃ i, ∃ hi : i < e.weights.length,
        r.selectVariant e.promptId e.version seed = .ok (some e.weights[i].1)) ∧
      ∀ i, ∀ hi : i < e.weights.length,
        r.selectVariant e.promptId e.version seed = .ok (some e.weights[i].1) ↔
          Takes e.weights.values i bucket) ∧
    (∀ i, ∀ hi : i < e.weights.length, ((e.owned e.weights[i].1).card : Int) =
      covered e.weights.values (i + 1) - covered e.weights.values i +
        if i + 1 = e.weights.length then bucketCount - covered e.weights.values e.weights.length else 0) ∧
    ((∀ weight ∈ e.weights.values, 0 ≤ weight) → e.weights.values.sum = bucketCount →
      ∀ i, ∀ hi : i < e.weights.length, ((e.owned e.weights[i].1).card : Int) = e.weights[i].2) := by
  refine ⟨configure_experiment?, ?_, fun i hi => card_owned hkeys hi,
    fun hweights hsum i hi => card_owned_of_full hkeys hweights hsum hi⟩
  intro r hfound seed
  have hbucket := bucketFor_of_short (isLong_of_experiment? hfound) seed e.promptId
  refine ⟨_, hbucket, bucketUnder_lt _ _, ?_⟩
  simp only [selectVariant_of_experiment hfound hbucket, Except.ok.injEq]
  exact ⟨exists_pickFrom hvariants _ _, fun i hi => pick_eq_some_iff hkeys _ hi⟩

/-- An experiment with weights that sum to the number of buckets, one of them zero. -/
def fullTrial : Experiment := ⟨"site_copy", 3, [("a", 80), ("b", 0), ("c", 20)]⟩

/-- An experiment with a negative weight, a zero weight and a sum beyond the number of buckets. -/
def crookedTrial : Experiment := ⟨"site_copy", 3, [("a", -5), ("b", 30), ("c", 0), ("d", 90)]⟩

/-- A seed of bucket 81 is given the last variant of the full trial, which owns twenty buckets; in the crooked trial
the negative weight costs the second variant five of its buckets. -/
theorem exact_split_trials :
    (empty.withExperiment (Key.text "site_copy" 3 none) fullTrial).selectVariant "site_copy" 3 "org-1" =
        .ok (some "c") ∧
      (fullTrial.owned "c").card = 20 ∧ (crookedTrial.owned "b").card = 25 := by
  obtain ⟨-, hselect, -, hfull⟩ := exact_split fullTrial (by decide) (by decide)
  obtain ⟨-, -, hcrooked, -⟩ := exact_split crookedTrial (by decide) (by decide)
  have hshort : isLong 3 = false := isLong_of_lt_hundred (by decide)
  have hfound : (empty.withExperiment (Key.text "site_copy" 3 none) fullTrial).experiment? "site_copy" 3 =
      .ok (some fullTrial) := experiment?_withExperiment hshort _ _ _
  obtain ⟨bucket, hbucket, -, -, hpicked⟩ := hselect _ hfound "org-1"
  have hplace : bucketUnder "org-1" (Key.text "site_copy" 3 none) = bucket :=
    Except.ok.inj ((bucketFor_of_short hshort _ _).symm.trans hbucket)
  have htakes : Takes fullTrial.weights.values 2 (bucketUnder "org-1" (Key.text "site_copy" 3 none)) := by
    decide +kernel
  have hthird : ((fullTrial.owned "c").card : Int) = 20 := hfull (by decide) (by decide) 2 (by decide)
  have hsecond : ((crookedTrial.owned "b").card : Int) = 25 := hcrooked 1 (by decide)
  refine ⟨(hpicked 2 (by decide)).2 ?_, by exact_mod_cast hthird, by exact_mod_cast hsecond⟩
  rw [← hplace]
  exact htakes

end Registry
end Promptbook
