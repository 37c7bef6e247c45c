import Promptbook.Proofs.Registry.Split

/-!
# Ramping an experiment

Weights that are shifted to the front move callers to the front only.  The loop over the weights stops at the first
cumulative weight beyond the bucket, so with cumulative weights that are no smaller it stops no later
(`place_le_of_sums`), also where negative weights let the sums fall and where the last variant takes what is left.  A
variant in front keeps its callers as long as its own weight does not fall, whatever becomes of the others
(`pickFrom_first`).  `ramp_monotone` states both for two registries in which the tables are configured.
-/

namespace Promptbook

namespace Experiment

variable {before after : Entries Int}

/-- With cumulative weights that are no smaller, the loop picks no later variant. -/
theorem place_le_of_sums (hdistinct : before.keys.Nodup) (hnames : after.keys = before.keys)
    (hsums : ∀ n, (before.values.take n).sum ≤ (after.values.take n).sum) {taken bucket : Int} {i j : Nat}
    (hi : i < after.length) (hj : j < before.length) (hafter : pickFrom taken bucket after = some after[i].1)
    (hbefore : pickFrom taken bucket before = some before[j].1) : i ≤ j := by
  have hlength : after.length = before.length := by
    simpa [Entries.keys] using congrArg List.length hnames
  rw [pickFrom_eq_some_iff (hnames ▸ hdistinct) taken bucket hi] at hafter
  rw [pickFrom_eq_some_iff hdistinct taken bucket hj] at hbefore
  by_contra hlater
  -- the loop over the new weights has passed the place at which the old ones stopped
  have hpassed : taken + (after.values.take (j + 1)).sum ≤ bucket := hafter.1 j (by omega)
  have hold := hsums (j + 1)
  rcases hbefore.2 with hstop | hlast <;> omega

/-- The first variant is picked in the buckets below its weight, and in all of them if it is alone. -/
theorem pickFrom_first {name : String} {weight : Int} {rest : Entries Int} (hname : name ∉ rest.keys)
    (taken bucket : Int) :
    pickFrom taken bucket ((name, weight) :: rest) = some name ↔ bucket < taken + weight ∨ rest = [] := by
  cases rest with
  | nil => simp [pickFrom]
  | cons next rest =>
    rw [pickFrom]
    by_cases hlt : bucket < taken + weight
    · simp [hlt]
    · obtain ⟨k, hk, hpick⟩ := exists_pickFrom (List.cons_ne_nil next rest) (taken + weight) bucket
      have hother : (next :: rest)[k].1 ≠ name := fun h => hname (h ▸ List.mem_map_of_mem (List.getElem_mem hk))
      simp [hlt, hpick, hother]

end Experiment

namespace Registry

open Experiment Promptbook.Number

/-- Two weight tables have the same variants in the same order.  If no cumulative weight falls from the first to the
second, every seed is given a variant at the same place or further in front; and if just the weight of the variant in
front does not fall, no seed leaves this variant. -/
theorem ramp_monotone (id : String) (version : Int) {before after : Entries Int} (hvariants : before ≠ [])
    (hdistinct : before.keys.Nodup) (hnames : after.keys = before.keys) {r r' : Registry}
    (hbefore : r.experiment? id version = .ok (some ⟨id, version, before⟩))
    (hafter : r'.experiment? id version = .ok (some ⟨id, version, after⟩)) (seed : String) :
    ((∀ n, (before.values.take n).sum ≤ (after.values.take n).sum) →
      ∃ i j, i ≤ j ∧ j < before.length ∧ r'.selectVariant id version seed = .ok before.keys[i]? ∧
        r.selectVariant id version seed = .ok before.keys[j]?) ∧
    ∀ name weight weight', before.head? = some (name, weight) → after.head? = some (name, weight') →
      weight ≤ weight' → r.selectVariant id version seed = .ok (some name) →
        r'.selectVariant id version seed = .ok (some name) := by
  have hlength : after.length = before.length := by
    simpa [Entries.keys] using congrArg List.length hnames
  have hvariants' : after ≠ [] := by
    intro hnil
    rw [hnil, List.length_nil] at hlength
    exact hvariants (List.length_eq_zero_iff.1 hlength.symm)
  have hbucket := bucketFor_of_short (isLong_of_experiment? hbefore) seed id
  rw [selectVariant_of_experiment hbefore hbucket, selectVariant_of_experiment hafter hbucket]
  simp only [pick, Except.ok.injEq]
  constructor
  · intro hsums
    obtain ⟨i, hi, hpick'⟩ := exists_pickFrom hvariants' 0 (bucketUnder seed (Key.text id version none))
    obtain ⟨j, hj, hpick⟩ := exists_pickFrom hvariants 0 (bucketUnder seed (Key.text id version none))
    refine ⟨i, j, place_le_of_sums hdistinct hnames hsums hi hj hpick' hpick, hj, ?_, ?_⟩
    · rw [hpick', ← hnames, Entries.keys, List.getElem?_map, List.getElem?_eq_getElem hi, Option.map_some]
    · rw [hpick, Entries.keys, List.getElem?_map, List.getElem?_eq_getElem hj, Option.map_some]
  · intro name weight weight' hhead hhead' hle hfirst
    obtain ⟨rest, rfl⟩ := List.head?_eq_some_iff.1 hhead
    obtain ⟨rest', rfl⟩ := List.head?_eq_some_iff.1 hhead'
    have hrest : Entries.keys rest' = Entries.keys rest := (List.cons.inj hnames).2
    have hname : name ∉ Entries.keys rest := (List.nodup_cons.1 hdistinct).1
    rw [pickFrom_first hname] at hfirst
    rw [pickFrom_first (hrest ▸ hname)]
    refine hfirst.imp (fun hlt => by omega) fun halone => ?_
    rw [halone] at hrest
    exact List.map_eq_nil_iff.1 hrest

/-- Weights before a ramp. -/
def trialBefore : Entries Int := [("a", 50), ("b", 20), ("c", 30)]

/-- Weights after it: the first two variants are given more, and the last one takes what a negative weight leaves. -/
def trialAfter : Entries Int := [("a", 70), ("b", 40), ("c", -10)]

/-- A seed of bucket 81 moves to the front, and one of bucket 45 stays with the first variant. -/
theorem ramp_monotone_trial :
    let r := empty.withExperiment (Key.text "site_copy" 3 none) ⟨"site_copy", 3, trialBefore⟩
    let r' := empty.withExperiment (Key.text "site_copy" 3 none) ⟨"site_copy", 3, trialAfter⟩
    (∃ i j, i ≤ j ∧ j < 3 ∧ r'.selectVariant "site_copy" 3 "org-1" = .ok ["a", "b", "c"][i]? ∧
      r.selectVariant "site_copy" 3 "org-1" = .ok ["a", "b", "c"][j]?) ∧
    r.selectVariant "site_copy" 3 "org-9" = .ok (some "a") ∧
      r'.selectVariant "site_copy" 3 "org-9" = .ok (some "a") := by
  intro r r'
  have hshort : isLong 3 = false := isLong_of_lt_hundred (by decide)
  have hbefore := experiment?_withExperiment hshort empty "site_copy" ⟨"site_copy", 3, trialBefore⟩
  have hafter := experiment?_withExperiment hshort empty "site_copy" ⟨"site_copy", 3, trialAfter⟩
  have hramp := ramp_monotone "site_copy" 3 (by decide) (by decide) (by rfl) hbefore hafter
  have hsums : ∀ n, (trialBefore.values.take n).sum ≤ (trialAfter.values.take n).sum := by
    intro n
    rcases n with _ | _ | _ | n <;> simp [trialBefore, trialAfter, Entries.values]
  have hfirst : r.selectVariant "site_copy" 3 "org-9" = .ok (some "a") := by
    rw [selectVariant_of_experiment hbefore (bucketFor_of_short hshort _ _)]
    exact congrArg Except.ok (by decide +kernel)
  exact ⟨(hramp "org-1").1 hsums, hfirst, (hramp "org-9").2 "a" 50 70 rfl rfl (by decide) hfirst⟩

end Registry
end Promptbook
