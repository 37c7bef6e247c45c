import Mathlib
import Promptbook.Proofs.Entries
import Promptbook.Proofs.Render.Outcome

/-!
# Undeclared placeholders

Dropping unresolved placeholders changes a filled template exactly if there are any (`fill_drop_eq_iff`).  So the list
of undeclared placeholders tells in advance whether a prompt depends on that option (`undeclaredPlaceholders_exact`):
if the list is empty, every placeholder is resolved whatever the inputs are, and if it is not, the listed names stay
visible in the rendered texts unless they are dropped or supplied.
-/

namespace Promptbook

open Promptbook.Template

/-! ### Dropping unresolved placeholders -/

namespace Template

variable {template : String} {value? : String → Option String}

theorem fill_drop_of_resolved (h : ∀ name ∈ names template, value? name ≠ none) :
    fill template value? true = fill template value? false := by
  obtain ⟨s, hs⟩ := Cut.exists_of template
  rw [hs.names_eq] at h
  rw [hs.fill_eq, hs.fill_eq]
  refine Cut.text_congr fun name hname => ?_
  obtain ⟨value, hvalue⟩ := Option.ne_none_iff_exists'.1 (h name hname)
  rw [standIn, standIn, hvalue, Option.getD_some, Option.getD_some]

/-- A placeholder without a value stays in the text, and dropping it makes the text shorter. -/
theorem fill_of_unresolved {name : String} (hname : name ∈ names template) (hvalue : value? name = none) :
    Mentions (fill template value? false) name ∧
      (fill template value? true).length < (fill template value? false).length := by
  obtain ⟨s, hs⟩ := Cut.exists_of template
  rw [hs.names_eq] at hname
  have hdrop : ∀ other, (standIn value? true other).length ≤ (standIn value? false other).length := by
    intro other
    rw [standIn, standIn]
    cases value? other with
    | some value => exact Nat.le_refl _
    | none => exact Nat.zero_le _
  obtain ⟨before, after, rfl⟩ := Cut.exists_join_of_mem hname
  have hkept : standIn value? false name = mention name := by rw [standIn, hvalue]; rfl
  have hdropped : standIn value? true name = "" := by rw [standIn, hvalue]; rfl
  rw [hs.fill_eq, hs.fill_eq, Cut.text_join, Cut.text_join, hkept, hdropped]
  refine ⟨⟨hs.isName name hname, ?_⟩, ?_⟩
  · rw [String.toList_append, String.toList_append]
    exact List.infix_append _ _ _
  · have hbefore := before.length_text_le hdrop
    have hafter := after.length_text_le hdrop
    have hpos := length_mention_pos name
    simp only [String.length_append, String.length_empty]
    omega

/-- Dropping unresolved placeholders changes nothing exactly if all placeholders have a value. -/
theorem fill_drop_eq_iff :
    fill template value? true = fill template value? false ↔ ∀ name ∈ names template, value? name ≠ none := by
  refine ⟨fun heq name hname hvalue => ?_, fill_drop_of_resolved⟩
  have hlt := (fill_of_unresolved hname hvalue).2
  rw [heq] at hlt
  exact Nat.lt_irrefl _ hlt

end Template

/-! ### The list of undeclared placeholders -/

/-- Those of a list that are kept, without repetitions, stand in the order in which they first come in the list. -/
private theorem pairwise_idxOf_eraseDups (l : List String) (keep : String → Bool) :
    (l.filter keep).eraseDups.Pairwise fun a b => l.idxOf a < l.idxOf b := by
  induction l using List.reverseRecOn with
  | nil => exact List.Pairwise.nil
  | append_singleton l b ih =>
    have hold : ∀ a ∈ (l.filter keep).eraseDups, a ∈ l := fun a ha =>
      (List.mem_filter.1 (List.mem_eraseDups.1 ha)).1
    have hpos : ∀ a ∈ l, (l ++ [b]).idxOf a = l.idxOf a := fun a ha => by rw [List.idxOf_append, if_pos ha]
    have ih' : (l.filter keep).eraseDups.Pairwise fun a b' => (l ++ [b]).idxOf a < (l ++ [b]).idxOf b' :=
      ih.imp_of_mem fun {a c} ha hc hlt => by rwa [hpos a (hold a ha), hpos c (hold c hc)]
    rw [List.filter_append]
    by_cases hkeep : keep b = true
    · rw [List.filter_cons_of_pos hkeep, List.filter_nil, Entries.eraseDups_concat]
      split
      · exact ih'
      · next hnew =>
        have hb : b ∉ l := fun hmem => hnew (List.mem_filter.2 ⟨hmem, hkeep⟩)
        refine List.pairwise_append.2 ⟨ih', List.pairwise_singleton _ _, ?_⟩
        intro a ha c hc
        obtain rfl := List.mem_singleton.1 hc
        rw [hpos a (hold a ha), List.idxOf_append, if_neg hb]
        have := List.idxOf_lt_length_of_mem (hold a ha)
        omega
    · rw [List.filter_cons_of_neg hkeep, List.filter_nil, List.append_nil]
      exact ih'

namespace Render

variable {p : Prompt}

theorem mem_undeclaredPlaceholders_iff {name : String} :
    name ∈ p.undeclaredPlaceholders ↔ name ∈ p.usedPlaceholders ∧ name ∉ p.inputs.declared := by
  rw [Prompt.undeclaredPlaceholders, List.mem_eraseDups, List.mem_filter, Prompt.usedPlaceholders]
  simp

theorem render_strip_of_resolved {safe : Bool} {inputs : Inputs}
    (h : ∀ name ∈ p.usedPlaceholders, replacement? p ⟨safe, false⟩ inputs name ≠ none) :
    p.render ⟨safe, true⟩ inputs = p.render ⟨safe, false⟩ inputs := by
  have hsame : replacement? p ⟨safe, true⟩ inputs = replacement? p ⟨safe, false⟩ inputs := rfl
  have hsystem := fill_drop_of_resolved fun name hname => h name (List.mem_append_left _ hname)
  have huser := fill_drop_of_resolved fun name hname => h name (List.mem_append_right _ hname)
  simp only [Prompt.render, hsame, hsystem, huser]

/-- The undeclared placeholders are listed once each, in the order of their first use.  Without any, rendering does
not depend on whether unresolved placeholders are dropped.  With some, and with inputs that supply none of them, it
does, and each of them stays visible if it is not dropped. -/
theorem undeclaredPlaceholders_exact (p : Prompt) :
    p.undeclaredPlaceholders.Nodup ∧
      (p.undeclaredPlaceholders.Pairwise fun a b => p.usedPlaceholders.idxOf a < p.usedPlaceholders.idxOf b) ∧
      (∀ name, name ∈ p.undeclaredPlaceholders ↔ name ∈ p.usedPlaceholders ∧ name ∉ p.inputs.declared) ∧
      (p.undeclaredPlaceholders = [] → ∀ (safe : Bool) (inputs : Inputs),
        p.render ⟨safe, true⟩ inputs = p.render ⟨safe, false⟩ inputs ∧
          ∀ strip, ∀ name ∈ p.usedPlaceholders, ∃ value, replacement? p ⟨safe, strip⟩ inputs name = some value) ∧
      (p.undeclaredPlaceholders ≠ [] → ∀ (safe : Bool) (inputs : Inputs),
        (∀ name ∈ p.inputs.required, ¬ Lacking inputs name) →
        (∀ name ∈ p.undeclaredPlaceholders, inputs.has name = false) →
          ∃ kept dropped, p.render ⟨safe, false⟩ inputs = .ok kept ∧ p.render ⟨safe, true⟩ inputs = .ok dropped ∧
            (kept.system ≠ dropped.system ∨ kept.user ≠ dropped.user) ∧
            ∀ name ∈ p.undeclaredPlaceholders, Mentions kept.system name ∨ Mentions kept.user name) := by
  refine ⟨Entries.nodup_eraseDups _, pairwise_idxOf_eraseDups _ _, fun name => mem_undeclaredPlaceholders_iff, ?_, ?_⟩
  · intro hempty safe inputs
    have hresolved : ∀ strip, ∀ name ∈ p.usedPlaceholders, replacement? p ⟨safe, strip⟩ inputs name ≠ none := by
      intro strip name hname hnone
      have hlisted := mem_undeclaredPlaceholders_iff.2 ⟨hname, (replacement?_eq_none_iff.1 hnone).2⟩
      rw [hempty] at hlisted
      cases hlisted
    exact ⟨render_strip_of_resolved (hresolved false), fun strip name hname =>
      Option.ne_none_iff_exists'.1 (hresolved strip name hname)⟩
  · intro hsome safe inputs hcomplete hunsupplied
    refine ⟨_, _, render_of_not_lacking hcomplete _, render_of_not_lacking hcomplete _, ?_⟩
    have hnone : ∀ name ∈ p.undeclaredPlaceholders, replacement? p ⟨safe, false⟩ inputs name = none := by
      intro name hname
      refine replacement?_eq_none_iff.2 ⟨?_, (mem_undeclaredPlaceholders_iff.1 hname).2⟩
      simpa [Entries.has] using hunsupplied name hname
    -- a listed name is used by one of the templates, and that text tells the two renderings apart
    have hvisible : ∀ name ∈ p.undeclaredPlaceholders, name ∈ names p.system ∨ name ∈ names p.user :=
      fun name hname => List.mem_append.1 (mem_undeclaredPlaceholders_iff.1 hname).1
    constructor
    · obtain ⟨name, hname⟩ := List.exists_mem_of_ne_nil _ hsome
      rcases hvisible name hname with hin | hin
      · exact .inl fun heq => fill_drop_eq_iff.1 heq.symm name hin (hnone name hname)
      · exact .inr fun heq => fill_drop_eq_iff.1 heq.symm name hin (hnone name hname)
    · intro name hname
      rcases hvisible name hname with hin | hin
      · exact .inl (fill_of_unresolved hin (hnone name hname)).1
      · exact .inr (fill_of_unresolved hin (hnone name hname)).1

end Render
end Promptbook
