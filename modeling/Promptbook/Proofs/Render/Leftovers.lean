import Mathlib
import Promptbook.Proofs.Entries
import Promptbook.Proofs.Render.Cuts

/-!
# Placeholders that come about by filling

A template is filled in one scan, so what stands around a placeholder can join into a new one when the placeholder is
dropped or replaced.  If no value holds an opening brace, this is the only way in which a filled template can hold a
placeholder (`Cut.mentions_text_iff`): it starts in a literal text before a placeholder and goes on in what follows.
So dropping the unresolved placeholders leaves none behind exactly if nothing joins (`leftovers_iff`), and it does if
no literal text before a placeholder breaks off inside one.  That it can join is shown by `leftover_of_nested`.
-/

namespace Promptbook.Template

namespace Cut

theorem literals_ne_nil (s : Cut) : s.literals ≠ [] :=
  List.cons_ne_nil _ _

/-- The literal text at the end. -/
def last (s : Cut) : String :=
  s.literals.getLast s.literals_ne_nil

/-- A placeholder comes about at the place of another one: a part of it, not empty, ends the literal text before that
place, and the other part starts what follows. -/
def Joins (s : Cut) (put : String → String) (name : String) : Prop :=
  IsName name ∧ ∃ (before : Cut) (hole : String) (after : Cut) (front back : List Char),
    s = before.join hole after ∧ (mention name).toList = front ++ back ∧ front ≠ [] ∧
      front <:+ before.last.toList ∧ back <+: (put hole ++ after.text put).toList

end Cut

/-- Some end of a text starts a placeholder. -/
def BreaksOff (text : String) : Prop :=
  ∃ name front, IsName name ∧ front ≠ [] ∧ front <:+ text.toList ∧ front <+: (mention name).toList

namespace Cut

variable {s : Cut} {put : String → String} {name : String}

theorem last_join (s : Cut) (name : String) (t : Cut) : (s.join name t).last = t.last := by
  simp only [last, literals_join]
  exact List.getLast_append_of_ne_nil _ t.literals_ne_nil

/-- A text ends with the literal text at its end. -/
theorem last_suffix_text (s : Cut) (put : String → String) : s.last.toList <:+ (s.text put).toList := by
  induction s using Cut.induction with
  | literal l =>
    rw [text_literal]
    exact List.suffix_rfl
  | placeholder l name s ih =>
    rw [last_join, text_join, String.toList_append]
    exact ih.trans (List.suffix_append _ _)

theorem join_assoc (s : Cut) (name : String) (t : Cut) (other : String) (u : Cut) :
    s.join name (t.join other u) = (s.join name t).join other u := by
  simp [join]

theorem Joins.join (h : s.Joins put name) (t : Cut) (other : String) : (t.join other s).Joins put name := by
  obtain ⟨hname, before, hole, after, front, back, rfl, hsplit, hne, hfront, hback⟩ := h
  refine ⟨hname, t.join other before, hole, after, front, back, join_assoc _ _ _ _ _, hsplit, hne, ?_, hback⟩
  rwa [last_join]

/-- A placeholder that joins stands in the text. -/
theorem Joins.mentions (h : s.Joins put name) : Mentions (s.text put) name := by
  obtain ⟨hname, before, hole, after, front, back, rfl, hsplit, -, hfront, hback⟩ := h
  refine ⟨hname, ?_⟩
  rw [text_join, String.append_assoc, String.toList_append, hsplit]
  exact List.infix_append_iff.2
    (.inr (.inr ⟨front, back, rfl, hfront.trans (before.last_suffix_text put), hback⟩))

/-- A placeholder does not start in a text without opening braces. -/
private theorem infix_of_braceless {u v : List Char} (hu : '\x7b' ∉ u) (h : (mention name).toList <:+: u ++ v) :
    (mention name).toList <:+: v := by
  have hopen : '\x7b' ∈ (mention name).toList := by
    rw [toList_mention]
    exact List.mem_cons_self
  rcases List.infix_append_iff.1 h with hin | hin | ⟨front, back, hsplit, hfront, hback⟩
  · exact absurd (hin.subset hopen) hu
  · exact hin
  · cases front with
    | nil =>
      rw [hsplit]
      exact hback.isInfix
    | cons c front =>
      rw [toList_mention, List.cons_append, List.cons.injEq] at hsplit
      refine absurd (hfront.subset ?_) hu
      rw [hsplit.1]
      exact List.mem_cons_self

/-- With values without opening braces, the placeholders in the text are those that join. -/
theorem mentions_text_iff {template : String} (h : s.Of template)
    (hput : ∀ hole ∈ s.names, '\x7b' ∉ (put hole).toList) : Mentions (s.text put) name ↔ s.Joins put name := by
  refine ⟨?_, Joins.mentions⟩
  rintro ⟨hname, hin⟩
  induction s using Cut.induction generalizing template with
  | literal l => exact absurd ⟨hname, by rwa [text_literal] at hin⟩ (h.plain l List.mem_cons_self name)
  | placeholder l hole s ih =>
    rw [names_join] at hput
    have hlater : (mention name).toList <:+: (put hole ++ s.text put).toList →
        (join ⟨l, []⟩ hole s).Joins put name := by
      intro hin
      rw [String.toList_append] at hin
      have hrest := infix_of_braceless (hput hole (List.mem_append_right _ List.mem_cons_self)) hin
      have hput' : ∀ other ∈ s.names, '\x7b' ∉ (put other).toList :=
        fun other hother => hput other (List.mem_append_right _ (List.mem_cons_of_mem _ hother))
      exact (ih h.right hput' hrest).join ⟨l, []⟩ hole
    rw [text_join, text_literal, String.append_assoc, String.toList_append] at hin
    rcases List.infix_append_iff.1 hin with hin | hin | ⟨front, back, hsplit, hfront, hback⟩
    · exact absurd ⟨hname, hin⟩ (h.plain l List.mem_cons_self name)
    · exact hlater hin
    · cases front with
      | nil =>
        refine hlater ?_
        rw [hsplit]
        exact hback.isInfix
      | cons c front => exact ⟨hname, ⟨l, []⟩, hole, s, c :: front, back, rfl, hsplit, by simp, hfront, hback⟩

/-- What joins starts in a literal text that breaks off inside a placeholder. -/
theorem Joins.exists_breaksOff (h : s.Joins put name) : ∃ literal ∈ s.literals.dropLast, BreaksOff literal := by
  obtain ⟨hname, before, hole, after, front, back, rfl, hsplit, hne, hfront, -⟩ := h
  refine ⟨before.last, ?_, name, front, hname, hne, hfront, hsplit ▸ List.prefix_append _ _⟩
  rw [literals_join, List.dropLast_append_of_ne_nil after.literals_ne_nil]
  exact List.mem_append_left _ (List.getLast_mem _)

end Cut

/-- A template whose unresolved placeholders are dropped, filled with values without opening braces, holds no
placeholder exactly if none joins from what stands around the old ones.  In particular it holds none if no literal
text before a placeholder breaks off inside one. -/
theorem leftovers_iff (template : String) {value? : String → Option String}
    (hvalues : ∀ name value, value? name = some value → '\x7b' ∉ value.toList) :
    ∃ s : Cut, s.Of template ∧
      (names (fill template value? true) = [] ↔ ∀ name, ¬ s.Joins (standIn value? true) name) ∧
      ((∀ literal ∈ s.literals.dropLast, ¬ BreaksOff literal) → names (fill template value? true) = []) := by
  obtain ⟨s, hs⟩ := Cut.exists_of template
  have hput : ∀ hole ∈ s.names, '\x7b' ∉ (standIn value? true hole).toList := by
    intro hole _
    rw [standIn]
    cases hvalue : value? hole with
    | some value => exact hvalues hole value hvalue
    | none => simp
  have hjoins : names (fill template value? true) = [] ↔ ∀ name, ¬ s.Joins (standIn value? true) name := by
    rw [List.eq_nil_iff_forall_not_mem, hs.fill_eq]
    exact forall_congr' fun name => not_congr (mem_names_iff.trans (Cut.mentions_text_iff hs hput))
  refine ⟨s, hs, hjoins, fun hwhole => hjoins.2 fun name hjoin => ?_⟩
  obtain ⟨literal, hliteral, hbreaks⟩ := hjoin.exists_breaksOff
  exact hwhole literal hliteral hbreaks

/-- The template `{{{a}}{b}}`, whose only placeholder stands between an opening brace and `{b}}`. -/
def nestedTemplate : String :=
  "\x7b" ++ mention "a" ++ "\x7bb\x7d\x7d"

theorem leftovers_iff_nested :
    (∀ name value, Entries.get? [("a", "x")] name = some value → '\x7b' ∉ value.toList) ∧
      ∃ s : Cut, s.Of nestedTemplate ∧
        (names (fill nestedTemplate (Entries.get? [("a", "x")]) true) = [] ↔
          ∀ name, ¬ s.Joins (standIn (Entries.get? [("a", "x")]) true) name) ∧
        ((∀ literal ∈ s.literals.dropLast, ¬ BreaksOff literal) →
          names (fill nestedTemplate (Entries.get? [("a", "x")]) true) = []) := by
  have hvalues : ∀ name value, Entries.get? [("a", "x")] name = some value → '\x7b' ∉ value.toList := by
    intro name value h
    obtain rfl := List.mem_singleton.1 (Entries.mem_values_of_get? h)
    decide
  exact ⟨hvalues, leftovers_iff nestedTemplate hvalues⟩

/-- Dropping the placeholder of this template joins the texts around it into another one. -/
theorem leftover_of_nested :
    (∀ name value, Entries.get? ([] : Entries String) name = some value →
      '\x7b' ∉ value.toList ∧ '\x7d' ∉ value.toList) ∧
      names (fill nestedTemplate (Entries.get? []) true) = ["b"] :=
  ⟨fun _ _ h => (nomatch h), by decide +kernel⟩

end Promptbook.Template
