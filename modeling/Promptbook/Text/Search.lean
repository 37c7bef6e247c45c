/-!
# Search in text

`holds mark` says whether a text has a mark somewhere in it; `holds_iff`: exactly if the text is the mark with
something before and after it.
-/

namespace Promptbook.Text

/-- Does the text hold the mark? -/
def holds (mark : List Char) : List Char → Bool
  | [] => mark.isEmpty
  | c :: rest => mark.isPrefixOf (c :: rest) || holds mark rest

theorem holds_iff (mark cs : List Char) :
    holds mark cs = true ↔ ∃ before after, cs = before ++ mark ++ after := by
  induction cs with
  | nil =>
    simp only [holds, List.isEmpty_iff]
    constructor
    · rintro rfl
      exact ⟨[], [], rfl⟩
    · rintro ⟨before, after, h⟩
      have := (List.append_eq_nil_iff.1 h.symm).1
      exact (List.append_eq_nil_iff.1 this).2
  | cons c rest ih =>
    simp only [holds, Bool.or_eq_true, List.isPrefixOf_iff_prefix, ih]
    constructor
    · rintro (⟨after, h⟩ | ⟨before, after, rfl⟩)
      · exact ⟨[], after, by simpa using h.symm⟩
      · exact ⟨c :: before, after, by simp⟩
    · rintro ⟨before, after, h⟩
      cases before with
      | nil => exact .inl ⟨after, by simpa using h.symm⟩
      | cons b before =>
        simp only [List.cons_append, List.cons.injEq] at h
        exact .inr ⟨before, after, h.2⟩

end Promptbook.Text
