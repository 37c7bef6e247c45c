import Promptbook.Proofs.Metadata.Writing

/-!
# Two ways to write a list

A list stands in brackets behind its key, or below its key with one element on a line.  In brackets the elements are
cut apart at commas outside quotes, and on lines they are found behind their dashes, but what is found is the same
texts (`parse_bracketed`, `parse_bulleted`).  So it makes no difference how a list is written, also if one of its
elements is refused (`parse_bulleted_eq_bracketed`).
-/

namespace Promptbook.Metadata

open Promptbook.Text

/-! ### One entry -/

/-- A text with the lines of one entry is read as this entry. -/
theorem parse_section {s : Section} (hs : s.IsWritable) {lines : List (List Char)} (hlines : s.HasLines lines) :
    parse (unlines lines) = s.entry.map fun entry => [(s.key, entry)] := by
  have honeLine : ∀ line ∈ lines, OneLine line := fun line hline => (hs.of_mem hlines hline).2.2
  have hgather := gather_section hs hlines []
  rw [List.append_nil] at hgather
  have hsections : sections lines = [s] := by
    rw [sections, hgather, show gather [] = ([], []) from rfl, List.append_nil]
  rw [parse_unlines honeLine, readLines, hsections, readSections]
  cases s.entry <;> rfl

variable {key : String} {es : List (List Char)}

theorem parse_bracketed (hkey : IsName key.toList) (h : ∀ e ∈ es, IsElement e) :
    parse (keyLine key.toList (bracketed es)) =
      (es.mapM parseScalar).map fun items => [(key, .item (.list items))] := by
  have hs : Section.IsWritable ⟨key, bracketed es, []⟩ := ⟨hkey, .bracketed fun e he => (h e he).oneLine, by simp⟩
  have hread := parse_section hs ⟨[], by simp, rfl, rfl⟩
  rw [Section.entry_value (bracketed_ne_nil es), parseItem_bracketed h] at hread
  refine hread.trans ?_
  cases es.mapM parseScalar <;> rfl

theorem parse_bulleted (hkey : IsName key.toList) {rows : List (List Char × List Char)} (hne : rows ≠ [])
    (h : ∀ r ∈ rows, IsIndent r.1 ∧ r.2 ≠ [] ∧ IsValue r.2) :
    parse (unlines (keyLine key.toList [] :: rows.map fun r => r.1 ++ bulleted r.2)) =
      ((rows.map (·.2)).mapM parseScalar).map fun items => [(key, .item (.list items))] := by
  have hs : Section.IsWritable ⟨key, [], (rows.map (·.2)).map bulleted⟩ := by
    refine ⟨hkey, .nil, fun child hchild => ?_⟩
    obtain ⟨e, he, rfl⟩ := List.mem_map.1 hchild
    obtain ⟨r, hr, rfl⟩ := List.mem_map.1 he
    exact .bulleted (h r hr).2.1 (h r hr).2.2
  have hlines : Section.HasLines ⟨key, [], (rows.map (·.2)).map bulleted⟩
      (keyLine key.toList [] :: rows.map fun r => r.1 ++ bulleted r.2) := by
    refine ⟨rows.map fun r => (r.1, bulleted r.2), ?_, ?_, ?_⟩
    · intro q hq
      obtain ⟨r, hr, rfl⟩ := List.mem_map.1 hq
      exact (h r hr).1
    · simp [Function.comp_def]
    · simp [Function.comp_def]
  have hbare : ∀ e ∈ rows.map (·.2), Bare isBlank e := by
    intro e he
    obtain ⟨r, hr, rfl⟩ := List.mem_map.1 he
    exact (h r hr).2.2.bare
  have hread := parse_section hs hlines
  rw [entry_of_bulleted (by simpa using hne) hbare] at hread
  refine hread.trans ?_
  cases (rows.map (·.2)).mapM parseScalar <;> rfl

/-- A list of elements is read the same from lines below its key, however each of them is indented, and from brackets
behind its key: as the scalars of the elements. -/
theorem parse_bulleted_eq_bracketed (hkey : IsName key.toList) {rows : List (List Char × List Char)} (hne : rows ≠ [])
    (h : ∀ r ∈ rows, IsIndent r.1 ∧ IsElement r.2) :
    parse (unlines (keyLine key.toList [] :: rows.map fun r => r.1 ++ bulleted r.2)) =
      parse (keyLine key.toList (bracketed (rows.map (·.2)))) ∧
    parse (keyLine key.toList (bracketed (rows.map (·.2)))) =
      ((rows.map (·.2)).mapM parseScalar).map fun items => [(key, .item (.list items))] := by
  have helements : ∀ e ∈ rows.map (·.2), IsElement e := by
    intro e he
    obtain ⟨r, hr, rfl⟩ := List.mem_map.1 he
    exact (h r hr).2
  have hbracketed := parse_bracketed hkey helements
  have hbulleted := parse_bulleted hkey hne fun r hr => ⟨(h r hr).1, (h r hr).2.ne_nil, (h r hr).2.isValue⟩
  exact ⟨hbulleted.trans hbracketed.symm, hbracketed⟩

/-- Elements that look like comments, arrays and numbers, some of them with commas in quotes. -/
theorem parse_bulleted_eq_bracketed_mixed :
    parse "models:\n  - \"a, b\"\n\t- # 'c,d'\n - [x]\n  - -07\n    - null".toList =
        parse "models: [\"a, b\", # 'c,d', [x], -07, null]".toList ∧
      parse "models: [\"a, b\", # 'c,d', [x], -07, null]".toList =
        .ok [("models", .item (.list [.text "a, b", .text "# 'c,d'", .text "[x]", .int (-7), .null]))] := by
  have hkey : IsName "models".toList := by
    decide
  have hrows : ∀ r ∈ [("  ".toList, "\"a, b\"".toList), ("\t".toList, "# 'c,d'".toList), (" ".toList, "[x]".toList),
      ("  ".toList, "-07".toList), ("    ".toList, "null".toList)], IsIndent r.1 ∧ IsElement r.2 := by
    decide
  have hread := parse_bulleted_eq_bracketed hkey (List.cons_ne_nil _ _) hrows
  refine ⟨hread.1, hread.2.trans ?_⟩
  cbv

end Promptbook.Metadata
