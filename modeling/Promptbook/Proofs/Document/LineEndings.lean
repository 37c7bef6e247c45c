import Promptbook.Proofs.Document.Headings
import Promptbook.Proofs.Document.Outcomes

/-!
# Line endings

Any line feeds of a document may be written with a carriage return before them (`withReturns`): the document is read
in the same way, since these are dropped first.  The templates of a body are cut out as they are, so if all of its
line feeds are written so, the templates are the same up to their line endings, and the same sections are missing
(`line_endings_indifferent`).  A heading may end with the carriage return, and stripping goes through the change
(`strip_crlf`).
-/

namespace Promptbook.Document

open Promptbook.Text

variable {cs line body : List Char} {lines : List (List Char)}

/-! ### Carriage returns before line feeds -/

/-- The text with a carriage return before each of the chosen line feeds, which are counted from zero. -/
def withReturns : (Nat → Bool) → List Char → List Char
  | _, [] => []
  | chosen, c :: cs =>
    if c = '\n' then
      (if chosen 0 then ['\r', '\n'] else ['\n']) ++ withReturns (fun n => chosen (n + 1)) cs
    else
      c :: withReturns chosen cs

/-- The text with a carriage return before each line feed. -/
def crlf (cs : List Char) : List Char :=
  withReturns (fun _ => true) cs

theorem crlf_newline (cs : List Char) : crlf ('\n' :: cs) = ['\r', '\n'] ++ crlf cs := by
  rw [crlf, withReturns, if_pos rfl, if_pos rfl, crlf]

theorem crlf_cons {c : Char} (hc : c ≠ '\n') (cs : List Char) : crlf (c :: cs) = c :: crlf cs := by
  rw [crlf, withReturns, if_neg hc, crlf]

theorem crlf_append (cs ds : List Char) : crlf (cs ++ ds) = crlf cs ++ crlf ds := by
  induction cs with
  | nil => rfl
  | cons c cs ih =>
    by_cases hc : c = '\n'
    · rw [hc, List.cons_append, crlf_newline, crlf_newline, ih, List.append_assoc]
    · rw [List.cons_append, crlf_cons hc, crlf_cons hc, ih, List.cons_append]

theorem crlf_eq_self (h : '\n' ∉ cs) : crlf cs = cs := by
  induction cs with
  | nil => rfl
  | cons c cs ih =>
    rw [List.mem_cons, not_or] at h
    rw [crlf_cons (Ne.symm h.1), ih h.2]

/-- The carriage returns that were written before line feeds are dropped again. -/
theorem unifyNewlines_withReturns (chosen : Nat → Bool) (h : '\r' ∉ cs) :
    unifyNewlines (withReturns chosen cs) = cs := by
  induction cs generalizing chosen with
  | nil => rfl
  | cons c cs ih =>
    rw [List.mem_cons, not_or] at h
    by_cases hc : c = '\n'
    · rw [withReturns, if_pos hc, hc]
      by_cases hchosen : chosen 0 = true
      · rw [if_pos hchosen, List.cons_append, List.singleton_append, unifyNewlines, ih _ h.2]
      · rw [if_neg hchosen, List.singleton_append, unifyNewlines.eq_3 _ _ (fun _ heq => absurd heq (by decide)),
          ih _ h.2]
    · rw [withReturns, if_neg hc, unifyNewlines.eq_3 _ _ (fun _ heq => absurd heq (Ne.symm h.1)), ih _ h.2]

theorem splitFrontmatter_withReturns (chosen : Nat → Bool) (h : '\r' ∉ cs) :
    splitFrontmatter (withReturns chosen cs) = splitFrontmatter cs := by
  rw [splitFrontmatter, splitFrontmatter, unifyNewlines_withReturns chosen h, unifyNewlines_eq_self h]

theorem parseDocument_withReturns {raw : String} (chosen : Nat → Bool) (h : '\r' ∉ raw.toList) :
    parseDocument (String.ofList (withReturns chosen raw.toList)) = parseDocument raw := by
  rw [parseDocument_eq, parseDocument_eq, String.toList_ofList, splitFrontmatter_withReturns chosen h]

/-! ### Stripping -/

/-- A character is a blank exactly if it is written with blanks only. -/
private theorem crlf_singleton (c : Char) :
    (isBlank c = true ∧ (crlf [c]).all isBlank = true) ∨ (isBlank c = false ∧ crlf [c] = [c]) := by
  by_cases hc : c = '\n'
  · rw [hc]
    exact .inl (by decide)
  · rw [crlf_cons hc]
    cases hblank : isBlank c with
    | false => exact .inr ⟨rfl, rfl⟩
    | true => exact .inl ⟨rfl, by simpa [crlf, withReturns] using hblank⟩

private theorem dropWhile_crlf (cs : List Char) : (crlf cs).dropWhile isBlank = crlf (cs.dropWhile isBlank) := by
  induction cs with
  | nil => rfl
  | cons c cs ih =>
    rw [← List.singleton_append, crlf_append]
    rcases crlf_singleton c with ⟨hc, hall⟩ | ⟨hc, hself⟩
    · rw [List.dropWhile_append_of_pos (List.all_eq_true.1 hall), ih, List.singleton_append,
        List.dropWhile_cons_of_pos hc]
    · rw [hself, List.singleton_append, List.singleton_append, List.dropWhile_cons_of_neg (by simp [hc]),
        List.dropWhile_cons_of_neg (by simp [hc]), ← List.singleton_append, ← hself, ← crlf_append]
      rfl

private theorem dropEndWhile_crlf (cs : List Char) :
    dropEndWhile isBlank (crlf cs) = crlf (dropEndWhile isBlank cs) := by
  -- from the end, since that is where characters are dropped
  induction cs using List.reverseRecOn with
  | nil => rfl
  | append_singleton cs c ih =>
    rw [crlf_append]
    rcases crlf_singleton c with ⟨hc, hall⟩ | ⟨hc, hself⟩
    · have hback : ∀ d ∈ (crlf [c]).reverse, isBlank d = true := by simpa using hall
      rw [dropEndWhile, List.reverse_append, List.dropWhile_append_of_pos hback, dropEndWhile, List.reverse_append,
        List.reverse_singleton, List.singleton_append, List.dropWhile_cons_of_pos hc]
      exact ih
    · have hkeep : ∀ ds : List Char, dropEndWhile isBlank (ds ++ [c]) = ds ++ [c] := by
        intro ds
        simp [dropEndWhile, hc]
      rw [hself, hkeep, hkeep, crlf_append, hself]

/-- Stripping takes a line feed with the carriage return before it or leaves both. -/
theorem strip_crlf (cs : List Char) : strip (crlf cs) = crlf (strip cs) := by
  rw [strip, strip, trim, trim, dropWhile_crlf, dropEndWhile_crlf]

/-! ### Lines -/

/-- The lines with a carriage return behind each but the last one. -/
def returnLines : List (List Char) → List (List Char)
  | [] => []
  | [line] => [line]
  | line :: next :: lines => (line ++ ['\r']) :: returnLines (next :: lines)

theorem returnLines_cons {lines : List (List Char)} (hne : lines ≠ []) (line : List Char) :
    returnLines (line :: lines) = (line ++ ['\r']) :: returnLines lines := by
  cases lines with
  | nil => exact absurd rfl hne
  | cons next lines => rfl

theorem splitAtNewline_crlf (cs : List Char) : splitAtNewline (crlf cs) = returnLines (splitAtNewline cs) := by
  induction cs with
  | nil => rfl
  | cons c cs ih =>
    by_cases hc : c = '\n'
    · have hreturn : splitAtNewline ['\r'] = [['\r']] := by decide
      have hfeed : splitAtNewline ('\n' :: cs) = [] :: splitAtNewline cs := if_pos rfl
      rw [hc, crlf_newline, ← List.singleton_append, List.append_assoc, List.singleton_append, List.singleton_append,
        ← List.singleton_append, splitAtNewline_append, hreturn, ih, hfeed,
        returnLines_cons (splitAtNewline_ne_nil cs)]
      rfl
    · rw [crlf_cons hc, splitAtNewline, if_neg hc, ih, splitAtNewline, if_neg hc]
      cases splitAtNewline cs with
      | nil => rfl
      | cons line lines =>
        cases lines with
        | nil => rfl
        | cons next lines => rfl

/-- A line within others may or may not be the last one; the lines above it are not. -/
theorem returnLines_append_line (above : List (List Char)) (line : List Char) (below : List (List Char)) :
    ∃ line', (line' = line ∨ line' = line ++ ['\r']) ∧
      returnLines (above ++ line :: below) = above.map (· ++ ['\r']) ++ line' :: returnLines below := by
  induction above with
  | nil =>
    cases below with
    | nil => exact ⟨line, .inl rfl, rfl⟩
    | cons next below => exact ⟨line ++ ['\r'], .inr rfl, rfl⟩
  | cons first above ih =>
    obtain ⟨line', hline', hlines⟩ := ih
    refine ⟨line', hline', ?_⟩
    rw [List.cons_append, returnLines_cons (by simp), hlines]
    rfl

theorem mem_returnLines (h : line ∈ returnLines lines) : ∃ l ∈ lines, line = l ∨ line = l ++ ['\r'] := by
  induction lines with
  | nil => cases h
  | cons first lines ih =>
    cases lines with
    | nil => exact ⟨first, List.mem_cons_self, .inl (List.mem_singleton.1 h)⟩
    | cons next lines =>
      rcases List.mem_cons.1 h with rfl | h
      · exact ⟨first, List.mem_cons_self, .inr rfl⟩
      · obtain ⟨l, hl, hline⟩ := ih h
        exact ⟨l, List.mem_cons_of_mem _ hl, hline⟩

theorem crlf_endedLines (h : ∀ l ∈ lines, '\n' ∉ l) :
    crlf (endedLines lines) = endedLines (lines.map (· ++ ['\r'])) := by
  induction lines with
  | nil => rfl
  | cons line lines ih =>
    rw [List.forall_mem_cons] at h
    have htail := ih h.2
    rw [endedLines] at htail
    rw [endedLines, List.flatMap_cons, crlf_append, crlf_append, crlf_eq_self h.1, htail, List.map_cons, endedLines,
      endedLines, List.flatMap_cons, List.append_assoc _ ['\r']]
    rfl

theorem returnLines_ne_nil (line : List Char) (lines : List (List Char)) : returnLines (line :: lines) ≠ [] := by
  cases lines with
  | nil => exact List.cons_ne_nil _ _
  | cons next lines => exact List.cons_ne_nil _ _

theorem crlf_unlines (h : ∀ l ∈ lines, '\n' ∉ l) : crlf (unlines lines) = unlines (returnLines lines) := by
  induction lines with
  | nil => rfl
  | cons line lines ih =>
    rw [List.forall_mem_cons] at h
    cases lines with
    | nil => exact crlf_eq_self h.1
    | cons next lines =>
      rw [unlines_cons_of_ne_nil (List.cons_ne_nil _ _), crlf_append, crlf_eq_self h.1, crlf_newline, ih h.2,
        returnLines_cons (List.cons_ne_nil _ _), unlines_cons_of_ne_nil (returnLines_ne_nil _ _),
        List.append_assoc _ ['\r']]
      rfl

/-! ### Templates -/

/-- A carriage return behind a heading is no part of its word, and behind another line it makes no heading. -/
theorem isHeading_append_return {word : String} (h : '\r' ∉ line) :
    isHeading word (line ++ ['\r']) = isHeading word line := by
  cases line with
  | nil => rfl
  | cons c rest =>
    rw [List.mem_cons, not_or] at h
    by_cases hc : c = '#'
    · have hdrop : (rest ++ ['\r']).dropWhile isGap = rest.dropWhile isGap ++ ['\r'] := by
        rw [List.dropWhile_append]
        split
        · next hnil =>
          rw [List.isEmpty_iff.1 hnil]
          rfl
        · rfl
      have hreturn : '\r' ∉ rest.dropWhile isGap := fun hmem => h.2 ((List.dropWhile_sublist _).subset hmem)
      simp only [hc, List.cons_append, isHeading, hdrop, dropFinalReturn_append_return,
        dropFinalReturn_eq_self hreturn]
      cases rest with
      | nil => rfl
      | cons d rest => rfl
    · have hnone : ∀ cs : List Char, isHeading word (c :: cs) = false := by
        intro cs
        unfold isHeading
        split
        · next heq => exact absurd (List.cons.inj heq).1 hc
        · rfl
      rw [List.cons_append, hnone, hnone]

private theorem isHeadingLine_iff_of_return {word : String} {line' : List Char} (hword : IsTitle word)
    (hreturn : '\r' ∉ line) (hline : line' = line ∨ line' = line ++ ['\r']) :
    IsHeadingLine word line' ↔ IsHeadingLine word line := by
  rcases hline with rfl | rfl
  · rfl
  · rw [← isHeading_iff hword, ← isHeading_iff hword, isHeading_append_return hreturn]

private theorem not_isHeadingLine_of_return {word : String} {lines' : List (List Char)} (hword : IsTitle word)
    (hreturn : ∀ l ∈ lines, '\r' ∉ l) (hnone : ∀ l ∈ lines, ¬IsHeadingLine word l)
    (hlines : ∀ l' ∈ lines', ∃ l ∈ lines, l' = l ∨ l' = l ++ ['\r']) : ∀ l' ∈ lines', ¬IsHeadingLine word l' := by
  intro l' hl'
  obtain ⟨l, hl, hline⟩ := hlines l' hl'
  rw [isHeadingLine_iff_of_return hword (hreturn l hl) hline]
  exact hnone l hl

private theorem mem_map_return (lines : List (List Char)) :
    ∀ l' ∈ lines.map (· ++ ['\r']), ∃ l ∈ lines, l' = l ∨ l' = l ++ ['\r'] := by
  intro l' hl'
  obtain ⟨l, hl, rfl⟩ := List.mem_map.1 hl'
  exact ⟨l, hl, .inr rfl⟩

private theorem return_notMem_of_line (h : '\r' ∉ body) : ∀ line ∈ splitAtNewline body, '\r' ∉ line := by
  intro line hline hmem
  refine h ?_
  rw [← unlines_splitAtNewline body]
  exact mem_unlines_of_mem hline hmem

theorem lacksSystem_crlf (h : LacksSystem body) (hreturn : '\r' ∉ body) : LacksSystem (crlf body) := by
  rw [LacksSystem, splitAtNewline_crlf]
  exact not_isHeadingLine_of_return isTitle_system (return_notMem_of_line hreturn) h fun _ => mem_returnLines

theorem lacksUser_crlf (h : LacksUser body) (hreturn : '\r' ∉ body) : LacksUser (crlf body) := by
  obtain ⟨above, first, below, hlines, habove, hfirst, hbelow⟩ := h
  have hnone := return_notMem_of_line hreturn
  rw [hlines] at hnone
  obtain ⟨first', hfirst', hread⟩ := returnLines_append_line above first below
  refine ⟨_, first', _, by rw [splitAtNewline_crlf, hlines, hread], ?_, ?_, ?_⟩
  · exact not_isHeadingLine_of_return isTitle_system (fun l hl => hnone l (by simp [hl])) habove
      (mem_map_return above)
  · exact (isHeadingLine_iff_of_return isTitle_system (hnone first (by simp)) hfirst').2 hfirst
  · exact not_isHeadingLine_of_return isTitle_user (fun l hl => hnone l (by simp [hl])) hbelow fun _ =>
      mem_returnLines

theorem sectioned_crlf {above inner below : List (List Char)} {first second : List Char}
    (h : Sectioned body above first inner second below) (hreturn : '\r' ∉ body) :
    ∃ first' second', Sectioned (crlf body) (above.map (· ++ ['\r'])) first' (inner.map (· ++ ['\r'])) second'
      (returnLines below) := by
  have hnone := return_notMem_of_line hreturn
  rw [h.lines] at hnone
  -- the user heading may be the last line, which gets no carriage return
  obtain ⟨second', hsecond', hinner⟩ := returnLines_append_line inner second below
  obtain ⟨first', hfirst', hread⟩ := returnLines_append_line above first (inner ++ second :: below)
  refine ⟨first', second', by rw [splitAtNewline_crlf, h.lines, hread, hinner], ?_, ?_, ?_, ?_⟩
  · exact not_isHeadingLine_of_return isTitle_system (fun l hl => hnone l (by simp [hl])) h.noSystem
      (mem_map_return above)
  · exact (isHeadingLine_iff_of_return isTitle_system (hnone first (by simp)) hfirst').2 h.system
  · exact not_isHeadingLine_of_return isTitle_user (fun l hl => hnone l (by simp [hl])) h.noUser
      (mem_map_return inner)
  · exact (isHeadingLine_iff_of_return isTitle_user (hnone second (by simp)) hsecond').2 h.user

/-- The carriage return behind the last line is stripped. -/
private theorem strip_unlines_map_return (h : ∀ l ∈ lines, '\n' ∉ l) :
    strip (unlines (lines.map (· ++ ['\r']))) = crlf (strip (unlines lines)) :=
  calc strip (unlines (lines.map (· ++ ['\r'])))
      = strip (endedLines (lines.map (· ++ ['\r']))) := (strip_endedLines _).symm
    _ = crlf (strip (endedLines lines)) := by rw [← crlf_endedLines h, strip_crlf]
    _ = crlf (strip (unlines lines)) := by rw [strip_endedLines]

theorem splitTemplates_crlf (hreturn : '\r' ∉ body) :
    splitTemplates (crlf body) = (splitTemplates body).map fun t => ⟨crlf t.system, crlf t.user⟩ := by
  rcases sectioned_cases body with hsystem | huser | ⟨above, first, inner, second, below, h⟩
  · rw [hsystem.splitTemplates_eq, (lacksSystem_crlf hsystem hreturn).splitTemplates_eq]
    rfl
  · rw [huser.splitTemplates_eq, (lacksUser_crlf huser hreturn).splitTemplates_eq]
    rfl
  · obtain ⟨first', second', hsectioned⟩ := sectioned_crlf h hreturn
    have hfeed : ∀ l ∈ above ++ first :: (inner ++ second :: below), '\n' ∉ l := by
      rw [← h.lines]
      exact fun l => newline_notMem_of_mem_splitAtNewline
    have hinner : ∀ l ∈ inner, '\n' ∉ l := fun l hl => hfeed l (by simp [hl])
    have hbelow : ∀ l ∈ below, '\n' ∉ l := fun l hl => hfeed l (by simp [hl])
    rw [h.splitTemplates_eq, hsectioned.splitTemplates_eq, strip_unlines_map_return hinner, ← crlf_unlines hbelow,
      strip_crlf]
    rfl

/-- However the line feeds of a document are written, it is read in the same way; and with carriage returns before all
line feeds of a body, the same section is missing, or the templates are the same with carriage returns before
theirs. -/
theorem line_endings_indifferent {raw : String} (chosen : Nat → Bool) (hraw : '\r' ∉ raw.toList)
    (hbody : '\r' ∉ body) :
    parseDocument (String.ofList (withReturns chosen raw.toList)) = parseDocument raw ∧
      splitTemplates (crlf body) = (splitTemplates body).map fun t => ⟨crlf t.system, crlf t.user⟩ :=
  ⟨parseDocument_withReturns chosen hraw, splitTemplates_crlf hbody⟩

/-- A document of which every other line feed is written with a carriage return. -/
theorem line_endings_indifferent_mixed :
    '\r' ∉ "---\nid: a\nversion: 1\n---\n# System\nb\n# User\nc".toList ∧
      '\r' ∉ "# System\na\n\nb\n# User\nc\nd".toList ∧
      parseDocument "---\r\nid: a\nversion: 1\r\n---\n# System\r\nb\n# User\r\nc" =
        parseDocument "---\nid: a\nversion: 1\n---\n# System\nb\n# User\nc" ∧
      splitTemplates "# System\r\na\r\n\r\nb\r\n# User\r\nc\r\nd".toList =
        .ok ⟨"a\r\n\r\nb".toList, "c\r\nd".toList⟩ := by
  have hraw : '\r' ∉ "---\nid: a\nversion: 1\n---\n# System\nb\n# User\nc".toList := by decide
  have hbody : '\r' ∉ "# System\na\n\nb\n# User\nc\nd".toList := by decide
  have hread := line_endings_indifferent (fun n => n % 2 == 0) hraw hbody
  have hwritten : withReturns (fun n => n % 2 == 0) "---\nid: a\nversion: 1\n---\n# System\nb\n# User\nc".toList =
      "---\r\nid: a\nversion: 1\r\n---\n# System\r\nb\n# User\r\nc".toList := by decide
  rw [hwritten, String.ofList_toList] at hread
  exact ⟨hraw, hbody, hread⟩

end Promptbook.Document
