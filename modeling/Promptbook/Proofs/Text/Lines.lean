import Promptbook.Proofs.Text.Trimming

/-!
# Writing and reading lines

A line feed ends the line before it (`splitLines_append_newline`), and between two texts it keeps their lines apart
(`splitLines_join`).  Cutting at line feeds only goes through an append at a line feed (`splitAtNewline_append`), and
text without a carriage return needs no unification (`unifyNewlines_eq_self`).
-/

namespace Promptbook.Text

/-! ### All line breaks -/

/-- Has the text no line break inside? -/
def OneLine (cs : List Char) : Prop :=
  ∀ c ∈ cs, isLineBreak c = false

instance (cs : List Char) : Decidable (OneLine cs) :=
  decidable_of_iff (cs.all fun c => !isLineBreak c) (by simp [OneLine])

theorem OneLine.append {cs ds : List Char} (h : OneLine cs) (hds : OneLine ds) : OneLine (cs ++ ds) := by
  intro c hc
  rcases List.mem_append.1 hc with hc | hc
  · exact h c hc
  · exact hds c hc

theorem OneLine.cons {c : Char} {cs : List Char} (hc : isLineBreak c = false) (h : OneLine cs) : OneLine (c :: cs) :=
  OneLine.append (show OneLine [c] by simpa [OneLine] using hc) h

theorem OneLine.of_isBlank {cs : List Char} (h : ∀ c ∈ cs, isBlank c = false) : OneLine cs := by
  intro c hc
  by_contra hbreak
  rw [Bool.not_eq_false] at hbreak
  have := h c hc
  rw [isBlank_of_isLineBreak hbreak] at this
  cases this

private theorem splitLinesFrom_append {line : List Char} (h : OneLine line)
    (current rest : List Char) :
    splitLinesFrom current (line ++ rest) = splitLinesFrom (line.reverse ++ current) rest := by
  induction line generalizing current with
  | nil => rfl
  | cons c line ih =>
    have hc : isLineBreak c = false := h c List.mem_cons_self
    have hreturn : c ≠ '\r' := by
      rintro rfl
      revert hc
      decide
    have htail := ih (fun d hd => h d (List.mem_cons_of_mem _ hd)) (c :: current)
    rw [List.cons_append, splitLinesFrom.eq_3 _ _ _ (fun _ heq => absurd heq hreturn), hc, if_neg (by decide), htail,
      List.reverse_cons, List.append_assoc]
    rfl

private theorem splitLinesFrom_newline (current rest : List Char) :
    splitLinesFrom current ('\n' :: rest) = current.reverse :: splitLinesFrom [] rest := by
  rw [splitLinesFrom.eq_3 _ _ _ (fun _ heq => absurd heq (by decide)), if_pos (by decide)]

/-- A line feed ends the line before it. -/
theorem splitLines_append_newline {line : List Char} (h : OneLine line) (rest : List Char) :
    splitLines (line ++ '\n' :: rest) = line :: splitLines rest := by
  rw [splitLines, splitLinesFrom_append h, splitLinesFrom_newline, List.append_nil, List.reverse_reverse]
  rfl

/-- The empty text has no line, and any other text without a line break is one. -/
theorem splitLines_of_oneLine {line : List Char} (h : OneLine line) :
    splitLines line = if line.isEmpty then [] else [line] := by
  have hread := splitLinesFrom_append h [] []
  rw [List.append_nil, List.append_nil] at hread
  rw [splitLines, hread, splitLinesFrom, List.isEmpty_reverse, List.reverse_reverse]

/-- A line feed between two texts keeps their lines apart.  If the first text is empty or ends with a line break,
there may be an empty line between them. -/
theorem splitLines_join (cs ds : List Char) :
    ∃ between, (between = [] ∨ between = [[]]) ∧
      splitLines (cs ++ '\n' :: ds) = splitLines cs ++ between ++ splitLines ds := by
  -- by the recursion of the reader, for any line that is being read
  have hfrom : ∀ current, ∃ between, (between = [] ∨ between = [[]]) ∧
      splitLinesFrom current (cs ++ '\n' :: ds) = splitLinesFrom current cs ++ between ++ splitLines ds := by
    intro current
    fun_induction splitLinesFrom current cs with
    | case1 current hnil =>
      refine ⟨[[]], .inr rfl, ?_⟩
      rw [List.nil_append, splitLinesFrom_newline, List.isEmpty_iff.1 hnil]
      rfl
    | case2 current hne =>
      refine ⟨[], .inl rfl, ?_⟩
      rw [List.nil_append, splitLinesFrom_newline]
      rfl
    | case3 current rest ih =>
      obtain ⟨between, hbetween, hread⟩ := ih
      exact ⟨between, hbetween, congrArg (current.reverse :: ·) hread⟩
    | case4 current c rest hpair hbreak ih =>
      by_cases hlast : c = '\r' ∧ rest = []
      · -- the carriage return and the line feed behind it are one line break
        obtain ⟨rfl, rfl⟩ := hlast
        exact ⟨[], .inl rfl, rfl⟩
      · obtain ⟨between, hbetween, hread⟩ := ih
        refine ⟨between, hbetween, ?_⟩
        have hapart : ∀ tail, c = '\r' → rest ++ '\n' :: ds = '\n' :: tail → False := by
          intro tail hc hrest
          cases rest with
          | nil => exact hlast ⟨hc, rfl⟩
          | cons d rest => exact hpair rest hc (by rw [(List.cons.inj hrest).1])
        rw [List.cons_append, splitLinesFrom.eq_3 _ _ _ hapart, if_pos hbreak, hread]
        rfl
    | case5 current c rest hpair hbreak ih =>
      obtain ⟨between, hbetween, hread⟩ := ih
      refine ⟨between, hbetween, ?_⟩
      have hreturn : c ≠ '\r' := by
        rintro rfl
        exact hbreak (by decide)
      rw [List.cons_append, splitLinesFrom.eq_3 _ _ _ (fun _ hc => absurd hc hreturn), if_neg hbreak, hread]
  exact hfrom []

/-- A text that starts with no line break has a first line that starts like it. -/
theorem exists_splitLines_cons {c : Char} (h : isLineBreak c = false) (cs : List Char) :
    ∃ line lines, splitLines (c :: cs) = (c :: line) :: lines := by
  have hfrom : ∀ current : List Char, current ≠ [] →
      ∃ line lines, splitLinesFrom current cs = (current.reverse ++ line) :: lines := by
    intro current
    fun_induction splitLinesFrom current cs with
    | case1 current hnil => exact fun hne => absurd (List.isEmpty_iff.1 hnil) hne
    | case2 current _ => exact fun _ => ⟨[], [], by rw [List.append_nil]⟩
    | case3 current rest _ => exact fun _ => ⟨[], splitLinesFrom [] rest, by rw [List.append_nil]⟩
    | case4 current d rest _ _ _ => exact fun _ => ⟨[], splitLinesFrom [] rest, by rw [List.append_nil]⟩
    | case5 current d rest _ _ ih =>
      intro _
      obtain ⟨line, lines, hread⟩ := ih (List.cons_ne_nil _ _)
      exact ⟨d :: line, lines, by rw [hread, List.reverse_cons, List.append_assoc]; rfl⟩
  have hc : OneLine [c] := .cons h (fun _ hnil => nomatch hnil)
  have hfirst := splitLinesFrom_append hc [] cs
  obtain ⟨line, lines, hread⟩ := hfrom [c] (List.cons_ne_nil _ _)
  exact ⟨line, lines, hfirst.trans hread⟩

/-! ### Line feeds -/

theorem splitAtNewline_append (cs ds : List Char) :
    splitAtNewline (cs ++ '\n' :: ds) = splitAtNewline cs ++ splitAtNewline ds := by
  induction cs with
  | nil => rfl
  | cons c cs ih =>
    by_cases hc : c = '\n'
    · simp [splitAtNewline, hc, ih]
    · rw [List.cons_append, splitAtNewline, if_neg hc, ih, splitAtNewline, if_neg hc]
      cases hcs : splitAtNewline cs with
      | nil => exact absurd hcs (splitAtNewline_ne_nil cs)
      | cons line lines => rfl

theorem newline_notMem_of_mem_splitAtNewline {cs line : List Char} (h : line ∈ splitAtNewline cs) : '\n' ∉ line := by
  induction cs generalizing line with
  | nil =>
    rw [splitAtNewline, List.mem_singleton] at h
    simp [h]
  | cons c cs ih =>
    by_cases hc : c = '\n'
    · rw [splitAtNewline, if_pos hc, List.mem_cons] at h
      rcases h with rfl | h
      · simp
      · exact ih h
    · rw [splitAtNewline, if_neg hc] at h
      cases hcs : splitAtNewline cs with
      | nil => exact absurd hcs (splitAtNewline_ne_nil cs)
      | cons first lines =>
        rw [hcs] at h ih
        rcases List.mem_cons.1 h with rfl | h
        · have hfirst : '\n' ∉ first := ih List.mem_cons_self
          simp [Ne.symm hc, hfirst]
        · exact ih (List.mem_cons_of_mem _ h)

theorem unifyNewlines_eq_self {cs : List Char} (h : '\r' ∉ cs) : unifyNewlines cs = cs := by
  induction cs with
  | nil => rfl
  | cons c cs ih =>
    rw [List.mem_cons, not_or] at h
    rw [unifyNewlines.eq_3 _ _ (fun _ heq => absurd heq (Ne.symm h.1)), ih h.2]

/-- No line is of a kind, or there is a first one that is. -/
theorem exists_first_line (q : List Char → Prop) (lines : List (List Char)) :
    (∀ line ∈ lines, ¬q line) ∨
      ∃ above line below, lines = above ++ line :: below ∧ (∀ l ∈ above, ¬q l) ∧ q line := by
  induction lines with
  | nil => simp
  | cons line lines ih =>
    by_cases hline : q line
    · exact .inr ⟨[], line, lines, rfl, by simp, hline⟩
    · rcases ih with hnone | ⟨above, found, below, rfl, habove, hfound⟩
      · exact .inl (List.forall_mem_cons.2 ⟨hline, hnone⟩)
      · exact .inr ⟨line :: above, found, below, rfl, List.forall_mem_cons.2 ⟨hline, habove⟩, hfound⟩

/-! ### Joined lines -/

theorem mem_unlines {lines : List (List Char)} {c : Char} (h : c ∈ unlines lines) :
    c = '\n' ∨ ∃ line ∈ lines, c ∈ line := by
  induction lines with
  | nil => cases h
  | cons line lines ih =>
    cases lines with
    | nil => exact .inr ⟨line, List.mem_cons_self, h⟩
    | cons next lines =>
      rw [unlines, List.mem_append, List.mem_cons] at h
      rcases h with h | h | h
      · exact .inr ⟨line, List.mem_cons_self, h⟩
      · exact .inl h
      · rcases ih h with h | ⟨l, hl, hc⟩
        · exact .inl h
        · exact .inr ⟨l, List.mem_cons_of_mem _ hl, hc⟩

theorem unlines_append {xs ys : List (List Char)} (hxs : xs ≠ []) (hys : ys ≠ []) :
    unlines (xs ++ ys) = unlines xs ++ '\n' :: unlines ys := by
  induction xs with
  | nil => exact absurd rfl hxs
  | cons x xs ih =>
    cases xs with
    | nil =>
      cases ys with
      | nil => exact absurd rfl hys
      | cons y ys => rfl
    | cons next xs =>
      have htail := ih (List.cons_ne_nil _ _)
      rw [List.cons_append] at htail
      rw [List.cons_append, List.cons_append, unlines, htail, unlines, List.append_assoc, List.cons_append]

theorem unlines_cons_of_ne_nil {lines : List (List Char)} (h : lines ≠ []) (line : List Char) :
    unlines (line :: lines) = line ++ '\n' :: unlines lines :=
  unlines_append (List.cons_ne_nil line []) h

theorem unlines_append_cons (cs line : List Char) (lines : List (List Char)) :
    unlines ((cs ++ line) :: lines) = cs ++ unlines (line :: lines) := by
  cases lines with
  | nil => rfl
  | cons next lines => rw [unlines, unlines, List.append_assoc]

/-- Lines with a line feed behind each. -/
def endedLines (lines : List (List Char)) : List Char :=
  lines.flatMap fun line => line ++ ['\n']

/-- Lines with a line feed before each. -/
def begunLines (lines : List (List Char)) : List Char :=
  lines.flatMap fun line => '\n' :: line

theorem unlines_cons (line : List Char) (lines : List (List Char)) :
    unlines (line :: lines) = line ++ begunLines lines := by
  induction lines generalizing line with
  | nil => simp [unlines, begunLines]
  | cons next lines ih => rw [unlines, ih next, begunLines, begunLines, List.flatMap_cons, List.cons_append]

theorem unlines_append_line (above : List (List Char)) (line : List Char) (below : List (List Char)) :
    unlines (above ++ line :: below) = endedLines above ++ (line ++ begunLines below) := by
  induction above with
  | nil => exact unlines_cons line below
  | cons first above ih =>
    have hne : above ++ line :: below ≠ [] := by simp
    rw [← List.singleton_append, List.append_assoc, unlines_append (List.cons_ne_nil _ _) hne, ih]
    simp [unlines, endedLines]

theorem mem_unlines_of_mem {lines : List (List Char)} {line : List Char} {c : Char} (hline : line ∈ lines)
    (hc : c ∈ line) : c ∈ unlines lines := by
  obtain ⟨above, below, rfl⟩ := List.append_of_mem hline
  rw [unlines_append_line]
  simp [hc]

theorem begunLines_cons (line : List Char) (lines : List (List Char)) :
    begunLines (line :: lines) = '\n' :: unlines (line :: lines) := by
  rw [unlines_cons, begunLines, List.flatMap_cons, begunLines, List.cons_append]

theorem begunLines_append_line (above : List (List Char)) (line : List Char) (below : List (List Char)) :
    begunLines (above ++ line :: below) = '\n' :: (endedLines above ++ (line ++ begunLines below)) := by
  rw [← unlines_append_line]
  cases above with
  | nil => exact begunLines_cons line below
  | cons first above => exact begunLines_cons first (above ++ line :: below)

/-- The line feeds before and behind the lines are no part of what is stripped. -/
theorem strip_begunLines (lines : List (List Char)) : strip (begunLines lines) = strip (unlines lines) := by
  have hfeed : ['\n'].all isBlank = true := by decide
  cases lines with
  | nil => rfl
  | cons line lines =>
    rw [begunLines_cons]
    exact trim_of_all_append hfeed

theorem strip_endedLines (lines : List (List Char)) : strip (endedLines lines) = strip (unlines lines) := by
  have hfeed : ['\n'].all isBlank = true := by decide
  rcases List.eq_nil_or_concat lines with rfl | ⟨above, line, rfl⟩
  · rfl
  · have hended : endedLines (above ++ [line]) = (endedLines above ++ line) ++ ['\n'] := by simp [endedLines]
    rw [List.concat_eq_append, hended, unlines_append_line, begunLines, List.flatMap_nil, List.append_nil]
    exact trim_append_of_all hfeed

/-- Joined lines start where the first of them starts and end where the last of them ends. -/
theorem bare_unlines {p : Char → Bool} {line : List Char} {lines : List (List Char)} (hfirst : Bare p line)
    (hlast : ∀ l ∈ line :: lines, l ≠ [] ∧ ∀ c ∈ l.getLast?, p c = false) : Bare p (unlines (line :: lines)) := by
  constructor
  · have hne := (hlast line List.mem_cons_self).1
    have hhead : (unlines (line :: lines)).head? = line.head? := by
      cases lines with
      | nil => rfl
      | cons next lines => rw [unlines, List.head?_append_of_ne_nil _ hne]
    rw [hhead]
    exact hfirst.1
  · clear hfirst
    induction lines generalizing line with
    | nil => exact (hlast line List.mem_cons_self).2
    | cons next lines ih =>
      have htail := ih fun l hl => hlast l (List.mem_cons_of_mem _ hl)
      have hne : unlines (next :: lines) ≠ [] := by
        have hnext := (hlast next (by simp)).1
        cases lines with
        | nil => exact hnext
        | cons _ _ => simp [unlines]
      intro c hc
      rw [unlines, List.getLast?_append_of_ne_nil _ (List.cons_ne_nil _ _)] at hc
      rw [List.getLast?_cons_of_ne_nil hne] at hc
      exact htail c hc

end Promptbook.Text
