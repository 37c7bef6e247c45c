import Promptbook.Proofs.Document.Layout

/-!
# Between the fences

A document is cut at its opening fence and at the first later line that starts with a fence (`Fenced`).  Only
without such lines is it refused; otherwise the block is what stands between the fences and the body is what stands
behind the second one, but for the character right behind the opening fence, which is dropped.  So nothing is lost
exactly if that character is a blank or the line ends there (`splitFrontmatter_faithful_iff`).
-/

namespace Promptbook.Document

open Promptbook.Text

variable {cs first closing opening text : List Char} {inner below : List (List Char)}

/-! ### Fences in a text -/

theorem fence_eq : fence = ['-', '-', '-'] := by
  decide

theorem afterFence?_eq_some_iff {after : List Char} : afterFence? cs = some after ↔ cs = fence ++ after := by
  rw [fence_eq]
  constructor
  · intro h
    unfold afterFence? at h
    split at h
    · rw [Option.some.inj h]
      rfl
    · cases h
  · rintro rfl
    rfl

theorem afterFence?_eq_none_iff : afterFence? cs = none ↔ ¬fence <+: cs := by
  rw [Option.eq_none_iff_forall_ne_some]
  constructor
  · rintro h ⟨after, hafter⟩
    exact h after (afterFence?_eq_some_iff.2 hafter.symm)
  · intro h after hafter
    exact h ⟨after, (afterFence?_eq_some_iff.1 hafter).symm⟩

/-- A fence does not go on over the end of a line. -/
theorem fence_prefix_append_newline {line : List Char} (rest : List Char) :
    fence <+: line ++ '\n' :: rest ↔ fence <+: line := by
  constructor
  · intro h
    rcases List.prefix_or_prefix_of_prefix h (List.prefix_append line ('\n' :: rest)) with hline | ⟨tail, htail⟩
    · exact hline
    · cases tail with
      | nil => rw [← htail, List.append_nil]
      | cons c tail =>
        -- a line feed would stand in the fence
        rw [← htail, List.prefix_append_right_inj, List.cons_prefix_cons] at h
        have hmem : '\n' ∈ fence := by simp [← htail, h.1]
        rw [fence_eq] at hmem
        simp at hmem
  · exact fun h => h.trans (List.prefix_append _ _)

theorem fence_prefix_unlines (line : List Char) (lines : List (List Char)) :
    fence <+: unlines (line :: lines) ↔ fence <+: line := by
  cases lines with
  | nil => rfl
  | cons next lines => exact fence_prefix_append_newline _

/-! ### The first line that starts with a fence -/

/-- No fence is found on the line that the text starts in. -/
theorem splitAtFence_append (h : '\n' ∉ cs) (rest : List Char) :
    splitAtFence (cs ++ rest) = (splitAtFence rest).map fun r => (cs ++ r.1, r.2) := by
  induction cs with
  | nil => simp
  | cons c cs ih =>
    rw [List.mem_cons, not_or] at h
    have hskip : (if c = '\n' then afterFence? (cs ++ rest) else none) = none := if_neg (Ne.symm h.1)
    simp only [List.cons_append, splitAtFence, hskip, ih h.2, Option.map_map, Function.comp_def]

/-- A line that does not start with a fence is passed over. -/
private theorem splitAtFence_newline (h : ¬fence <+: cs) :
    splitAtFence ('\n' :: cs) = (splitAtFence cs).map fun r => ('\n' :: r.1, r.2) := by
  rw [splitAtFence, if_pos rfl, afterFence?_eq_none_iff.2 h]

theorem splitAtFence_unlines (hfirst : '\n' ∉ first) (hinner : ∀ line ∈ inner, '\n' ∉ line ∧ ¬fence <+: line)
    (after : List Char) :
    splitAtFence (unlines (first :: inner) ++ '\n' :: (fence ++ after)) = some (unlines (first :: inner), after) := by
  induction inner generalizing first with
  | nil =>
    have hfence : afterFence? (fence ++ after) = some after := afterFence?_eq_some_iff.2 rfl
    rw [unlines, splitAtFence_append hfirst, splitAtFence, if_pos rfl, hfence]
    simp
  | cons next inner ih =>
    rw [List.forall_mem_cons] at hinner
    have hnext : ¬fence <+: unlines (next :: inner) ++ '\n' :: (fence ++ after) := by
      rw [fence_prefix_append_newline, fence_prefix_unlines]
      exact hinner.1.2
    rw [unlines, List.append_assoc, List.cons_append, splitAtFence_append hfirst, splitAtFence_newline hnext,
      ih hinner.1.1 hinner.2]
    rfl

theorem splitAtFence_unlines_eq_none (hfirst : '\n' ∉ first)
    (hinner : ∀ line ∈ inner, '\n' ∉ line ∧ ¬fence <+: line) : splitAtFence (unlines (first :: inner)) = none := by
  induction inner generalizing first with
  | nil => rw [unlines, ← List.append_nil first, splitAtFence_append hfirst, splitAtFence, Option.map_none]
  | cons next inner ih =>
    rw [List.forall_mem_cons] at hinner
    have hnext : ¬fence <+: unlines (next :: inner) := by
      rw [fence_prefix_unlines]
      exact hinner.1.2
    rw [unlines, splitAtFence_append hfirst, splitAtFence_newline hnext, ih hinner.1.1 hinner.2]
    rfl

/-! ### Lines around the fences -/

/-- Do the lines of the text open with a fence, and is the first later line that starts with a fence the one between
the given lines?  What stands behind the fences on their lines is given without them. -/
structure Fenced (text opening : List Char) (inner : List (List Char)) (closing : List Char)
    (below : List (List Char)) : Prop where
  lines : splitAtNewline text = (fence ++ opening) :: inner ++ (fence ++ closing) :: below
  first : ∀ line ∈ inner, ¬fence <+: line

/-- A text that opens with a fence is the fence, the rest of its first line and the lines below. -/
private theorem exists_opening (hopen : fence <+: text) :
    ∃ opening lines, splitAtNewline text = (fence ++ opening) :: lines ∧
      text = fence ++ unlines (opening :: lines) := by
  have htext := unlines_splitAtNewline text
  cases hlines : splitAtNewline text with
  | nil => exact absurd hlines (splitAtNewline_ne_nil text)
  | cons line lines =>
    rw [hlines] at htext
    rw [← htext, fence_prefix_unlines] at hopen
    obtain ⟨opening, rfl⟩ := hopen
    refine ⟨opening, lines, rfl, ?_⟩
    rw [← htext, unlines_append_cons]

theorem exists_fenced (hopen : fence <+: text) (hclosed : ∃ line ∈ (splitAtNewline text).tail, fence <+: line) :
    ∃ opening inner closing below, Fenced text opening inner closing below := by
  obtain ⟨opening, lines, hlines, -⟩ := exists_opening hopen
  rw [hlines, List.tail_cons] at hclosed
  obtain ⟨line, hline, hfence⟩ := hclosed
  rcases exists_first_line (fence <+: ·) lines with hnone | ⟨inner, _, below, rfl, hinner, closing, rfl⟩
  · exact absurd hfence (hnone line hline)
  · exact ⟨opening, inner, closing, below, by rw [hlines, List.cons_append], hinner⟩

/-- The line feeds are where the text is cut. -/
theorem Fenced.text_eq (h : Fenced text opening inner closing below) :
    text = fence ++ (unlines (opening :: inner) ++ '\n' :: (fence ++ unlines (closing :: below))) := by
  have htext := unlines_splitAtNewline text
  rw [h.lines, List.cons_append, unlines_append_cons, ← List.cons_append,
    unlines_append (List.cons_ne_nil _ _) (List.cons_ne_nil _ _), unlines_append_cons] at htext
  exact htext.symm

theorem Fenced.splitAtFence_eq (h : Fenced text opening inner closing below) :
    splitAtFence (unlines (opening :: inner) ++ '\n' :: (fence ++ unlines (closing :: below))) =
      some (unlines (opening :: inner), unlines (closing :: below)) := by
  have hfeed : ∀ line ∈ (fence ++ opening) :: inner ++ (fence ++ closing) :: below, '\n' ∉ line := by
    intro line hline
    rw [← h.lines] at hline
    exact newline_notMem_of_mem_splitAtNewline hline
  have hopening : '\n' ∉ opening := by
    have hline := hfeed (fence ++ opening) (by simp)
    rw [List.mem_append, not_or] at hline
    exact hline.2
  refine splitAtFence_unlines hopening (fun line hline => ⟨hfeed line (by simp [hline]), h.first line hline⟩) _

/-! ### Characters that are kept -/

/-- The characters of a text that are no blanks, in their order. -/
def visible (cs : List Char) : List Char :=
  cs.filter fun c => !isBlank c

theorem visible_append (cs ds : List Char) : visible (cs ++ ds) = visible cs ++ visible ds :=
  List.filter_append ..

theorem visible_strip (cs : List Char) : visible (strip cs) = visible cs :=
  filter_trim cs

theorem visible_newline (cs : List Char) : visible ('\n' :: cs) = visible cs := by
  have hblank : isBlank '\n' = true := by decide
  simp [visible, hblank]

theorem visible_unlines_cons (line : List Char) (lines : List (List Char)) :
    visible (unlines (line :: lines)) = visible line ++ visible (unlines lines) := by
  cases lines with
  | nil => simp [unlines, visible]
  | cons next lines => rw [unlines, visible_append, visible_newline]

theorem Fenced.visible_eq (h : Fenced text opening inner closing below) :
    visible text =
      fence ++ (visible opening ++ visible (unlines inner) ++ (fence ++ visible (unlines (closing :: below)))) := by
  have hfence : visible fence = fence := by rw [fence_eq]; decide
  conv => lhs; rw [h.text_eq]
  rw [visible_append, visible_append, visible_newline, visible_append, visible_unlines_cons, hfence]

/-- Without its first character a text keeps all that is visible exactly if that character is a blank. -/
theorem visible_tail_eq_iff (cs : List Char) : visible cs.tail = visible cs ↔ ∀ c ∈ cs.head?, isBlank c = true := by
  cases cs with
  | nil => simp
  | cons c cs =>
    by_cases hc : isBlank c = true
    · simp [visible, hc]
    · have hcons : visible (c :: cs) = c :: visible cs := by simp [visible, hc]
      simp [hcons, hc]

/-! ### Splitting a document -/

/-- What stands right behind the opening fence is taken for the end of its line. -/
private theorem strip_drop_unlines (opening : List Char) (inner : List (List Char)) :
    strip ((unlines (opening :: inner)).drop 1) = strip (unlines (opening.tail :: inner)) := by
  cases opening with
  | nil =>
    cases inner with
    | nil => rfl
    | cons next inner =>
      have hfeed : ['\n'].all isBlank = true := by decide
      exact (trim_of_all_append hfeed).symm
  | cons c opening =>
    have hline : unlines ((c :: opening) :: inner) = c :: unlines (opening :: inner) :=
      unlines_append_cons [c] opening inner
    rw [hline]
    rfl

theorem splitFrontmatter_of_fenced {raw : List Char}
    (h : Fenced (strip (unifyNewlines raw)) opening inner closing below) :
    splitFrontmatter raw = .ok ⟨strip (unlines (opening.tail :: inner)), strip (unlines (closing :: below))⟩ := by
  have hafter := afterFence?_eq_some_iff.2 h.text_eq
  rw [splitFrontmatter]
  simp only [hafter, h.splitAtFence_eq, strip_drop_unlines]

/-- Without its first character, the block between the fences is the same exactly if that character is a blank. -/
private theorem strip_unlines_tail_iff (opening : List Char) (inner : List (List Char)) :
    strip (unlines (opening.tail :: inner)) = strip (unlines (opening :: inner)) ↔
      ∀ c ∈ opening.head?, isBlank c = true := by
  constructor
  · intro h
    have hvisible := congrArg visible h
    rw [visible_strip, visible_strip, visible_unlines_cons, visible_unlines_cons, List.append_left_inj] at hvisible
    exact (visible_tail_eq_iff opening).1 hvisible
  · intro h
    cases opening with
    | nil => rfl
    | cons c opening =>
      have hc : [c].all isBlank = true := by simpa using h c rfl
      have hline : unlines ((c :: opening) :: inner) = [c] ++ unlines (opening :: inner) :=
        unlines_append_cons [c] opening inner
      rw [hline]
      exact (trim_of_all_append hc).symm

theorem splitFrontmatter_of_unclosed {raw : List Char} (hopen : fence <+: strip (unifyNewlines raw))
    (hclosed : ∀ line ∈ (splitAtNewline (strip (unifyNewlines raw))).tail, ¬fence <+: line) :
    splitFrontmatter raw =
      .error (.badFrontmatter "Prompt document has unclosed frontmatter" (.table [])) := by
  obtain ⟨opening, lines, hlines, htext⟩ := exists_opening hopen
  have hfeed : ∀ line ∈ (fence ++ opening) :: lines, '\n' ∉ line := by
    intro line hline
    rw [← hlines] at hline
    exact newline_notMem_of_mem_splitAtNewline hline
  rw [List.forall_mem_cons, List.mem_append, not_or] at hfeed
  rw [hlines, List.tail_cons] at hclosed
  have hnone := splitAtFence_unlines_eq_none hfeed.1.2 fun line hline => ⟨hfeed.2 line hline, hclosed line hline⟩
  have hafter := afterFence?_eq_some_iff.2 htext
  rw [splitFrontmatter]
  simp only [hafter, hnone]

theorem splitFrontmatter_of_unopened {raw : List Char} (h : ¬fence <+: strip (unifyNewlines raw)) :
    splitFrontmatter raw =
      .error (.badFrontmatter "Prompt document must start with frontmatter delimiter (---)" (.table [])) := by
  rw [splitFrontmatter]
  simp only [afterFence?_eq_none_iff.2 h]

theorem splitFrontmatter_eq_unopened_iff {raw : List Char} :
    splitFrontmatter raw =
        .error (.badFrontmatter "Prompt document must start with frontmatter delimiter (---)" (.table [])) ↔
      ¬fence <+: strip (unifyNewlines raw) := by
  refine ⟨fun h hopen => ?_, splitFrontmatter_of_unopened⟩
  by_cases hclosed : ∃ line ∈ (splitAtNewline (strip (unifyNewlines raw))).tail, fence <+: line
  · obtain ⟨opening, inner, closing, below, hfenced⟩ := exists_fenced hopen hclosed
    rw [splitFrontmatter_of_fenced hfenced] at h
    cases h
  · simp [splitFrontmatter_of_unclosed hopen (by simpa using hclosed)] at h

theorem splitFrontmatter_eq_unclosed_iff {raw : List Char} :
    splitFrontmatter raw = .error (.badFrontmatter "Prompt document has unclosed frontmatter" (.table [])) ↔
      fence <+: strip (unifyNewlines raw) ∧
        ∀ line ∈ (splitAtNewline (strip (unifyNewlines raw))).tail, ¬fence <+: line := by
  refine ⟨fun h => ?_, fun h => splitFrontmatter_of_unclosed h.1 h.2⟩
  by_cases hopen : fence <+: strip (unifyNewlines raw)
  · refine ⟨hopen, fun line hline hfence => ?_⟩
    obtain ⟨opening, inner, closing, below, hfenced⟩ := exists_fenced hopen ⟨line, hline, hfence⟩
    rw [splitFrontmatter_of_fenced hfenced] at h
    cases h
  · simp [splitFrontmatter_of_unopened hopen] at h

/-- All visible characters but those of the fences are kept exactly if none stands right behind the opening fence. -/
private theorem Fenced.visible_eq_iff (h : Fenced text opening inner closing below) :
    visible text = fence ++ visible (strip (unlines (opening.tail :: inner))) ++ fence ++
        visible (strip (unlines (closing :: below))) ↔ ∀ c ∈ opening.head?, isBlank c = true := by
  rw [h.visible_eq, visible_strip, visible_strip, visible_unlines_cons opening.tail, ← visible_tail_eq_iff]
  simp only [List.append_assoc, List.append_cancel_left_eq]
  rw [List.append_left_inj]
  exact eq_comm

/-- A document is refused exactly if it does not open with a fence or if no later line starts with one.  Otherwise the
body is what stands behind the first such line's fence, and the block is what stands between the fences without the
character right behind the first one; that is all of it, and no visible character is lost, exactly if that character
is a blank or there is none on its line. -/
theorem splitFrontmatter_faithful_iff (raw : List Char) :
    let text := strip (unifyNewlines raw)
    (splitFrontmatter raw =
        .error (.badFrontmatter "Prompt document must start with frontmatter delimiter (---)" (.table [])) ↔
      ¬fence <+: text) ∧
    (splitFrontmatter raw = .error (.badFrontmatter "Prompt document has unclosed frontmatter" (.table [])) ↔
      fence <+: text ∧ ∀ line ∈ (splitAtNewline text).tail, ¬fence <+: line) ∧
    (fence <+: text ∧ (∃ line ∈ (splitAtNewline text).tail, fence <+: line) →
      ∃ opening inner closing below, Fenced text opening inner closing below ∧
        ∃ f, splitFrontmatter raw = .ok f ∧ f.body = strip (unlines (closing :: below)) ∧
          f.block = strip (unlines (opening.tail :: inner)) ∧
          (f.block = strip (unlines (opening :: inner)) ↔ ∀ c ∈ opening.head?, isBlank c = true) ∧
          (visible text = fence ++ visible f.block ++ fence ++ visible f.body ↔
            ∀ c ∈ opening.head?, isBlank c = true)) := by
  intro text
  refine ⟨splitFrontmatter_eq_unopened_iff, splitFrontmatter_eq_unclosed_iff, fun h => ?_⟩
  obtain ⟨opening, inner, closing, below, hfenced⟩ := exists_fenced h.1 h.2
  exact ⟨opening, inner, closing, below, hfenced, _, splitFrontmatter_of_fenced hfenced, rfl, rfl,
    strip_unlines_tail_iff opening inner, hfenced.visible_eq_iff⟩

/-- The first letter of a key that stands right behind the opening fence is lost. -/
theorem letter_lost_behind_fence :
    Fenced (strip (unifyNewlines "---id: x\n---\nb".toList)) "id: x".toList [] [] ["b".toList] ∧
      splitFrontmatter "---id: x\n---\nb".toList = .ok ⟨"d: x".toList, "b".toList⟩ ∧
      strip (unlines ["id: x".toList]) ≠ "d: x".toList := by
  have hlines : splitAtNewline (strip (unifyNewlines "---id: x\n---\nb".toList)) =
      (fence ++ "id: x".toList) :: [] ++ (fence ++ []) :: ["b".toList] := by decide
  have hfenced : Fenced (strip (unifyNewlines "---id: x\n---\nb".toList)) "id: x".toList [] [] ["b".toList] :=
    ⟨hlines, by simp⟩
  have hblock : strip (unlines ("id: x".toList.tail :: [])) = "d: x".toList := by decide
  have hbody : strip (unlines ([] :: ["b".toList])) = "b".toList := by decide
  refine ⟨hfenced, ?_, by decide⟩
  rw [splitFrontmatter_of_fenced hfenced, hblock, hbody]

end Promptbook.Document
