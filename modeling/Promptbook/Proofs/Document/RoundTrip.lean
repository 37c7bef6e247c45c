import Promptbook.Proofs.Document.Fences
import Promptbook.Proofs.Document.Headings
import Promptbook.Proofs.Document.LayoutFields
import Promptbook.Proofs.Document.Outcomes

/-!
# Reading back what was laid out

A prompt that is laid out as a document is read back from it, whatever its texts hold, unless the literal of its
temperature is an integer with too many digits (`parseDocument_layout`).  The document is followed through its
parts: the fences (`splitFrontmatter_layout`), the headings (`splitTemplates_layoutBody`), the entries of the
block (`parse_blockLines`) and the fields of the prompt (`promptOf_blockOf`).
-/

namespace Promptbook.Document

open Promptbook.Number Promptbook.Text Promptbook.Metadata

/-! ### Headings -/

/-- The body of the document of a prompt. -/
def layoutBody (p : Prompt) : List Char :=
  systemHeading ++ '\n' :: (p.system.toList ++ '\n' :: '\n' :: (userHeading ++
    if p.user.toList.isEmpty then [] else '\n' :: p.user.toList))

/-- The lines below the user heading. -/
private def userLines (p : Prompt) : List (List Char) :=
  if p.user.toList.isEmpty then [] else splitAtNewline p.user.toList

private theorem splitAtNewline_layoutBody (p : Prompt) :
    splitAtNewline (layoutBody p) =
      systemHeading :: ((splitAtNewline p.system.toList ++ [[]]) ++ userHeading :: userLines p) := by
  have hsystem : splitAtNewline systemHeading = [systemHeading] := by decide
  have huser : splitAtNewline userHeading = [userHeading] := by decide
  have hblank : ∀ tail : List Char, p.system.toList ++ '\n' :: '\n' :: tail =
      p.system.toList ++ '\n' :: ([] ++ '\n' :: tail) := fun _ => rfl
  rw [layoutBody, userLines, splitAtNewline_append, hsystem, hblank, splitAtNewline_append, splitAtNewline_append,
    List.append_assoc]
  split
  · rw [List.append_nil, huser]
    rfl
  · rw [splitAtNewline_append, huser]
    rfl

/-- The templates are read back. -/
theorem splitTemplates_layoutBody {t : List Char} {p : Prompt} (h : IsPlain t p) :
    splitTemplates (layoutBody p) = .ok ⟨p.system.toList, p.user.toList⟩ := by
  have hheading : ∀ line ∈ splitAtNewline p.system.toList ++ [[]], isHeading "User" line = false := by
    intro line hline
    rcases List.mem_append.1 hline with hline | hline
    · exact h.heading line hline
    · obtain rfl := List.mem_singleton.1 hline
      rfl
  have hsystem : strip (unlines (splitAtNewline p.system.toList ++ [[]])) = p.system.toList := by
    have hlines : splitAtNewline p.system.toList ++ [[]] = splitAtNewline (p.system.toList ++ ['\n']) :=
      (splitAtNewline_append _ []).symm
    rw [hlines, unlines_splitAtNewline]
    exact (trim_append_of_all (by decide)).trans h.system.1
  have huser : strip (unlines (userLines p)) = p.user.toList := by
    unfold userLines
    split
    · next hnil =>
      rw [List.isEmpty_iff.1 hnil]
      rfl
    · rw [unlines_splitAtNewline]
      exact h.user.1
  have hfirst : isHeading "System" systemHeading = true := by rfl
  have hsecond : isHeading "User" userHeading = true := by rfl
  rw [splitTemplates, splitAtNewline_layoutBody, splitAtLine, if_pos hfirst]
  simp only [splitAtLine_append hheading hsecond, hsystem, huser]

/-! ### The two halves of a document -/

variable {form : Form} {t : List Char} {p : Prompt}

private theorem bare_layoutBody (h : IsPlain t p) : Bare isBlank (layoutBody p) := by
  have hheading : Bare isBlank systemHeading := bare_of_trim_eq_self (by decide)
  have hlast : Bare isBlank userHeading := bare_of_trim_eq_self (by decide)
  have hsystem : systemHeading ≠ [] := by decide
  have huser : userHeading ≠ [] := by decide
  constructor
  · rw [layoutBody, List.head?_append_of_ne_nil _ hsystem]
    exact hheading.1
  · have hend : (layoutBody p).getLast? =
        (userHeading ++ if p.user.toList.isEmpty then [] else '\n' :: p.user.toList).getLast? := by
      have hne : (userHeading ++ if p.user.toList.isEmpty then [] else '\n' :: p.user.toList) ≠ [] := by
        simp [huser]
      rw [layoutBody, List.getLast?_append_of_ne_nil _ (List.cons_ne_nil _ _),
        List.getLast?_cons_of_ne_nil (by simp), List.getLast?_append_of_ne_nil _ (List.cons_ne_nil _ _),
        List.getLast?_cons_of_ne_nil (List.cons_ne_nil _ _), List.getLast?_cons_of_ne_nil hne]
    rw [hend]
    split
    · rw [List.append_nil]
      exact hlast.2
    · next hne =>
      rw [List.isEmpty_iff] at hne
      rw [List.getLast?_append_of_ne_nil _ (List.cons_ne_nil _ _), List.getLast?_cons_of_ne_nil hne]
      exact (bare_of_trim_eq_self h.user.1).2

private theorem layoutSections_eq_cons (form : Form) (t : List Char) (p : Prompt) :
    ∃ ss, layoutSections form t p = ⟨"id", doubleQuoted p.id.toList, []⟩ :: ss :=
  ⟨_, rfl⟩

private theorem blockLines_ne_nil (form : Form) (t : List Char) (p : Prompt) : blockLines form t p ≠ [] := by
  obtain ⟨ss, hss⟩ := layoutSections_eq_cons form t p
  rw [blockLines, hss]
  exact List.cons_ne_nil _ _

/-- The opening fence ends its line, so the block starts on the line below it. -/
private theorem unlines_nil_blockLines (form : Form) (t : List Char) (p : Prompt) :
    unlines ([] :: blockLines form t p) = '\n' :: unlines (blockLines form t p) :=
  unlines_cons_of_ne_nil (blockLines_ne_nil form t p) []

private theorem mem_blockLines (h : IsPlain t p) {line : List Char} (hline : line ∈ blockLines form t p) :
    line ≠ [] ∧ (∀ c ∈ line.getLast?, isBlank c = false) ∧ OneLine line := by
  obtain ⟨s, hs, hmem⟩ := List.mem_flatMap.1 hline
  exact (layoutSections_writable h s hs).line hmem

/-- No line of the block starts with a fence, since list items are indented. -/
private theorem blockLines_not_fence (h : IsPlain t p) {line : List Char} (hline : line ∈ blockLines form t p) :
    ¬fence <+: line := by
  obtain ⟨s, hs, hmem⟩ := List.mem_flatMap.1 hline
  rw [fence_eq]
  rcases List.mem_cons.1 hmem with rfl | hmem
  · obtain ⟨c, rest, hkey, hc, -⟩ := (layoutSections_writable h s hs).key
    rw [hkey]
    rintro ⟨tail, htail⟩
    obtain rfl := (List.cons.inj htail).1
    revert hc
    decide
  · obtain ⟨child, -, rfl⟩ := List.mem_map.1 hmem
    rintro ⟨tail, htail⟩
    cases htail

private theorem bare_blockLines (h : IsPlain t p) : Bare isBlank (unlines (blockLines form t p)) := by
  obtain ⟨ss, hss⟩ := layoutSections_eq_cons form t p
  have hlines := fun line (hline : line ∈ blockLines form t p) => mem_blockLines h hline
  have hid : IsChild (keyLine "id".toList (doubleQuoted p.id.toList)) :=
    .keyLine (isName_of_mem_layoutKeys _ (by simp [layoutKeys])) (.doubleQuoted h.id)
  rw [blockLines, hss, List.flatMap_cons] at hlines ⊢
  exact bare_unlines hid.bare fun l hl => ⟨(hlines l hl).1, (hlines l hl).2.1⟩

private theorem return_notMem_layout (h : IsPlain t p) : '\r' ∉ (layout form t p).toList := by
  rw [layout, String.toList_ofList]
  intro hmem
  have hheadings : '\r' ∉ fence ∧ '\r' ∉ systemHeading ∧ '\r' ∉ userHeading := by decide
  rcases mem_unlines hmem with hfeed | ⟨line, hline, hreturn⟩
  · exact absurd hfeed (by decide)
  · simp only [List.mem_append, List.mem_cons, List.not_mem_nil, or_false] at hline
    rcases hline with (rfl | hline) | rfl | rfl | rfl | rfl | rfl | rfl | rfl | rfl
    · exact hheadings.1 hreturn
    · have := (mem_blockLines h hline).2.2 _ hreturn
      revert this
      decide
    · exact hheadings.1 hreturn
    · cases hreturn
    · exact hheadings.2.1 hreturn
    · exact h.system.2 hreturn
    · cases hreturn
    · exact hheadings.2.2 hreturn
    · exact h.user.2 hreturn
    · cases hreturn

/-- The document without the blanks at its end. -/
private theorem strip_layout (form : Form) (h : IsPlain t p) :
    strip (layout form t p).toList =
      fence ++ (unlines ([] :: blockLines form t p) ++ '\n' :: (fence ++ '\n' :: '\n' :: layoutBody p)) := by
  have htext : (layout form t p).toList = fence ++ '\n' :: (unlines (blockLines form t p) ++ '\n' ::
      (fence ++ '\n' :: '\n' :: (systemHeading ++ '\n' :: (p.system.toList ++ '\n' :: '\n' ::
        (userHeading ++ '\n' :: (p.user.toList ++ ['\n'])))))) := by
    rw [layout, String.toList_ofList, List.append_assoc, unlines_append (by simp) (by simp),
      unlines_append (blockLines_ne_nil form t p) (by simp)]
    rfl
  -- below an empty user template there is one more line feed
  have hbody : ∃ blanks : List Char, blanks.all isBlank = true ∧
      systemHeading ++ '\n' :: (p.system.toList ++ '\n' :: '\n' ::
        (userHeading ++ '\n' :: (p.user.toList ++ ['\n']))) = layoutBody p ++ blanks := by
    rw [layoutBody]
    split
    · next hnil =>
      refine ⟨['\n', '\n'], by decide, ?_⟩
      rw [List.isEmpty_iff.1 hnil]
      simp
    · exact ⟨['\n'], by decide, by simp⟩
  obtain ⟨blanks, hblanks, hbody⟩ := hbody
  rw [htext, hbody, ← List.cons_append, ← unlines_nil_blockLines form t p]
  have hsplit : fence ++ (unlines ([] :: blockLines form t p) ++ '\n' ::
      (fence ++ '\n' :: '\n' :: (layoutBody p ++ blanks))) =
      (fence ++ (unlines ([] :: blockLines form t p) ++ '\n' ::
        (fence ++ '\n' :: '\n' :: layoutBody p))) ++ blanks := by simp
  rw [hsplit, strip, trim_append_of_all hblanks]
  refine trim_eq_self ⟨?_, ?_⟩
  · rw [fence_eq]
    intro c hc
    obtain rfl := Option.some.inj hc
    decide
  · have hne : layoutBody p ≠ [] := by
      have : systemHeading ≠ [] := by decide
      simp [layoutBody, this]
    rw [← List.append_assoc, List.getLast?_append_of_ne_nil _ (List.cons_ne_nil _ _),
      List.getLast?_cons_of_ne_nil (by simp), List.getLast?_append_of_ne_nil _ (List.cons_ne_nil _ _),
      List.getLast?_cons_of_ne_nil (List.cons_ne_nil _ _), List.getLast?_cons_of_ne_nil hne]
    exact (bare_layoutBody h).2

/-- The block and the body are found between and behind the fences. -/
theorem splitFrontmatter_layout (h : IsPlain t p) :
    splitFrontmatter (layout form t p).toList = .ok ⟨unlines (blockLines form t p), layoutBody p⟩ := by
  have hlines : ∀ line ∈ blockLines form t p, '\n' ∉ line ∧ ¬fence <+: line := by
    intro line hline
    refine ⟨fun hfeed => ?_, blockLines_not_fence h hline⟩
    have := (mem_blockLines h hline).2.2 _ hfeed
    revert this
    decide
  have hopen := afterFence?_eq_some_iff.2 (strip_layout form h)
  have hcut := splitAtFence_unlines (List.not_mem_nil : '\n' ∉ []) hlines ('\n' :: '\n' :: layoutBody p)
  have hblock : strip ((unlines ([] :: blockLines form t p)).drop 1) = unlines (blockLines form t p) := by
    rw [unlines_nil_blockLines, List.drop_one, List.tail_cons]
    exact trim_eq_self (bare_blockLines h)
  have hbody : strip ('\n' :: '\n' :: layoutBody p) = layoutBody p :=
    (trim_of_all_append (show ['\n', '\n'].all isBlank = true by decide)).trans
      (trim_eq_self (bare_layoutBody h))
  rw [splitFrontmatter, unifyNewlines_eq_self (return_notMem_layout h)]
  simp only [hopen, hcut, hblock, hbody]

/-! ### Documents -/

private theorem parseDocument_of_parts {raw : String} {lines body : List Char} {block : Block} {templates : Templates}
    (hsplit : splitFrontmatter raw.toList = .ok ⟨lines, body⟩) (hblock : parse lines = .ok block)
    (htemplates : splitTemplates body = .ok templates) : parseDocument raw = promptOf block templates := by
  have hread : readBlock lines = .ok block := by rw [readBlock, hblock]
  simp only [parseDocument_eq, hsplit, hread, htemplates, bind, Except.bind]

private theorem parseDocument_of_misuse {raw : String} {lines body : List Char} {m : Misuse}
    (hsplit : splitFrontmatter raw.toList = .ok ⟨lines, body⟩) (hblock : parse lines = .error m) :
    parseDocument raw = .error (.misuse m) := by
  have hread : readBlock lines = .error (.misuse m) := by rw [readBlock, hblock]
  simp only [parseDocument_eq, hsplit, hread, bind, Except.bind]

private theorem parseDocument_layout_of_short (h : IsPlain t p) (hshort : ¬IsLongInteger t) :
    parseDocument (layout form t p) = .ok p := by
  obtain ⟨i, q, hi, hpresent, hread, hq⟩ := exists_quantity h.literal.1 h.literal.2 hshort
  rw [parseDocument_of_parts (splitFrontmatter_layout h) (parse_blockLines h hi) (splitTemplates_layoutBody h)]
  exact promptOf_blockOf h hpresent hread hq

private theorem parseDocument_layout_of_isLongInteger (form : Form) (h : IsPlain t p)
    (hlong : IsLongInteger t) :
    ∃ digits, digitLimit < digits ∧ parseDocument (layout form t p) = .error (.misuse (.integerTooLong digits)) := by
  obtain ⟨digits, hdigits, hrefused⟩ := parse_blockLines_of_isLongInteger h hlong
  exact ⟨digits, hdigits, parseDocument_of_misuse (splitFrontmatter_layout h) hrefused⟩

/-- A prompt is read back from its document exactly if the literal of its temperature is not an integer with too
many digits; such a literal is refused with a failure that is none of a document. -/
theorem parseDocument_layout (form : Form) {t : List Char} {p : Prompt} (h : IsPlain t p) :
    (parseDocument (layout form t p) = .ok p ↔ ¬IsLongInteger t) ∧
      (IsLongInteger t →
        ∃ digits, digitLimit < digits ∧ parseDocument (layout form t p) =
          .error (.misuse (.integerTooLong digits))) := by
  refine ⟨⟨fun hread hlong => ?_, parseDocument_layout_of_short h⟩, parseDocument_layout_of_isLongInteger form h⟩
  obtain ⟨digits, -, hrefused⟩ := parseDocument_layout_of_isLongInteger form h hlong
  rw [hrefused] at hread
  cases hread

/-- A prompt whose texts look like the structure of a document. -/
def disguised : Prompt where
  id := "copy: site # 1"
  version := 3
  variant := some "b"
  description := "--- \"quoted\" ---"
  models := ["first, second", "[third]"]
  params := ⟨literalFloat "0.3".toList, -1⟩
  inputs := ⟨["topic, tone", "'site'"], []⟩
  outputs := ⟨.html, some "SitePlan"⟩
  notes := [("owner", "# System"), ("id", "- item")]
  system := "---\n# Users"
  user := "# System\nname: \"x\""

theorem disguised_isPlain : IsPlain "0.3".toList disguised where
  id := by decide +kernel
  version := by decide +kernel
  variant := by decide +kernel
  description := by decide +kernel
  models := by decide +kernel
  literal := ⟨.inr (by decide +kernel), by decide +kernel⟩
  temperature := by rw [disguised]
  maxTokens := by decide +kernel
  required := by decide +kernel
  optional := by decide +kernel
  schema := by decide +kernel
  notes := by
    intro n hn
    rcases List.mem_cons.1 hn with rfl | hn
    · exact ⟨isName_iff.2 (by decide +kernel), by decide +kernel⟩
    · obtain rfl := List.mem_singleton.1 hn
      exact ⟨isName_of_mem_layoutKeys _ (by simp [layoutKeys]), by decide +kernel⟩
  noteKeys := by decide +kernel
  system := ⟨by decide +kernel, by decide +kernel⟩
  heading := by decide +kernel
  user := ⟨by decide +kernel, by decide +kernel⟩

theorem parseDocument_layout_disguised :
    IsPlain "0.3".toList disguised ∧ ¬IsLongInteger "0.3".toList ∧
      parseDocument (layout ⟨fun _ => true, true⟩ "0.3".toList disguised) = .ok disguised := by
  have hshort : ¬IsLongInteger "0.3".toList := by decide +kernel
  exact ⟨disguised_isPlain, hshort, (parseDocument_layout ⟨fun _ => true, true⟩ disguised_isPlain).1.2 hshort⟩

/-- The prompt with the temperature that a literal denotes. -/
def withTemperature (u : List Char) (p : Prompt) : Prompt :=
  { p with params := { p.params with temperature := literalFloat u } }

/-- The temperature of a plain prompt may be written as any literal of moderate size. -/
theorem IsPlain.withTemperature {u : List Char} (h : IsPlain t p) (hliteral : IsLiteral u)
    (hsize : literalMagnitude u ≤ 10 ^ 308) : IsPlain u (withTemperature u p) :=
  { h with literal := ⟨hliteral, hsize⟩, temperature := rfl }

/-- An integer literal of too many digits. -/
def longZero : List Char :=
  List.replicate (digitLimit + 1) '0'

/-- A temperature of zero, written with too many digits, is not read back. -/
theorem layout_refused_of_longZero :
    IsPlain longZero (withTemperature longZero disguised) ∧
      ∃ digits, parseDocument (layout ⟨fun _ => false, false⟩ longZero (withTemperature longZero disguised)) =
        .error (.misuse (.integerTooLong digits)) := by
  have hlong : IsLongInteger longZero := by decide +kernel
  have hsize : literalMagnitude longZero ≤ 10 ^ 308 := by decide +kernel
  have hplain := disguised_isPlain.withTemperature (.inl (by decide +kernel)) hsize
  obtain ⟨digits, -, hrefused⟩ := parseDocument_layout_of_isLongInteger _ hplain hlong
  exact ⟨hplain, digits, hrefused⟩

end Promptbook.Document
