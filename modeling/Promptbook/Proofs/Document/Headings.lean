import Promptbook.Document.Templates
import Promptbook.Proofs.Text.Patterns

/-!
# Headings

A body is cut into its templates at two headings.  This can be said line by line, by what a heading is
(`IsHeadingLine`), or by places in the text, where two patterns are searched for one after the other
(`searchTemplates`).  Both say the same, and they say exactly which section is missing (`splitTemplates_by_lines`): a
heading's pattern takes whole lines only (`findsLines_headingPattern`), so its first match from the end of a line on
is the first heading below that line.
-/

namespace Promptbook.Document

open Promptbook.Text

variable {word : String} {line : List Char} {lines : List (List Char)}

/-! ### Headings as lines -/

/-- Is the line a number sign, one or more spaces and tabs, the word in any case, spaces and tabs, and at most one
carriage return? -/
def IsHeadingLine (word : String) (line : List Char) : Prop :=
  ∃ gaps name tail ending, line = '#' :: (gaps ++ (name ++ (tail ++ ending))) ∧ gaps ≠ [] ∧
    (∀ c ∈ gaps, isGap c = true) ∧ name.map foldCase = word.toList.map foldCase ∧ (∀ c ∈ tail, isGap c = true) ∧
    (ending = [] ∨ ending = ['\r'])

/-- Has the word characters, and none that is white space? -/
def IsTitle (word : String) : Prop :=
  word.toList ≠ [] ∧ (word.toList.all fun c => !(foldCase c).isWhitespace) = true

instance (word : String) : Decidable (IsTitle word) :=
  inferInstanceAs (Decidable (_ ∧ _))

private theorem isWhitespace_of_isGap {c : Char} (h : isGap c = true) : c.isWhitespace = true := by
  rcases eq_of_isGap h with rfl | rfl <;> decide

private theorem foldCase_of_isWhitespace {c : Char} (h : c.isWhitespace = true) : foldCase c = c := by
  simp only [Char.isWhitespace, Bool.or_eq_true, decide_eq_true_eq] at h
  rcases h with ((rfl | rfl) | rfl) | rfl <;> decide

/-- Folding keeps white space, so the name of a heading has none. -/
private theorem isWhitespace_of_name {name : List Char} (hword : IsTitle word)
    (hname : name.map foldCase = word.toList.map foldCase) : ∀ c ∈ name, c.isWhitespace = false := by
  intro c hc
  by_contra hspace
  rw [Bool.not_eq_false] at hspace
  have hmem : c ∈ word.toList.map foldCase := by
    rw [← hname, ← foldCase_of_isWhitespace hspace]
    exact List.mem_map_of_mem hc
  obtain ⟨d, hd, rfl⟩ := List.mem_map.1 hmem
  have := List.all_eq_true.1 hword.2 d hd
  simp [hspace] at this

private theorem name_ne_nil {name : List Char} (hword : IsTitle word)
    (hname : name.map foldCase = word.toList.map foldCase) : name ≠ [] := by
  rintro rfl
  exact hword.1 (by simpa using hname.symm)

theorem newline_notMem_of_isHeadingLine (hword : IsTitle word) (h : IsHeadingLine word line) : '\n' ∉ line := by
  obtain ⟨gaps, name, tail, ending, rfl, -, hgaps, hname, htail, hending⟩ := h
  have hgap : ∀ cs : List Char, (∀ c ∈ cs, isGap c = true) → '\n' ∉ cs := by
    intro cs hcs hmem
    have := hcs _ hmem
    revert this
    decide
  have hfeed : '\n' ∉ name := by
    intro hmem
    have := isWhitespace_of_name hword hname _ hmem
    revert this
    decide
  have hend : '\n' ∉ ending := by
    rcases hending with rfl | rfl <;> decide
  simp [hgap gaps hgaps, hfeed, hgap tail htail, hend]

private theorem exists_dropFinalReturn (cs : List Char) :
    ∃ ending, cs = dropFinalReturn cs ++ ending ∧ (ending = [] ∨ ending = ['\r']) := by
  unfold dropFinalReturn
  split
  · next hlast =>
    refine ⟨['\r'], ?_, .inr rfl⟩
    rw [List.dropLast_append_getLast? _ hlast]
  · exact ⟨[], (List.append_nil cs).symm, .inl rfl⟩

private theorem exists_dropEndWhile (p : Char → Bool) (cs : List Char) :
    ∃ tail, cs = dropEndWhile p cs ++ tail ∧ ∀ c ∈ tail, p c = true := by
  refine ⟨(cs.reverse.takeWhile p).reverse, ?_, ?_⟩
  · rw [dropEndWhile, ← List.reverse_append, List.takeWhile_append_dropWhile, List.reverse_reverse]
  · intro c hc
    exact List.mem_takeWhile_imp (List.mem_reverse.1 hc)

theorem dropFinalReturn_eq_self {cs : List Char} (h : '\r' ∉ cs) : dropFinalReturn cs = cs := by
  refine if_neg fun hlast => h ?_
  exact List.mem_of_mem_getLast? hlast

theorem dropFinalReturn_append_return (cs : List Char) : dropFinalReturn (cs ++ ['\r']) = cs := by
  simp [dropFinalReturn]

/-- Nothing but the name is left of a heading when the gaps around it and a carriage return are dropped. -/
private theorem title_eq {gaps name tail ending : List Char} (hne : name ≠ [])
    (hspace : ∀ c ∈ name, c.isWhitespace = false) (hgaps : ∀ c ∈ gaps, isGap c = true)
    (htail : ∀ c ∈ tail, isGap c = true) (hending : ending = [] ∨ ending = ['\r']) :
    dropEndWhile isGap (dropFinalReturn ((gaps ++ (name ++ (tail ++ ending))).dropWhile isGap)) = name := by
  have hgap : ∀ c ∈ name, isGap c = false := by
    intro c hc
    by_contra h
    rw [Bool.not_eq_false] at h
    have := isWhitespace_of_isGap h
    rw [hspace c hc] at this
    cases this
  have hfront : (gaps ++ (name ++ (tail ++ ending))).dropWhile isGap = name ++ (tail ++ ending) := by
    cases name with
    | nil => exact absurd rfl hne
    | cons c name =>
      rw [List.dropWhile_append_of_pos hgaps, List.cons_append,
        List.dropWhile_cons_of_neg (by simp [hgap c List.mem_cons_self])]
  have hreturn : dropFinalReturn (name ++ (tail ++ ending)) = name ++ tail := by
    rcases hending with rfl | rfl
    · rw [List.append_nil]
      refine dropFinalReturn_eq_self fun hmem => ?_
      rcases List.mem_append.1 hmem with hmem | hmem
      · have := hspace _ hmem
        revert this
        decide
      · have := htail _ hmem
        revert this
        decide
    · rw [← List.append_assoc, dropFinalReturn_append_return]
  have hend : dropEndWhile isGap (name ++ tail) = name := by
    have hback : ∀ c ∈ tail.reverse, isGap c = true := fun c hc => htail c (List.mem_reverse.1 hc)
    rw [dropEndWhile, List.reverse_append, List.dropWhile_append_of_pos hback]
    refine List.rdropWhile_eq_self_iff.2 fun hname => ?_
    simp [hgap _ (List.getLast_mem hname)]
  rw [hfront, hreturn, hend]

/-- The test for a heading decides what a heading is. -/
theorem isHeading_iff (hword : IsTitle word) : isHeading word line = true ↔ IsHeadingLine word line := by
  constructor
  · intro h
    unfold isHeading at h
    split at h
    · next rest =>
      rw [Bool.and_eq_true, beq_iff_eq] at h
      obtain ⟨hgap, htitle⟩ := h
      obtain ⟨ending, hending, hreturn⟩ := exists_dropFinalReturn (rest.dropWhile isGap)
      obtain ⟨tail, htail, hgaps⟩ := exists_dropEndWhile isGap (dropFinalReturn (rest.dropWhile isGap))
      refine ⟨rest.takeWhile isGap, _, tail, ending, ?_, ?_, fun c hc => List.mem_takeWhile_imp hc, htitle, hgaps,
        hreturn⟩
      · rw [← List.append_assoc _ tail, ← htail, ← hending, List.takeWhile_append_dropWhile]
      · cases rest with
        | nil => cases hgap
        | cons c rest => simpa using hgap
    · cases h
  · rintro ⟨gaps, name, tail, ending, rfl, hne, hgaps, hname, htail, hending⟩
    have htitle := title_eq (name_ne_nil hword hname) (isWhitespace_of_name hword hname) hgaps htail hending
    unfold isHeading
    simp only [htitle, hname, beq_self_eq_true, Bool.and_true]
    cases gaps with
    | nil => exact absurd rfl hne
    | cons c gaps => exact hgaps c List.mem_cons_self

/-! ### Headings as a pattern -/

/-- The pattern of a heading: a line that starts with a number sign and a gap, goes on with gaps, the word in any case
and gaps, and ends there or with a carriage return. -/
def headingPattern (word : String) : List Atom :=
  [.lineStart, .one (· == '#'), .one isGap, .run isGap] ++
    (word.toList.map fun c => .one fun d => foldCase d == foldCase c) ++
    [.run isGap, .atMostOne (· == '\r'), .lineEnd]

private theorem matches_word {before mark after : List Char} (cs : List Char) :
    Matches before mark after (cs.map fun c => .one fun d => foldCase d == foldCase c) ↔
      mark.map foldCase = cs.map foldCase := by
  induction cs generalizing before mark with
  | nil => simp [Matches]
  | cons c cs ih =>
    simp only [List.map_cons, Matches, Atom.Takes, ih, beq_iff_eq]
    constructor
    · rintro ⟨_, rest, rfl, ⟨d, rfl, hd⟩, hrest⟩
      rw [List.singleton_append, List.map_cons, hd, hrest]
    · intro h
      cases mark with
      | nil => cases h
      | cons d mark =>
        rw [List.map_cons, List.cons.injEq] at h
        exact ⟨[d], mark, rfl, ⟨d, rfl, h.1⟩, h.2⟩

theorem findsLines_headingPattern (hword : IsTitle word) : FindsLines (headingPattern word) (IsHeadingLine word) := by
  refine ⟨fun before mark after => ?_, fun mark => newline_notMem_of_isHeadingLine hword⟩
  simp only [headingPattern, matches_append, matches_word]
  simp only [Matches, Atom.Takes, beq_iff_eq]
  constructor
  · rintro ⟨_, back, rfl, ⟨front, name, rfl, ⟨_, _, rfl, ⟨rfl, hstart⟩, _, _, rfl, ⟨_, rfl, rfl⟩, _, _, rfl,
      ⟨gap, rfl, hgap⟩, gaps, _, rfl, hgaps, rfl⟩, hname⟩, tail, _, rfl, htail, ending, _, rfl, hending, _, _, rfl,
      ⟨rfl, hend⟩, rfl⟩
    refine ⟨hstart, ⟨gap :: gaps, name, tail, ending, by simp, List.cons_ne_nil _ _, ?_, hname, htail, ?_⟩,
      by simpa using hend⟩
    · exact List.forall_mem_cons.2 ⟨hgap, hgaps⟩
    · rcases hending with rfl | ⟨c, rfl, rfl⟩
      · exact .inl rfl
      · exact .inr rfl
  · rintro ⟨hstart, ⟨gaps, name, tail, ending, rfl, hne, hgaps, hname, htail, hending⟩, hend⟩
    cases gaps with
    | nil => exact absurd rfl hne
    | cons gap gaps =>
      rw [List.forall_mem_cons] at hgaps
      have hlast : ending = [] ∨ ∃ c, ending = [c] ∧ c = '\r' := by
        rcases hending with rfl | rfl
        · exact .inl rfl
        · exact .inr ⟨'\r', rfl, rfl⟩
      refine ⟨'#' :: gap :: (gaps ++ name), tail ++ ending, by simp, ⟨'#' :: gap :: gaps, name, by simp,
        ⟨[], _, rfl, ⟨rfl, hstart⟩, ['#'], _, rfl, ⟨'#', rfl, rfl⟩, [gap], _, rfl, ⟨gap, rfl, hgaps.1⟩, gaps, [],
          by simp, hgaps.2, rfl⟩, hname⟩, tail, ending, rfl, htail, ending, [], by simp, hlast, [], [], rfl,
          ⟨rfl, by simpa using hend⟩, rfl⟩

/-- The templates that two searches cut out: one for the first system heading, and from the end of its line on one for
the first user heading. -/
def searchTemplates (body : List Char) : Except Failure Templates :=
  match search? body (headingPattern "System") 0 with
  | none => .error (.missingSection "System")
  | some (_, systemEnd) =>
    match search? body (headingPattern "User") systemEnd with
    | none => .error (.missingSection "User")
    | some (userStart, userEnd) => .ok ⟨strip ((body.take userStart).drop systemEnd), strip (body.drop userEnd)⟩

/-! ### The first line of a kind -/

variable {above inner below : List (List Char)} {first second : List Char}

theorem splitAtLine_eq_none {q : List Char → Bool} (h : ∀ l ∈ lines, q l = false) : splitAtLine q lines = none := by
  induction lines with
  | nil => rfl
  | cons line lines ih =>
    rw [List.forall_mem_cons] at h
    rw [splitAtLine, if_neg (by simp [h.1]), ih h.2]
    rfl

theorem splitAtLine_append {q : List Char → Bool} (habove : ∀ l ∈ above, q l = false) (hline : q line = true) :
    splitAtLine q (above ++ line :: below) = some (above, below) := by
  induction above with
  | nil => rw [List.nil_append, splitAtLine, if_pos hline]
  | cons l above ih =>
    rw [List.forall_mem_cons] at habove
    rw [List.cons_append, splitAtLine, if_neg (by simp [habove.1]), ih habove.2]
    rfl

/-! ### The shapes of a body -/

/-- Is no line of the body a system heading? -/
def LacksSystem (body : List Char) : Prop :=
  ∀ line ∈ splitAtNewline body, ¬IsHeadingLine "System" line

/-- Is a line of the body a system heading, and no line below the first one a user heading? -/
def LacksUser (body : List Char) : Prop :=
  ∃ above first below, splitAtNewline body = above ++ first :: below ∧
    (∀ line ∈ above, ¬IsHeadingLine "System" line) ∧ IsHeadingLine "System" first ∧
    ∀ line ∈ below, ¬IsHeadingLine "User" line

/-- The lines of a body around its first system heading and the first user heading below it. -/
structure Sectioned (body : List Char) (above : List (List Char)) (first : List Char) (inner : List (List Char))
    (second : List Char) (below : List (List Char)) : Prop where
  lines : splitAtNewline body = above ++ first :: (inner ++ second :: below)
  noSystem : ∀ line ∈ above, ¬IsHeadingLine "System" line
  system : IsHeadingLine "System" first
  noUser : ∀ line ∈ inner, ¬IsHeadingLine "User" line
  user : IsHeadingLine "User" second

variable {body : List Char}

theorem sectioned_cases (body : List Char) :
    LacksSystem body ∨ LacksUser body ∨
      ∃ above first inner second below, Sectioned body above first inner second below := by
  rcases exists_first_line (IsHeadingLine "System") (splitAtNewline body)
    with hnone | ⟨above, first, rest, hlines, habove, hfirst⟩
  · exact .inl hnone
  · rcases exists_first_line (IsHeadingLine "User") rest with hnone | ⟨inner, second, below, rfl, hinner, hsecond⟩
    · exact .inr (.inl ⟨above, first, rest, hlines, habove, hfirst, hnone⟩)
    · exact .inr (.inr ⟨above, first, inner, second, below, hlines, habove, hfirst, hinner, hsecond⟩)

theorem isTitle_system : IsTitle "System" := by decide

theorem isTitle_user : IsTitle "User" := by decide

private theorem isHeading_eq_false (hword : IsTitle word) (h : ∀ l ∈ lines, ¬IsHeadingLine word l) :
    ∀ l ∈ lines, isHeading word l = false := by
  intro l hl
  have := mt (isHeading_iff hword).1 (h l hl)
  simpa using this

/-! ### Reading the shapes line by line -/

theorem LacksSystem.splitTemplates_eq (h : LacksSystem body) :
    splitTemplates body = .error (.missingSection "System") := by
  rw [splitTemplates, splitAtLine_eq_none (isHeading_eq_false isTitle_system h)]

theorem LacksUser.splitTemplates_eq (h : LacksUser body) :
    splitTemplates body = .error (.missingSection "User") := by
  obtain ⟨above, first, below, hlines, habove, hfirst, hbelow⟩ := h
  have hsystem := isHeading_eq_false isTitle_system habove
  have huser := isHeading_eq_false isTitle_user hbelow
  simp only [splitTemplates, hlines, splitAtLine_append hsystem ((isHeading_iff isTitle_system).2 hfirst),
    splitAtLine_eq_none huser]

theorem Sectioned.splitTemplates_eq (h : Sectioned body above first inner second below) :
    splitTemplates body = .ok ⟨strip (unlines inner), strip (unlines below)⟩ := by
  have hsystem := isHeading_eq_false isTitle_system h.noSystem
  have huser := isHeading_eq_false isTitle_user h.noUser
  simp only [splitTemplates, h.lines, splitAtLine_append hsystem ((isHeading_iff isTitle_system).2 h.system),
    splitAtLine_append huser ((isHeading_iff isTitle_user).2 h.user)]

/-! ### Searching the shapes -/

private theorem heading_ne_nil (h : IsHeadingLine word line) : line ≠ [] := by
  obtain ⟨gaps, name, tail, ending, rfl, -⟩ := h
  exact List.cons_ne_nil _ _

/-- The lines of a body hold no line feed. -/
private theorem oneLine_of_lines (body : List Char) {q : List Char → Prop}
    (hlines : ∀ l ∈ lines, l ∈ splitAtNewline body) (h : ∀ l ∈ lines, ¬q l) : ∀ l ∈ lines, '\n' ∉ l ∧ ¬q l := by
  intro l hl
  exact ⟨newline_notMem_of_mem_splitAtNewline (hlines l hl), h l hl⟩

/-- The search for the system heading stops at the first one. -/
private theorem search_system (hlines : splitAtNewline body = above ++ first :: below)
    (habove : ∀ l ∈ above, ¬IsHeadingLine "System" l) (hfirst : IsHeadingLine "System" first) :
    search? body (headingPattern "System") 0 =
      some ((endedLines above).length, (endedLines above ++ first).length) := by
  have hfeed := oneLine_of_lines body (by simp +contextual [hlines]) habove
  have hfound := (findsLines_headingPattern isTitle_system).search?_eq_some startsLine_nil hfeed
    hfirst (endsLine_begunLines below)
  rw [← unlines_splitAtNewline body, hlines, unlines_append_line, List.length_append]
  exact hfound

theorem LacksSystem.searchTemplates_eq (h : LacksSystem body) :
    searchTemplates body = .error (.missingSection "System") := by
  have hnone : search? body (headingPattern "System") 0 = none := by
    have hfeed := oneLine_of_lines body (fun _ hl => hl) h
    cases hlines : splitAtNewline body with
    | nil => exact absurd hlines (splitAtNewline_ne_nil body)
    | cons line lines =>
      rw [hlines] at hfeed
      rw [← unlines_splitAtNewline body, hlines, unlines_cons]
      exact (findsLines_headingPattern isTitle_system).search?_eq_none startsLine_nil hfeed
  rw [searchTemplates, hnone]

theorem LacksUser.searchTemplates_eq (h : LacksUser body) :
    searchTemplates body = .error (.missingSection "User") := by
  obtain ⟨above, first, below, hlines, habove, hfirst, hbelow⟩ := h
  have hfeed := oneLine_of_lines body (by simp +contextual [hlines]) hbelow
  have htext : body = endedLines above ++ first ++ begunLines below := by
    rw [← unlines_splitAtNewline body, hlines, unlines_append_line, List.append_assoc]
  have hnone : search? body (headingPattern "User") (endedLines above ++ first).length = none := by
    rw [htext]
    exact (findsLines_headingPattern isTitle_user).search?_below_eq_none _ (heading_ne_nil hfirst)
      (newline_notMem_of_isHeadingLine isTitle_system hfirst) hfeed
  rw [searchTemplates, search_system hlines habove hfirst]
  simp only [hnone]

theorem Sectioned.searchTemplates_eq (h : Sectioned body above first inner second below) :
    searchTemplates body = .ok ⟨strip (unlines inner), strip (unlines below)⟩ := by
  have hfeed := oneLine_of_lines body (by simp +contextual [h.lines]) h.noUser
  have htext : body = endedLines above ++ first ++ '\n' :: (endedLines inner ++ (second ++ begunLines below)) := by
    rw [← unlines_splitAtNewline body, h.lines, unlines_append_line, begunLines_append_line, List.append_assoc]
  have huser := (findsLines_headingPattern isTitle_user).search?_below_eq_some (endedLines above)
    (heading_ne_nil h.system) (newline_notMem_of_isHeadingLine isTitle_system h.system) hfeed h.user
    (endsLine_begunLines below)
  have hcut : body = (endedLines above ++ first) ++ (['\n'] ++ endedLines inner) ++ (second ++ begunLines below) := by
    simp [htext]
  have hsystem : (body.take (endedLines above ++ first ++ ['\n'] ++ endedLines inner).length).drop
      (endedLines above ++ first).length = ['\n'] ++ endedLines inner := by
    rw [hcut, List.append_assoc _ ['\n'], List.take_left, List.drop_left]
  have hrest :
      body.drop (endedLines above ++ first ++ ['\n'] ++ endedLines inner ++ second).length = begunLines below := by
    rw [hcut, ← List.append_assoc _ second, ← List.append_assoc _ ['\n'], List.drop_left]
  rw [← htext, ← List.length_append] at huser
  rw [searchTemplates, search_system h.lines h.noSystem h.system]
  have hfront : strip (['\n'] ++ endedLines inner) = strip (unlines inner) :=
    (trim_of_all_append (by decide)).trans (strip_endedLines inner)
  simp only [huser, hsystem, hrest, hfront, strip_begunLines]

/-! ### One reading -/

theorem splitTemplates_eq_missing_system_iff :
    splitTemplates body = .error (.missingSection "System") ↔ LacksSystem body := by
  refine ⟨fun hread => ?_, LacksSystem.splitTemplates_eq⟩
  rcases sectioned_cases body with hsystem | huser | ⟨above, first, inner, second, below, h⟩
  · exact hsystem
  · simp [huser.splitTemplates_eq] at hread
  · simp [h.splitTemplates_eq] at hread

theorem splitTemplates_eq_missing_user_iff :
    splitTemplates body = .error (.missingSection "User") ↔ LacksUser body := by
  refine ⟨fun hread => ?_, LacksUser.splitTemplates_eq⟩
  rcases sectioned_cases body with hsystem | huser | ⟨above, first, inner, second, below, h⟩
  · simp [hsystem.splitTemplates_eq] at hread
  · exact huser
  · simp [h.splitTemplates_eq] at hread

/-- Searching for the headings gives the templates that reading line by line gives. -/
theorem searchTemplates_eq_splitTemplates (body : List Char) : searchTemplates body = splitTemplates body := by
  rcases sectioned_cases body with hsystem | huser | ⟨above, first, inner, second, below, h⟩
  · exact hsystem.searchTemplates_eq.trans hsystem.splitTemplates_eq.symm
  · exact huser.searchTemplates_eq.trans huser.splitTemplates_eq.symm
  · exact h.searchTemplates_eq.trans h.splitTemplates_eq.symm

/-- The two searches and the reading line by line agree on every body.  The first system heading and the first user
heading below it are cut out; if one of them is missing, the failure says which. -/
theorem splitTemplates_by_lines (body : List Char) :
    searchTemplates body = splitTemplates body ∧
      (splitTemplates body = .error (.missingSection "System") ↔ LacksSystem body) ∧
      (splitTemplates body = .error (.missingSection "User") ↔ LacksUser body) ∧
      (LacksSystem body ∨ LacksUser body ∨ ∃ above first inner second below,
        Sectioned body above first inner second below ∧
          splitTemplates body = .ok ⟨strip (unlines inner), strip (unlines below)⟩) := by
  refine ⟨searchTemplates_eq_splitTemplates body, splitTemplates_eq_missing_system_iff,
    splitTemplates_eq_missing_user_iff, ?_⟩
  rcases sectioned_cases body with hsystem | huser | ⟨above, first, inner, second, below, h⟩
  · exact .inl hsystem
  · exact .inr (.inl huser)
  · exact .inr (.inr ⟨above, first, inner, second, below, h, h.splitTemplates_eq⟩)

end Promptbook.Document
