import Promptbook.Proofs.Metadata.Sections

/-!
# Comments and blank lines

A line that is blank or a comment (`IsInert`) means nothing by itself, but at the margin a comment ends the children
of the entry above it.  So such a line may be inserted anywhere, except at the margin inside an entry whose children
go on below it; there the children below it are not read, and at every place inside an open entry some child would be
lost (`insert_inert`).  `probes` are children of which one changes any entry.
-/

namespace Promptbook.Metadata

open Promptbook.Text

variable {xs ys zs above below lines : List (List Char)} {line : List Char}

/-! ### Inert lines -/

/-- Is the line blank or a comment: is its first character that is no blank, if it has one, a number sign? -/
def IsInert (line : List Char) : Prop :=
  ∀ c ∈ line.find? fun c => !isBlank c, c = '#'

theorem isContent_eq_false_iff : isContent line = false ↔ IsInert line := by
  rw [IsInert, ← head?_trim, ← strip, isContent]
  cases strip line with
  | nil => simp
  | cons c rest => simp

/-- No key stands on a blank line or in a comment. -/
theorem readKey?_of_isInert (hinert : IsInert line) : readKey? line = none := by
  cases line with
  | nil => rfl
  | cons c rest =>
    have hc : isNameStart c = false := by
      by_contra hname
      rw [Bool.not_eq_false] at hname
      have hfirst : c ∈ (c :: rest).find? fun c => !isBlank c := by simp [isBlank_of_isNameStart hname]
      obtain rfl := hinert c hfirst
      revert hname
      decide
    simp [readKey?, splitName?, hc]

/-! ### Lines at the margin -/

/-- The lines from the first one at the margin on. -/
def fromMargin (lines : List (List Char)) : List (List Char) :=
  lines.dropWhile fun line => !isOutdented line

/-- Does a line with content stand above the first line at the margin? -/
def StartsWithChild (lines : List (List Char)) : Prop :=
  ∃ line ∈ lines.takeWhile fun line => !isOutdented line, isContent line = true

/-- Is the last line at the margin a key without a value, so that lines with content below it are its children? -/
def EndsOpen (lines : List (List Char)) : Prop :=
  ∃ line ∈ lines.reverse.find? isOutdented, ∃ key, readKey? line = some (key, [])

theorem gather_fromMargin (lines : List (List Char)) : gather (fromMargin lines) = ([], (gather lines).2) := by
  induction lines with
  | nil => rfl
  | cons line lines ih =>
    by_cases hline : isOutdented line = true
    · rw [fromMargin, List.dropWhile_cons_of_neg (by simpa using hline)]
      exact Prod.ext (gather_fst_of_outdented hline lines) rfl
    · have hskip : fromMargin (line :: lines) = fromMargin lines := List.dropWhile_cons_of_pos (by simpa using hline)
      rw [hskip, ih, gather, if_neg hline]
      split <;> rfl

theorem gather_fst_eq_nil_iff : (gather lines).1 = [] ↔ ¬StartsWithChild lines := by
  induction lines with
  | nil => simp [gather, StartsWithChild]
  | cons line lines ih =>
    by_cases hline : isOutdented line = true
    · have hnone : ¬StartsWithChild (line :: lines) := by
        rintro ⟨l, hl, -⟩
        rw [List.takeWhile_cons_of_neg (by simpa using hline)] at hl
        cases hl
      simp [gather_fst_of_outdented hline, hnone]
    · rw [StartsWithChild, List.takeWhile_cons_of_pos (by simpa using hline), List.exists_mem_cons_iff,
        ← StartsWithChild, gather, if_neg hline]
      split
      · next hcontent => simp [hcontent]
      · next hcontent => simpa [hcontent] using ih

/-- Lines at whose end no entry has begun, or those up to the last line at the margin and the indented ones below
it. -/
theorem split_at_margin (lines : List (List Char)) :
    (∀ l ∈ lines, isOutdented l = false) ∨
      ∃ above line below, lines = above ++ line :: below ∧ line ∈ lines.reverse.find? isOutdented ∧
        isOutdented line = true ∧ ∀ l ∈ below, isOutdented l = false := by
  cases hlast : lines.reverse.find? isOutdented with
  | none =>
    left
    intro l hl
    simpa using List.find?_eq_none.1 hlast l (List.mem_reverse.2 hl)
  | some line =>
    right
    obtain ⟨hline, below, above, hlines, hbelow⟩ := List.find?_eq_some_iff_append.1 hlast
    refine ⟨above.reverse, line, below.reverse, ?_, rfl, hline, fun l hl => ?_⟩
    · simpa using congrArg List.reverse hlines
    · simpa using hbelow l (List.mem_reverse.1 hl)

/-- The lines above the last line at the margin are read by themselves, and what stands there without a key is passed
over with the lines below it. -/
theorem readLines_of_no_key (hline : isOutdented line = true) (hkey : readKey? line = none)
    (hbelow : ∀ l ∈ below, isOutdented l = false) (above ys : List (List Char)) :
    readLines (above ++ line :: below ++ ys) =
      readLines above >>= fun block => readSections block (sections ys) := by
  rw [List.append_assoc, List.cons_append, readLines,
    sections_append_of_margin _ (gather_fst_of_outdented hline _), sections_cons_of_no_key hkey,
    sections_append_of_indented hbelow, readSections_append]
  rfl

/-- A key on the last line at the margin takes the children that stand below it. -/
theorem readLines_of_key {key : String} {value : List Char} (hkey : readKey? line = some (key, value))
    (hbelow : ∀ l ∈ below, isOutdented l = false) (above ys : List (List Char)) :
    readLines (above ++ line :: below ++ ys) =
      readLines above >>= fun block =>
        Section.entry ⟨key, value, (gather below).1 ++ (gather ys).1⟩ >>= fun entry =>
          readSections (block.put key entry) (sections ys) := by
  rw [List.append_assoc, List.cons_append, readLines,
    sections_append_of_margin _ (gather_fst_of_outdented (isOutdented_of_readKey? hkey) _), sections_cons_of_key hkey,
    sections_append_of_indented hbelow, gather_append_of_indented hbelow, readSections_append]
  rfl

/-! ### Children that make no difference -/

/-- Below lines at whose end no entry is open, only entries count. -/
theorem readLines_of_not_endsOpen (h : ¬EndsOpen xs) (hsections : sections ys = sections zs) :
    readLines (xs ++ ys) = readLines (xs ++ zs) := by
  rcases split_at_margin xs with hindented | ⟨above, line, below, rfl, hlast, hline, hbelow⟩
  · rw [readLines, readLines, sections_append_of_indented hindented, sections_append_of_indented hindented, hsections]
  · cases hkey : readKey? line with
    | none => rw [readLines_of_no_key hline hkey hbelow, readLines_of_no_key hline hkey hbelow, hsections]
    | some e =>
      obtain ⟨key, value⟩ := e
      have hvalue : value ≠ [] := by
        rintro rfl
        exact h ⟨line, hlast, key, hkey⟩
      rw [readLines_of_key hkey hbelow, readLines_of_key hkey hbelow, hsections, Section.entry_value hvalue,
        Section.entry_value hvalue]

/-! ### Refused lines -/

theorem parseMapping_append (items : Entries Item) (cs ds : List (List Char)) :
    parseMapping items (cs ++ ds) = parseMapping items cs >>= fun items => parseMapping items ds := by
  induction cs generalizing items with
  | nil => rfl
  | cons c cs ih =>
    rw [List.cons_append, parseMapping, parseMapping]
    cases readKey? c with
    | none => exact ih items
    | some e =>
      simp only
      cases parseItem e.2 with
      | error m => rfl
      | ok item => exact ih (items.put e.1 item)

/-- An entry that is refused stays refused with more children. -/
theorem Section.entry_append_of_error {key : String} {value : List Char} {cs : List (List Char)} {m : Misuse}
    (h : Section.entry ⟨key, value, cs⟩ = .error m) (ds : List (List Char)) :
    Section.entry ⟨key, value, cs ++ ds⟩ = .error m := by
  by_cases hvalue : value = []
  · subst hvalue
    cases cs with
    | nil => cases h
    | cons c cs =>
      by_cases hbullet : (bullet? c).isSome = true
      · rw [Section.entry_bullets hbullet, map_eq_error_iff] at h
        rw [List.cons_append, Section.entry_bullets hbullet, ← List.cons_append, List.filterMap_append,
          List.mapM_append, h]
        rfl
      · rw [Section.entry_fields hbullet, map_eq_error_iff] at h
        rw [List.cons_append, Section.entry_fields hbullet, ← List.cons_append, parseMapping_append, h]
        rfl
  · rw [Section.entry_value hvalue, ← Section.entry_value hvalue key cs, h]

/-- Lines that are refused stay refused, whatever stands below them. -/
theorem readLines_append_of_error {m : Misuse} (h : readLines xs = .error m) (ys : List (List Char)) :
    readLines (xs ++ ys) = .error m := by
  rcases split_at_margin xs with hindented | ⟨above, line, below, rfl, -, hline, hbelow⟩
  · have hnone := sections_append_of_indented hindented []
    rw [List.append_nil] at hnone
    rw [readLines, hnone] at h
    cases h
  · rw [← List.append_nil (above ++ line :: below)] at h
    cases hkey : readKey? line with
    | none =>
      rw [readLines_of_no_key hline hkey hbelow, bind_eq_error_iff] at h
      rcases h with habove | ⟨block, -, hnone⟩
      · rw [readLines_of_no_key hline hkey hbelow, habove]
        rfl
      · cases hnone
    | some e =>
      obtain ⟨key, value⟩ := e
      rw [readLines_of_key hkey hbelow, bind_eq_error_iff] at h
      rw [readLines_of_key hkey hbelow]
      rcases h with habove | ⟨block, habove, hlast⟩
      · rw [habove]
        rfl
      · rw [show (gather []).1 = [] from rfl, List.append_nil, bind_eq_error_iff] at hlast
        rcases hlast with hentry | ⟨entry, -, hnone⟩
        · rw [habove, Section.entry_append_of_error hentry]
          rfl
        · cases hnone

/-! ### Children that make a difference -/

/-- Children of which one changes any entry that it is added to: a list item, a key, and the key with a value. -/
def probes : List (List Char) :=
  ["- a".toList, "a:".toList, "a: a".toList]

theorem gather_probe {child : List Char} (h : child ∈ probes) : gather [' ' :: child] = ([child], []) := by
  simp only [probes, List.mem_cons, List.not_mem_nil, or_false] at h
  rcases h with rfl | rfl | rfl <;> rfl

theorem Section.exists_probe {key : String} {cs : List (List Char)} {entry : Entry}
    (h : Section.entry ⟨key, [], cs⟩ = .ok entry) :
    ∃ child ∈ probes, ∃ other, Section.entry ⟨key, [], cs ++ [child]⟩ = .ok other ∧ other ≠ entry := by
  cases cs with
  | nil =>
    obtain rfl := Except.ok.inj h
    refine ⟨"a:".toList, by simp [probes], .mapping [("a", .scalar .null)], rfl, ?_⟩
    intro heq
    cases heq
  | cons c cs =>
    by_cases hbullet : (bullet? c).isSome = true
    · -- a list becomes longer by another item
      rw [Section.entry_bullets hbullet, map_eq_ok_iff] at h
      obtain ⟨items, hread, rfl⟩ := h
      refine ⟨"- a".toList, by simp [probes], .item (.list (items ++ [.text "a"])), ?_, ?_⟩
      · rw [List.cons_append, Section.entry_bullets hbullet, ← List.cons_append, List.filterMap_append,
          List.mapM_append, hread]
        rfl
      · intro heq
        simp at heq
    · -- of two values for one key at most one is the value that the key had
      rw [Section.entry_fields hbullet, map_eq_ok_iff] at h
      obtain ⟨items, hread, rfl⟩ := h
      have hprobe : ∀ child, Section.entry ⟨key, [], c :: cs ++ [child]⟩ =
          (parseMapping items [child]).map .mapping := by
        intro child
        rw [List.cons_append, Section.entry_fields hbullet, ← List.cons_append, parseMapping_append, hread]
        rfl
      by_cases hkept : items.put "a" (.scalar .null) = items
      · refine ⟨"a: a".toList, by simp [probes], .mapping (items.put "a" (.scalar (.text "a"))), hprobe _, ?_⟩
        intro heq
        have hnull := Entries.get?_put_self items "a" (.scalar .null)
        have htext := Entries.get?_put_self items "a" (.scalar (.text "a"))
        rw [Entry.mapping.inj heq, ← hkept, hnull] at htext
        cases htext
      · exact ⟨"a:".toList, by simp [probes], .mapping (items.put "a" (.scalar .null)), hprobe _,
          fun heq => hkept (Entry.mapping.inj heq)⟩

/-! ### Inserting a line -/

theorem readLines_congr (xs : List (List Char)) (h : gather ys = gather zs) :
    readLines (xs ++ ys) = readLines (xs ++ zs) := by
  rw [readLines, readLines, sections, sections, gather_append_congr xs h]

/-- A comment at the margin is read as the end of the children above it. -/
theorem gather_cons_of_isInert (hline : IsInert line) (hmargin : isOutdented line = true) (ys : List (List Char)) :
    gather (line :: ys) = ([], (gather ys).2) := by
  rw [gather, if_pos hmargin, readKey?_of_isInert hline]

theorem readLines_insert_comment (hline : IsInert line) (hmargin : isOutdented line = true)
    (xs ys : List (List Char)) : readLines (xs ++ line :: ys) = readLines (xs ++ fromMargin ys) := by
  refine readLines_congr xs ?_
  rw [gather_cons_of_isInert hline hmargin, gather_fromMargin]

/-- Only where an open entry goes on can a comment at the margin make a difference. -/
theorem readLines_insert (hline : IsInert line)
    (hcut : ¬(isOutdented line = true ∧ EndsOpen xs ∧ StartsWithChild ys)) :
    readLines (xs ++ line :: ys) = readLines (xs ++ ys) := by
  by_cases hmargin : isOutdented line = true
  · by_cases hxs : EndsOpen xs
    · have hchild : ¬StartsWithChild ys := fun hchild => hcut ⟨hmargin, hxs, hchild⟩
      refine readLines_congr xs ?_
      rw [gather_cons_of_isInert hline hmargin, ← gather_fst_eq_nil_iff.2 hchild]
    · exact readLines_of_not_endsOpen hxs (sections_cons_of_no_key (readKey?_of_isInert hline) ys)
  · rw [Bool.not_eq_true] at hmargin
    exact readLines_congr xs (gather_cons_of_idle hmargin (isContent_eq_false_iff.2 hline) ys)

/-- Inside an open entry that is read, some child is lost below a comment at the margin. -/
theorem exists_child_lost (hline : IsInert line) (hmargin : isOutdented line = true) (hxs : EndsOpen xs)
    {block : Block} (hread : readLines xs = .ok block) :
    ∃ child ∈ probes, readLines (xs ++ line :: [' ' :: child]) ≠ readLines (xs ++ [' ' :: child]) := by
  obtain ⟨last, hlast, key, hkey⟩ := hxs
  rcases split_at_margin xs with hindented | ⟨above, line', below, hsplit, hlast', hline', hbelow⟩
  · have := hindented last (List.mem_reverse.1 (List.mem_of_find?_eq_some hlast))
    rw [isOutdented_of_readKey? hkey] at this
    cases this
  · obtain rfl : line' = last := Option.some.inj (hlast'.symm.trans hlast)
    have hwhole := readLines_of_key hkey hbelow above []
    rw [List.append_nil, ← hsplit, hread, show (gather []).1 = [] from rfl, List.append_nil] at hwhole
    obtain ⟨upper, habove, hlower⟩ := bind_eq_ok_iff.1 hwhole.symm
    obtain ⟨entry, hentry, hblock⟩ := bind_eq_ok_iff.1 hlower
    obtain rfl : upper.put key entry = block := Except.ok.inj hblock
    -- the child changes the open entry, but below the comment it is not read
    obtain ⟨child, hchild, other, hother, hne⟩ := Section.exists_probe hentry
    refine ⟨child, hchild, ?_⟩
    have hwithout : readLines (xs ++ [' ' :: child]) = .ok (upper.put key other) := by
      rw [hsplit, readLines_of_key hkey hbelow, habove, sections, gather_probe hchild]
      simp only [bind_eq_ok_iff]
      exact ⟨upper, rfl, other, hother, rfl⟩
    have hwith : readLines (xs ++ line :: [' ' :: child]) = .ok (upper.put key entry) := by
      rw [readLines_insert_comment hline hmargin, show fromMargin [' ' :: child] = [] from rfl, List.append_nil,
        hread]
    intro heq
    rw [hwith, hwithout] at heq
    have hkept := Entries.get?_put_self upper key entry
    rw [Except.ok.inj heq, Entries.get?_put_self] at hkept
    exact hne (Option.some.inj hkept)

theorem oneLine_of_mem_probes {child : List Char} (h : child ∈ probes) : OneLine (' ' :: child) := by
  simp only [probes, List.mem_cons, List.not_mem_nil, or_false] at h
  rcases h with rfl | rfl | rfl <;> decide

/-- A blank line or a comment may be inserted anywhere, except at the margin inside an open entry whose children go on
below it; at the margin a comment keeps the indented lines below it from being read.  Whatever stands below, the line
changes nothing exactly if it is indented, no entry is open above it, or what stands above it is refused anyway. -/
theorem insert_inert {xs : List (List Char)} {line : List Char} (hlines : ∀ l ∈ line :: xs, OneLine l)
    (hline : IsInert line) :
    (∀ ys, (∀ l ∈ ys, OneLine l) →
      (¬(isOutdented line = true ∧ EndsOpen xs ∧ StartsWithChild ys) →
        parse (unlines (xs ++ line :: ys)) = parse (unlines (xs ++ ys))) ∧
      (isOutdented line = true → parse (unlines (xs ++ line :: ys)) = parse (unlines (xs ++ fromMargin ys)))) ∧
    ((∀ ys, (∀ l ∈ ys, OneLine l) → parse (unlines (xs ++ line :: ys)) = parse (unlines (xs ++ ys))) ↔
      ¬(isOutdented line = true ∧ EndsOpen xs ∧ ∃ block, parse (unlines xs) = .ok block)) := by
  rw [List.forall_mem_cons] at hlines
  have hplain : ∀ {ys}, (∀ l ∈ ys, OneLine l) → parse (unlines (xs ++ ys)) = readLines (xs ++ ys) :=
    fun hys => parse_unlines (List.forall_mem_append.2 ⟨hlines.2, hys⟩)
  have hmore : ∀ {ys}, (∀ l ∈ ys, OneLine l) → ∀ l ∈ line :: ys, OneLine l :=
    fun hys => List.forall_mem_cons.2 ⟨hlines.1, hys⟩
  refine ⟨fun ys hys => ⟨fun hcut => ?_, fun hmargin => ?_⟩, ?_⟩
  · rw [hplain hys, hplain (hmore hys), readLines_insert hline hcut]
  · have hbelow : ∀ l ∈ fromMargin ys, OneLine l := fun l hl => hys l ((List.dropWhile_sublist _).subset hl)
    rw [hplain hbelow, hplain (hmore hys), readLines_insert_comment hline hmargin]
  · rw [parse_unlines hlines.2]
    constructor
    · rintro hall ⟨hmargin, hxs, block, hblock⟩
      obtain ⟨child, hchild, hlost⟩ := exists_child_lost hline hmargin hxs hblock
      have hys : ∀ l ∈ [' ' :: child], OneLine l := by
        intro l hl
        rw [List.mem_singleton.1 hl]
        exact oneLine_of_mem_probes hchild
      have heq := hall _ hys
      rw [hplain hys, hplain (hmore hys)] at heq
      exact hlost heq
    · intro hcut ys hys
      rw [hplain hys, hplain (hmore hys)]
      cases hread : readLines xs with
      | error m => rw [readLines_append_of_error hread, readLines_append_of_error hread]
      | ok block => exact readLines_insert hline fun h => hcut ⟨h.1, h.2.1, block, hread⟩

/-- A comment at the margin below an open entry, with no child below it. -/
theorem insert_inert_trailing :
    IsInert "# note".toList ∧
      parse (unlines (["models:".toList, "  - a".toList] ++ "# note".toList :: [[], "id: x".toList])) =
        parse (unlines (["models:".toList, "  - a".toList] ++ [[], "id: x".toList])) := by
  have hline : IsInert "# note".toList := by
    intro c hc
    exact (Option.some.inj hc).symm
  have hlines : ∀ l ∈ ["# note".toList, "models:".toList, "  - a".toList], OneLine l := by decide
  have hys : ∀ l ∈ [[], "id: x".toList], OneLine l := by decide
  have hchild : ¬StartsWithChild [[], "id: x".toList] := by
    rw [← gather_fst_eq_nil_iff]
    rfl
  exact ⟨hline, ((insert_inert hlines hline).1 _ hys).1 fun h => hchild h.2.2⟩

/-- A comment at the margin between two children: the second one is lost. -/
theorem child_lost_below_comment :
    IsInert "# note".toList ∧
      parse (unlines (["models:".toList, "  - a".toList] ++ "# note".toList :: ["  - b".toList])) ≠
        parse (unlines (["models:".toList, "  - a".toList] ++ ["  - b".toList])) := by
  have hwith : parse (unlines (["models:".toList, "  - a".toList] ++ "# note".toList :: ["  - b".toList])) =
      .ok [("models", .item (.list [.text "a"]))] := by
    cbv
  have hwithout : parse (unlines (["models:".toList, "  - a".toList] ++ ["  - b".toList])) =
      .ok [("models", .item (.list [.text "a", .text "b"]))] := by
    cbv
  refine ⟨fun c hc => (Option.some.inj hc).symm, ?_⟩
  rw [hwith, hwithout]
  intro heq
  cases heq

end Promptbook.Metadata
