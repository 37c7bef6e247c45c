import Promptbook.Proofs.Entries
import Promptbook.Proofs.Metadata.Refusals
import Promptbook.Proofs.Text.Lines

/-!
# Lines and entries

How lines make up the entries of a block.  What is gathered from some lines depends on the lines below them only
through what is gathered there (`gather_append_congr`), and a line at the margin keeps what stands above it apart from
what stands below (`gather_append_of_margin`).  So a text that starts at the margin can be read by itself: behind
another text it adds its entries to those of that text (`parse_append_newline`).
-/

namespace Promptbook.Metadata

open Promptbook.Number Promptbook.Text

variable {xs ys zs lines : List (List Char)} {line : List Char}

/-! ### Gathering lines -/

/-- A line that neither stands at the margin nor holds content is passed over. -/
theorem gather_cons_of_idle (hindented : isOutdented line = false) (hidle : isContent line = false)
    (lines : List (List Char)) : gather (line :: lines) = gather lines := by
  rw [gather, hindented, hidle]
  rfl

theorem gather_append_congr (xs : List (List Char)) (h : gather ys = gather zs) :
    gather (xs ++ ys) = gather (xs ++ zs) := by
  induction xs with
  | nil => exact h
  | cons x xs ih => rw [List.cons_append, List.cons_append, gather, gather, ih]

/-- Lines below which nothing is left over for a child end the children of the last entry above them. -/
theorem gather_append_of_margin (xs : List (List Char)) (h : (gather ys).1 = []) :
    gather (xs ++ ys) = ((gather xs).1, (gather xs).2 ++ (gather ys).2) := by
  induction xs with
  | nil =>
    rw [List.nil_append, gather, List.nil_append, ← h]
  | cons x xs ih =>
    rw [List.cons_append, gather, gather, ih]
    split
    · split <;> rfl
    · split <;> rfl

/-- Indented lines belong to what stands above them. -/
theorem gather_append_of_indented (h : ∀ line ∈ xs, isOutdented line = false) (ys : List (List Char)) :
    gather (xs ++ ys) = ((gather xs).1 ++ (gather ys).1, (gather ys).2) := by
  induction xs with
  | nil => rfl
  | cons x xs ih =>
    have hx := h x List.mem_cons_self
    have hrest := ih fun line hline => h line (List.mem_cons_of_mem _ hline)
    rw [List.cons_append, gather, gather, hrest, hx]
    simp only [Bool.false_eq_true, if_false]
    split <;> rfl

theorem gather_fst_of_outdented (h : isOutdented line = true) (lines : List (List Char)) :
    (gather (line :: lines)).1 = [] := by
  rw [gather, if_pos h]
  split <;> rfl

/-! ### Entries -/

/-- A key stands at the margin. -/
theorem isOutdented_of_readKey? {e : String × List Char} (h : readKey? line = some e) : isOutdented line = true := by
  cases line with
  | nil => cases h
  | cons c rest =>
    by_cases hc : isNameStart c = true
    · simp [isOutdented, isBlank_of_isNameStart hc]
    · simp [readKey?, splitName?, hc] at h

theorem sections_cons_of_key {key : String} {value : List Char} (h : readKey? line = some (key, value))
    (lines : List (List Char)) :
    sections (line :: lines) = ⟨key, value, (gather lines).1⟩ :: sections lines := by
  rw [sections, gather, if_pos (isOutdented_of_readKey? h), h]
  rfl

/-- A line without a key opens no entry. -/
theorem sections_cons_of_no_key (h : readKey? line = none) (lines : List (List Char)) :
    sections (line :: lines) = sections lines := by
  rw [sections, gather, h]
  split
  · rfl
  · split <;> rfl

theorem sections_append_of_margin (xs : List (List Char)) (h : (gather ys).1 = []) :
    sections (xs ++ ys) = sections xs ++ sections ys := by
  rw [sections, gather_append_of_margin xs h]
  rfl

theorem sections_append_of_indented (h : ∀ line ∈ xs, isOutdented line = false) (ys : List (List Char)) :
    sections (xs ++ ys) = sections ys := by
  rw [sections, gather_append_of_indented h]
  rfl

/-! ### Values of entries -/

/-- Children count only for a key without a value. -/
theorem Section.entry_value {value : List Char} (h : value ≠ []) (key : String) (children : List (List Char)) :
    Section.entry ⟨key, value, children⟩ = (parseItem value).map .item := by
  rw [Section.entry, if_neg (by simpa using h)]

theorem Section.entry_bullets {child : List Char} (h : (bullet? child).isSome = true) (key : String)
    (children : List (List Char)) :
    Section.entry ⟨key, [], child :: children⟩ =
      (((child :: children).filterMap bullet?).mapM parseScalar).map fun items => .item (.list items) := by
  simp only [Section.entry, List.isEmpty_nil, if_true, if_pos h]

theorem Section.entry_fields {child : List Char} (h : ¬(bullet? child).isSome = true) (key : String)
    (children : List (List Char)) :
    Section.entry ⟨key, [], child :: children⟩ = (parseMapping [] (child :: children)).map .mapping := by
  simp only [Section.entry, List.isEmpty_nil, if_true, if_neg h]

/-! ### Blocks -/

theorem readSections_append (block : Block) (ss ts : List Section) :
    readSections block (ss ++ ts) = readSections block ss >>= fun b => readSections b ts := by
  induction ss generalizing block with
  | nil => rfl
  | cons s ss ih =>
    rw [List.cons_append, readSections, readSections]
    cases s.entry with
    | error m => rfl
    | ok entry => exact ih (block.put s.key entry)

/-- The key of an entry with the value that is read. -/
def Section.pair (s : Section) : Except Misuse (String × Entry) :=
  s.entry.map fun entry => (s.key, entry)

/-- The entries are read one by one, and what is read is set in their order. -/
theorem readSections_eq (block : Block) (ss : List Section) :
    readSections block ss = (ss.mapM Section.pair).map block.putAll := by
  induction ss generalizing block with
  | nil => rfl
  | cons s ss ih =>
    rw [readSections, List.mapM_cons, Section.pair]
    cases s.entry with
    | error m => rfl
    | ok entry =>
      have hrest := ih (block.put s.key entry)
      cases hread : ss.mapM Section.pair with
      | error m =>
        rw [hread] at hrest
        exact hrest
      | ok pairs =>
        rw [hread] at hrest
        exact hrest

/-- The block of some lines. -/
def readLines (lines : List (List Char)) : Except Misuse Block :=
  readSections [] (sections lines)

/-- Lines that are joined are gathered as they are; an empty line at the end is no line, but makes no difference. -/
theorem gather_splitLines (h : ∀ line ∈ lines, OneLine line) :
    gather (splitLines (unlines lines)) = gather lines := by
  induction lines with
  | nil => rfl
  | cons line lines ih =>
    have hline := h line List.mem_cons_self
    have htail := ih fun l hl => h l (List.mem_cons_of_mem _ hl)
    cases lines with
    | nil =>
      rw [unlines, splitLines_of_oneLine hline]
      split
      · next hnil =>
        rw [List.isEmpty_iff.1 hnil]
        rfl
      · rfl
    | cons next lines =>
      rw [unlines, splitLines_append_newline hline]
      exact gather_append_congr [line] htail

/-- Joined lines make up the block that they are read as. -/
theorem parse_unlines (h : ∀ line ∈ lines, OneLine line) : parse (unlines lines) = readLines lines := by
  rw [parse, readLines, sections, sections, gather_splitLines h]

/-! ### Texts one below the other -/

/-- A text that starts at the margin adds its entries to those of the text above it. -/
theorem sections_join (cs : List Char) {ds : List Char} (h : ∀ c ∈ ds.head?, isBlank c = false) :
    sections (splitLines (cs ++ '\n' :: ds)) = sections (splitLines cs) ++ sections (splitLines ds) := by
  obtain ⟨between, hbetween, hlines⟩ := splitLines_join cs ds
  have hmargin : (gather (splitLines ds)).1 = [] := by
    cases ds with
    | nil => rfl
    | cons d ds =>
      have hd : isBlank d = false := h d rfl
      have hbreak : isLineBreak d = false := by
        by_contra hbreak
        rw [Bool.not_eq_false] at hbreak
        rw [isBlank_of_isLineBreak hbreak] at hd
        cases hd
      obtain ⟨line, lines, hcons⟩ := exists_splitLines_cons hbreak ds
      rw [hcons]
      exact gather_fst_of_outdented (by simp [isOutdented, hd]) lines
  have hgather : gather (between ++ splitLines ds) = gather (splitLines ds) := by
    rcases hbetween with rfl | rfl <;> rfl
  have hsections : sections (between ++ splitLines ds) = sections (splitLines ds) := by
    rw [sections, sections, hgather]
  rw [hlines, List.append_assoc, sections_append_of_margin _ (by rw [hgather, hmargin]), hsections]

theorem parse_final_newline (cs : List Char) : parse (cs ++ ['\n']) = parse cs := by
  have hsections := sections_join cs (show ∀ c ∈ ([] : List Char).head?, isBlank c = false by simp)
  rw [show sections (splitLines []) = [] from rfl, List.append_nil] at hsections
  rw [parse, hsections, parse]

theorem nodup_keys_of_parse {cs : List Char} {block : Block} (h : parse cs = .ok block) : block.keys.Nodup := by
  rw [parse, readSections_eq, map_eq_ok_iff] at h
  obtain ⟨pairs, -, rfl⟩ := h
  exact Entries.nodup_keys_ofPairs pairs

/-- Entries that are read behind a block update it by the block that they make up alone. -/
theorem readSections_eq_update {block : Block} (h : block.keys.Nodup) (ss : List Section) :
    readSections block ss = (readSections [] ss).map fun b => block.updated b ++ b.beyond block := by
  rw [readSections_eq, readSections_eq]
  cases ss.mapM Section.pair with
  | error m => rfl
  | ok pairs => exact congrArg Except.ok (Entries.putAll_eq_append h pairs)

/-- Two texts, the lower of which starts at the margin, are read one by one. -/
private theorem parse_join (cs : List Char) {ds : List Char} (h : ∀ c ∈ ds.head?, isBlank c = false) :
    parse (cs ++ '\n' :: ds) = do
      let upper ← parse cs
      let lower ← parse ds
      return upper.updated lower ++ lower.beyond upper := by
  rw [parse, sections_join cs h, readSections_append, ← parse]
  cases hupper : parse cs with
  | error m => rfl
  | ok upper =>
    have hlower := readSections_eq_update (nodup_keys_of_parse hupper) (sections (splitLines ds))
    rw [← parse] at hlower
    refine hlower.trans ?_
    cases parse ds <;> rfl

/-- A text that starts at the margin, below another text: a key of both keeps its place and has the value of the lower
text, and the new keys of the lower text come last.  An integer with too many digits is refused exactly if one of the
texts is refused. -/
theorem parse_append_newline (cs : List Char) {ds : List Char} (h : ∀ c ∈ ds.head?, isBlank c = false) :
    (parse (cs ++ '\n' :: ds) = do
      let upper ← parse cs
      let lower ← parse ds
      return upper.updated lower ++ lower.beyond upper) ∧
    ((∃ digits, digitLimit < digits ∧ parse (cs ++ '\n' :: ds) = .error (.integerTooLong digits)) ↔
      (∃ m, parse cs = .error m) ∨ ∃ m, parse ds = .error m) := by
  have hjoin := parse_join cs h
  refine ⟨hjoin, ?_⟩
  rw [← parse_eq_error_iff, hjoin]
  cases parse cs with
  | error m => exact ⟨fun _ => .inl ⟨m, rfl⟩, fun _ => ⟨m, rfl⟩⟩
  | ok upper =>
    cases parse ds with
    | error m => exact ⟨fun _ => .inr ⟨m, rfl⟩, fun _ => ⟨m, rfl⟩⟩
    | ok lower =>
      constructor
      · rintro ⟨m, hm⟩
        cases hm
      · rintro (⟨m, hm⟩ | ⟨m, hm⟩)
        · cases hm
        · cases hm

/-- An upper text that ends inside an open entry, after a carriage return, and a lower text that shares a key with
it. -/
theorem parse_append_newline_shared :
    (∀ c ∈ "id: 2\nmodels:\n  - b".toList.head?, isBlank c = false) ∧
      parse ("models:\n  - \"a\n\t# c\r".toList ++ '\n' :: "id: 2\nmodels:\n  - b".toList) =
        .ok [("models", .item (.list [.text "b"])), ("id", .item (.scalar (.int 2)))] := by
  have hmargin : ∀ c ∈ "id: 2\nmodels:\n  - b".toList.head?, isBlank c = false := by
    intro c hc
    obtain rfl : 'i' = c := Option.some.inj hc
    rfl
  have hupper : parse "models:\n  - \"a\n\t# c\r".toList = .ok [("models", .item (.list [.text "\"a"]))] := by
    cbv
  have hlower : parse "id: 2\nmodels:\n  - b".toList =
      .ok [("id", .item (.scalar (.int 2))), ("models", .item (.list [.text "b"]))] := by
    cbv
  refine ⟨hmargin, ?_⟩
  rw [(parse_append_newline _ hmargin).1, hupper, hlower]
  rfl

end Promptbook.Metadata
