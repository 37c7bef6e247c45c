import Promptbook.Number.Shortest
import Promptbook.Proofs.Metadata.Writing

/-!
# Printing a block

A block is printed with a key on each line: words and integers as they are, texts in quotes, lists in brackets, and a
mapping as fields below its key.  How far a field is indented and in which quote a text of a list stands is left to a
`Style`.  In every style a block is read back as it is (`parse_printed`), with its keys in their order and each value
as what it was: a text that looks like a number or a comment stays a text, and the empty list stays a list.
-/

namespace Promptbook.Metadata

open Promptbook.Number Promptbook.Text

/-! ### Scalars -/

/-- The text of a scalar behind a colon. -/
def Scalar.printed : Scalar → List Char
  | null => "null".toList
  | bool b => (if b then "true" else "false").toList
  | int n => intText n
  | float x => Layout.shown.text x
  | text s => doubleQuoted s.toList

/-- Can the scalar be printed so that it is read back?  An integer must not have too many digits, and a text must not
hold a line break; floating point numbers are left out. -/
def Scalar.IsPrintable : Scalar → Prop
  | null => True
  | bool _ => True
  | int n => n.natAbs < 10 ^ digitLimit
  | float _ => False
  | text s => OneLine s.toList

/-- Does the scalar leave out one of the quotes?  A text in a list stands in the other one. -/
def Scalar.LeavesQuote : Scalar → Prop
  | text s => ¬('"' ∈ s.toList ∧ '\'' ∈ s.toList)
  | null | bool _ | int _ | float _ => True

instance : (s : Scalar) → Decidable s.IsPrintable
  | .null => isTrue trivial
  | .bool _ => isTrue trivial
  | .int n => inferInstanceAs (Decidable (n.natAbs < 10 ^ digitLimit))
  | .float _ => isFalse id
  | .text s => inferInstanceAs (Decidable (OneLine s.toList))

instance : (s : Scalar) → Decidable s.LeavesQuote
  | .text s => inferInstanceAs (Decidable ¬('"' ∈ s.toList ∧ '\'' ∈ s.toList))
  | .null | .bool _ | .int _ | .float _ => isTrue trivial

theorem all_isPlain_intText (n : Int) : (intText n).all isPlain = true := by
  rw [List.all_eq_true]
  intro c hc
  have all : ∀ d < 10, isPlain (digitChar d) = true := by decide
  rcases eq_minus_or_digit_of_mem_intText hc with rfl | ⟨d, hd, rfl⟩
  · decide
  · exact all d hd

/-- Only texts need quotes. -/
theorem Scalar.isPlain_printed {s : Scalar} (h : s.IsPrintable) (htext : ∀ t, s ≠ .text t) :
    s.printed ≠ [] ∧ s.printed.all isPlain = true := by
  cases s with
  | null => decide
  | bool b => cases b <;> decide
  | int n => exact ⟨IsLiteral.ne_nil (.inl (isIntegerLiteral_intText n)), all_isPlain_intText n⟩
  | float x => cases h
  | text t => exact absurd rfl (htext t)

theorem Scalar.parseScalar_printed {s : Scalar} (h : s.IsPrintable) : parseScalar s.printed = .ok s := by
  cases s with
  | null => rfl
  | bool b => cases b <;> rfl
  | int n => exact parseScalar_intText h
  | float x => cases h
  | text t => rw [printed, parseScalar_doubleQuoted, String.ofList_toList]

/-- What stands behind a colon is read back. -/
theorem Scalar.parseItem_printed {s : Scalar} (h : s.IsPrintable) :
    s.printed ≠ [] ∧ IsValue s.printed ∧ parseItem s.printed = .ok (.scalar s) := by
  -- a text needs the quotes, anything else is a word without them
  by_cases htext : ∃ t, s = .text t
  · obtain ⟨t, rfl⟩ := htext
    refine ⟨doubleQuoted_ne_nil _, .doubleQuoted h, ?_⟩
    rw [printed, parseItem_doubleQuoted, String.ofList_toList]
  · obtain ⟨hne, hplain⟩ := isPlain_printed h fun t ht => htext ⟨t, ht⟩
    refine ⟨hne, (IsElement.of_isPlain hne hplain).isValue, ?_⟩
    rw [parseItem_of_isPlain hne hplain, parseScalar_printed h]
    rfl

/-! ### Styles -/

/-- What a printer is free in: how far a field of a key is indented, and the quote of each text in a list. -/
structure Style where
  indent : String → String → List Char
  quote : String → Char
  isIndent_indent : ∀ key field, IsIndent (indent key field)
  isQuote_quote : ∀ s, isQuote (quote s) = true
  quote_notMem : ∀ s, ¬('"' ∈ s.toList ∧ '\'' ∈ s.toList) → quote s ∉ s.toList

/-- Two blanks before a field, and double quotes around a text that holds none. -/
def Style.standard : Style where
  indent _ _ := [' ', ' ']
  quote s := if '"' ∈ s.toList then '\'' else '"'
  isIndent_indent _ _ := by decide
  isQuote_quote s := by split <;> decide
  quote_notMem s h := by
    split
    · next hdouble => exact fun hsingle => h ⟨hdouble, hsingle⟩
    · next hdouble => exact hdouble

namespace Style

variable (style : Style)

/-- The text of a scalar in a list. -/
def element : Scalar → List Char
  | .text s => inQuotes (style.quote s) s.toList
  | s => s.printed

/-- The text of an item behind a colon. -/
def item : Item → List Char
  | .scalar s => s.printed
  | .list items => bracketed (items.map style.element)

/-- The lines of a key with its value. -/
def lines (key : String) : Entry → List (List Char)
  | .item i => [keyLine key.toList (style.item i)]
  | .mapping items =>
    keyLine key.toList [] :: items.map fun e => style.indent key e.1 ++ keyLine e.1.toList (style.item e.2)

/-- The text of a block. -/
def printed (block : Block) : List Char :=
  unlines (block.flatMap fun e => style.lines e.1 e.2)

end Style

/-! ### Items -/

/-- Can the item be printed so that it is read back? -/
def Item.IsPrintable : Item → Prop
  | scalar s => s.IsPrintable
  | list items => ∀ s ∈ items, s.IsPrintable ∧ s.LeavesQuote

instance : (i : Item) → Decidable i.IsPrintable
  | .scalar s => inferInstanceAs (Decidable s.IsPrintable)
  | .list items => inferInstanceAs (Decidable (∀ s ∈ items, s.IsPrintable ∧ s.LeavesQuote))

variable (style : Style)

theorem Style.element_eq_printed {s : Scalar} (h : ∀ t, s ≠ .text t) : style.element s = s.printed := by
  cases s with
  | text t => exact absurd rfl (h t)
  | null | bool b | int n | float x => rfl

/-- What stands in a list is not cut, and is read back. -/
theorem Style.parseScalar_element {s : Scalar} (h : s.IsPrintable) (hquote : s.LeavesQuote) :
    IsElement (style.element s) ∧ parseScalar (style.element s) = .ok s := by
  by_cases htext : ∃ t, s = .text t
  · obtain ⟨t, rfl⟩ := htext
    refine ⟨.inQuotes (style.isQuote_quote t) h (style.quote_notMem t hquote), ?_⟩
    rw [element, parseScalar_inQuotes (style.isQuote_quote t), String.ofList_toList]
  · have hother : ∀ t, s ≠ .text t := fun t ht => htext ⟨t, ht⟩
    obtain ⟨hne, hplain⟩ := Scalar.isPlain_printed h hother
    rw [style.element_eq_printed hother]
    exact ⟨.of_isPlain hne hplain, Scalar.parseScalar_printed h⟩

theorem Style.parseItem_item {i : Item} (h : i.IsPrintable) :
    style.item i ≠ [] ∧ IsValue (style.item i) ∧ parseItem (style.item i) = .ok i := by
  cases i with
  | scalar s => exact Scalar.parseItem_printed h
  | list items =>
    have helement := fun s hs => style.parseScalar_element (h s hs).1 (h s hs).2
    have helements : ∀ e ∈ items.map style.element, IsElement e := by
      intro e he
      obtain ⟨s, hs, rfl⟩ := List.mem_map.1 he
      exact (helement s hs).1
    refine ⟨bracketed_ne_nil _, .bracketed fun e he => (helements e he).oneLine, ?_⟩
    have hread := mapM_map_eq_ok fun s hs => (helement s hs).2
    rw [List.map_id'] at hread
    rw [item, parseItem_bracketed helements, hread]
    rfl

/-! ### Entries -/

/-- Are the keys distinct names, and can each value be printed? -/
def IsTable {α : Type} (printable : α → Prop) (t : Entries α) : Prop :=
  t.keys.Nodup ∧ ∀ e ∈ t, IsName e.1.toList ∧ printable e.2

/-- Can the value be printed so that it is read back?  An empty mapping would be read as nothing. -/
def Entry.IsPrintable : Entry → Prop
  | item i => i.IsPrintable
  | mapping items => items ≠ [] ∧ IsTable Item.IsPrintable items

instance {α : Type} (printable : α → Prop) [DecidablePred printable] (t : Entries α) :
    Decidable (IsTable printable t) :=
  inferInstanceAs (Decidable (_ ∧ _))

instance : (entry : Entry) → Decidable entry.IsPrintable
  | .item i => inferInstanceAs (Decidable i.IsPrintable)
  | .mapping items => inferInstanceAs (Decidable (items ≠ [] ∧ IsTable Item.IsPrintable items))

/-- The field of a mapping. -/
def Style.field (e : String × Item) : Field :=
  ⟨e.1, style.item e.2, e.2⟩

/-- The entry that the lines of a key with its value make up. -/
def Style.entrySection (key : String) : Entry → Section
  | .item i => ⟨key, style.item i, []⟩
  | .mapping items => ⟨key, [], (items.map style.field).map Field.line⟩

theorem Style.key_entrySection (key : String) (entry : Entry) : (style.entrySection key entry).key = key := by
  cases entry <;> rfl

theorem Style.isReadable_fields {items : Entries Item} (h : IsTable Item.IsPrintable items) :
    ∀ f ∈ items.map style.field, f.IsReadable := by
  intro f hf
  obtain ⟨e, he, rfl⟩ := List.mem_map.1 hf
  obtain ⟨hname, hitem⟩ := h.2 e he
  exact ⟨hname, (style.parseItem_item hitem).2.1, (style.parseItem_item hitem).2.2⟩

theorem Style.isWritable_entrySection {key : String} (hkey : IsName key.toList) {entry : Entry}
    (h : entry.IsPrintable) :
    (style.entrySection key entry).IsWritable ∧ (style.entrySection key entry).HasLines (style.lines key entry) := by
  cases entry with
  | item i => exact ⟨⟨hkey, (style.parseItem_item h).2.1, by simp [entrySection]⟩, [], by simp, rfl, rfl⟩
  | mapping items =>
    -- a row is the line of a field with its indentation
    refine ⟨⟨hkey, .nil, .of_isReadable (style.isReadable_fields h.2)⟩,
      items.map fun e => (style.indent key e.1, (style.field e).line), ?_, ?_, ?_⟩
    · intro r hr
      obtain ⟨e, -, rfl⟩ := List.mem_map.1 hr
      exact style.isIndent_indent key e.1
    · simp [entrySection, Function.comp_def]
    · simp [entrySection, lines, Function.comp_def, field, Field.line]

theorem Style.entry_entrySection (key : String) {entry : Entry} (h : entry.IsPrintable) :
    (style.entrySection key entry).entry = .ok entry := by
  cases entry with
  | item i => exact entry_of_value (style.parseItem_item h).1 (style.parseItem_item h).2.2
  | mapping items =>
    have hkeys : ((items.map style.field).map Field.key).Nodup := by
      rw [List.map_map]
      exact h.2.1
    have hread := entry_of_fields key (style.isReadable_fields h.2) hkeys
    have hitems : (items.map style.field).map (fun f => (f.key, f.item)) = items := by
      rw [List.map_map]
      exact List.map_id items
    rw [hitems, mappingEntry, if_neg (by simpa using h.1)] at hread
    exact hread

/-! ### Blocks -/

/-- A block is read back from its text, in whatever style it is printed and with or without a line feed at the end. -/
theorem parse_printed {block : Block} (h : IsTable Entry.IsPrintable block) :
    parse (style.printed block) = .ok block ∧ parse (style.printed block ++ ['\n']) = .ok block := by
  have hsections : sections (splitLines (style.printed block)) = block.map fun e => style.entrySection e.1 e.2 :=
    sections_flatMap fun e he => style.isWritable_entrySection (h.2 e he).1 (h.2 e he).2
  have hkeys : (block.map fun e => (style.entrySection e.1 e.2).key).Nodup := by
    simp only [Style.key_entrySection]
    exact h.1
  have hread := readSections_map (fun e he => style.entry_entrySection e.1 (h.2 e he).2) hkeys
  simp only [Style.key_entrySection] at hread
  have hparse : parse (style.printed block) = .ok block := by
    rw [parse, hsections, hread]
    exact congrArg Except.ok (List.map_id block)
  exact ⟨hparse, (parse_final_newline _).trans hparse⟩

/-- Texts that look like numbers, arrays, comments, list items and keys, in each of the three places. -/
def disguisedBlock : Block :=
  [("name", .item (.scalar (.text "42"))),
    ("note", .item (.scalar (.text ""))),
    ("list", .item (.list [.text "a, b", .text "say \"]", .text "it's # - k: v", .int (-7), .null, .text "true"])),
    ("none", .item (.list [])),
    ("map", .mapping [("_k", .scalar (.text "[x]")), ("l2", .list [.bool false, .text ""])]),
    ("last", .item (.scalar .null))]

theorem parse_printed_disguised :
    IsTable Entry.IsPrintable disguisedBlock ∧
      Style.standard.printed disguisedBlock =
        ("name: \"42\"\nnote: \"\"\nlist: [\"a, b\", 'say \"]', \"it's # - k: v\", -7, null, \"true\"]\nnone: []\n" ++
          "map:\n  _k: \"[x]\"\n  l2: [false, \"\"]\nlast: null").toList ∧
      parse (Style.standard.printed disguisedBlock) = .ok disguisedBlock ∧
      parse (Style.standard.printed disguisedBlock ++ ['\n']) = .ok disguisedBlock := by
  have hprintable : IsTable Entry.IsPrintable disguisedBlock := by
    decide +kernel
  exact ⟨hprintable, by decide +kernel, parse_printed Style.standard hprintable⟩

end Promptbook.Metadata
