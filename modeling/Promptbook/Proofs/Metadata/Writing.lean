import Promptbook.Proofs.Metadata.Elements
import Promptbook.Proofs.Metadata.Literals
import Promptbook.Proofs.Metadata.Sections
import Promptbook.Proofs.Number.IntegerText

/-!
# Writing metadata

How texts, arrays, keys and entries are written so that they are read back.  A text stands between quotes
(`parseScalar_inQuotes`), an array lists such texts (`parseItem_inlineArray`), a key stands before a colon
(`readKey?_keyLine`), and the children of an entry are indented below it (`gather_section`).  No character between the
quotes is taken for structure, except that a text in an array must not hold the quote that it stands in.
-/

namespace Promptbook.Metadata

open Promptbook.Number Promptbook.Text

/-! ### Quoted texts -/

/-- A text between two quotes. -/
def inQuotes (quote : Char) (cs : List Char) : List Char :=
  quote :: cs ++ [quote]

/-- A text in double quotes. -/
def doubleQuoted (cs : List Char) : List Char :=
  '"' :: cs ++ ['"']

section Quotes

variable {quote : Char} (hquote : isQuote quote = true)

private theorem eq_of_isQuote {quote : Char} (h : isQuote quote = true) : quote = '"' ∨ quote = '\'' := by
  simpa [isQuote] using h

include hquote

theorem bare_inQuotes (cs : List Char) : Bare isBlank (inQuotes quote cs) := by
  have hblank : isBlank quote = false := by
    rcases eq_of_isQuote hquote with rfl | rfl <;> decide
  constructor
  · intro c hc
    obtain rfl := Option.some.inj hc
    exact hblank
  · intro c hc
    rw [inQuotes, List.getLast?_append_of_ne_nil _ (List.cons_ne_nil _ _)] at hc
    obtain rfl := Option.some.inj hc
    exact hblank

theorem IsValue.inQuotes {cs : List Char} (h : OneLine cs) : IsValue (inQuotes quote cs) := by
  have hbreak : isLineBreak quote = false := by
    rcases eq_of_isQuote hquote with rfl | rfl <;> decide
  exact ⟨bare_inQuotes hquote cs, .cons hbreak (h.append (.cons hbreak IsValue.nil.oneLine))⟩

/-- A text without the quote that it stands in is not cut. -/
theorem IsElement.inQuotes {cs : List Char} (h : OneLine cs) (hout : quote ∉ cs) : IsElement (inQuotes quote cs) := by
  have hinner : isUncut (some quote) (cs ++ [quote]) = true := by
    clear h
    induction cs with
    | nil => simp [isUncut, nextQuote]
    | cons c cs ih =>
      rw [List.mem_cons, not_or] at hout
      have hopen : nextQuote (some quote) c = some quote := by simp [nextQuote, Ne.symm hout.1]
      simpa [isUncut, hopen] using ih hout.2
  have hcomma : quote ≠ ',' := by
    rcases eq_of_isQuote hquote with rfl | rfl <;> decide
  have huncut : isUncut none (Metadata.inQuotes quote cs) = true := by
    simpa [Metadata.inQuotes, isUncut, hcomma, nextQuote, hquote] using hinner
  exact ⟨List.cons_ne_nil _ _, trim_eq_self (bare_inQuotes hquote cs), (IsValue.inQuotes hquote h).oneLine, huncut⟩

theorem parseScalar_inQuotes (cs : List Char) : parseScalar (inQuotes quote cs) = .ok (.text (String.ofList cs)) := by
  have hword : ∀ word : String, quote ∉ word.toList.head? → (String.ofList (inQuotes quote cs) == word) = false :=
    fun _ hstart => ofList_beq_eq_false hstart _
  have hstart : quote ∉ "null".toList.head? ∧ quote ∉ "~".toList.head? ∧ quote ∉ "true".toList.head? ∧
      quote ∉ "false".toList.head? := by
    rcases eq_of_isQuote hquote with rfl | rfl <;> decide
  have hinner : unquote? (inQuotes quote cs) = some cs := by
    simp [inQuotes, unquote?, hquote]
  simp only [parseScalar, hword _ hstart.1, hword _ hstart.2.1, hword _ hstart.2.2.1, hword _ hstart.2.2.2, hinner,
    Bool.or_self, Bool.false_eq_true, if_false]

end Quotes

theorem doubleQuoted_ne_nil (cs : List Char) : doubleQuoted cs ≠ [] :=
  List.cons_ne_nil _ _

theorem bare_doubleQuoted (cs : List Char) : Bare isBlank (doubleQuoted cs) :=
  bare_inQuotes (by decide) cs

theorem IsValue.doubleQuoted {cs : List Char} (h : OneLine cs) : IsValue (doubleQuoted cs) :=
  .inQuotes (by decide) h

theorem parseScalar_doubleQuoted (cs : List Char) :
    parseScalar (doubleQuoted cs) = .ok (.text (String.ofList cs)) :=
  parseScalar_inQuotes (by decide) cs

theorem parseItem_doubleQuoted (cs : List Char) :
    parseItem (doubleQuoted cs) = .ok (.scalar (.text (String.ofList cs))) := by
  rw [parseItem_of_head? (doubleQuoted_ne_nil cs) (by simp [doubleQuoted]), parseScalar_doubleQuoted]
  rfl

/-! ### Arrays -/

/-- Texts in an inline array. -/
def inlineArray (texts : List (List Char)) : List Char :=
  '[' :: commaJoined (texts.map doubleQuoted) ++ [']']

theorem IsValue.inlineArray {texts : List (List Char)} (h : ∀ t ∈ texts, OneLine t) :
    IsValue (inlineArray texts) := by
  refine .bracketed fun element helement => ?_
  obtain ⟨t, ht, rfl⟩ := List.mem_map.1 helement
  exact (IsValue.doubleQuoted (h t ht)).oneLine

/-- An inline array of quoted texts is read back, if the texts hold no double quote. -/
theorem parseItem_inlineArray {texts : List (List Char)} (h : ∀ t ∈ texts, OneLine t ∧ '"' ∉ t) :
    parseItem (inlineArray texts) = .ok (.list (texts.map fun t => .text (String.ofList t))) := by
  have helements : ∀ element ∈ texts.map doubleQuoted, IsElement element := by
    intro element helement
    obtain ⟨t, ht, rfl⟩ := List.mem_map.1 helement
    exact .inQuotes (by decide) (h t ht).1 (h t ht).2
  show parseItem (bracketed (texts.map doubleQuoted)) = _
  rw [parseItem_bracketed helements, mapM_map_eq_ok fun t _ => parseScalar_doubleQuoted t]
  rfl

/-! ### Numbers -/

theorem IsValue.of_isLiteral {cs : List Char} (h : IsLiteral cs) : IsValue cs :=
  .of_isBlank h.isBlank

theorem IsLiteral.ne_nil {cs : List Char} (h : IsLiteral cs) : cs ≠ [] := by
  rintro rfl
  revert h
  simp [IsLiteral, isIntegerLiteral, isDecimalLiteral, splitSign]

theorem IsLiteral.isBracketed {cs : List Char} (h : IsLiteral cs) : isBracketed cs = false := by
  by_contra hopen
  rw [Bool.not_eq_false, Metadata.isBracketed, Bool.and_eq_true, decide_eq_true_eq] at hopen
  have := h.isLiteralChar _ (List.mem_of_mem_head? hopen.1)
  revert this
  decide

/-- A literal behind a colon is a scalar. -/
theorem parseItem_of_isLiteral {cs : List Char} (h : IsLiteral cs) : parseItem cs = (parseScalar cs).map .scalar :=
  parseItem_of_isBracketed h.ne_nil h.isBracketed

theorem digitValues_natText (n : Nat) : digitValues (natText n) = digits n := by
  rw [digitValues, natText, List.map_map]
  refine (List.map_congr_left fun d hd => ?_).trans (List.map_id _)
  simp [digitValue?_digitChar (lt_ten_of_mem_digits hd)]

theorem isIntegerLiteral_intText (n : Int) : isIntegerLiteral (intText n) = true := by
  rw [isIntegerLiteral_iff, splitSign_intText]
  refine ⟨natText_ne_nil _, fun c hc => ?_⟩
  obtain ⟨d, hd, rfl⟩ := mem_natText hc
  exact isDigit_digitChar hd

/-- An integer of moderate size is read back from its text. -/
theorem parseScalar_intText {n : Int} (h : n.natAbs < 10 ^ digitLimit) : parseScalar (intText n) = .ok (.int n) := by
  have hliteral := isIntegerLiteral_intText n
  have hlength : ¬digitLimit < (natText n.natAbs).length :=
    Nat.not_lt.2 (length_natText_le (by decide) h)
  have hsign : withSign (decide (n < 0)) n.natAbs = n := by
    unfold withSign
    split
    · next hneg =>
      have := of_decide_eq_true hneg
      show -((n.natAbs : Nat) : Int) = n
      omega
    · next hpos =>
      have : ¬n < 0 := fun hneg => hpos (decide_eq_true hneg)
      show ((n.natAbs : Nat) : Int) = n
      omega
  rw [parseScalar_of_isIntegerLiteral (IsLiteral.dropFinalNewline_eq (.inl hliteral)) hliteral, splitSign_intText,
    if_neg hlength, digitValues_natText, ofDigits_digits, hsign]

theorem parseItem_intText {n : Int} (h : n.natAbs < 10 ^ digitLimit) :
    parseItem (intText n) = .ok (.scalar (.int n)) := by
  rw [parseItem_of_isLiteral (.inl (isIntegerLiteral_intText n)), parseScalar_intText h]
  rfl

/-! ### Keys -/

/-- Is the text a name: an ASCII letter or an underscore, followed by word characters? -/
def IsName (cs : List Char) : Prop :=
  ∃ c rest, cs = c :: rest ∧ isNameStart c = true ∧ ∀ d ∈ rest, isWord d = true

theorem isName_iff {cs : List Char} : IsName cs ↔ splitName? cs = some (cs, []) := by
  constructor
  · rintro ⟨c, rest, rfl, hc, hrest⟩
    rw [splitName?, if_pos hc, List.takeWhile_eq_self_iff.2 hrest, List.dropWhile_eq_nil_iff.2 hrest]
  · intro h
    cases cs with
    | nil => cases h
    | cons c rest =>
      rw [splitName?] at h
      by_cases hc : isNameStart c = true
      · rw [if_pos hc] at h
        have hrest := (List.cons.inj (Prod.mk.inj (Option.some.inj h)).1).2
        exact ⟨c, rest, rfl, hc, List.takeWhile_eq_self_iff.1 hrest⟩
      · rw [if_neg hc] at h
        cases h

instance (cs : List Char) : Decidable (IsName cs) :=
  decidable_of_iff _ isName_iff.symm

/-- A key with a value behind its colon. -/
def keyLine (key value : List Char) : List Char :=
  key ++ ':' :: if value.isEmpty then [] else ' ' :: value

theorem oneLine_of_isName {cs : List Char} (h : IsName cs) : OneLine cs := by
  -- checked for the line breaks, of which there are few, and not for the word characters
  have hword : ∀ c, isWord c = true → isLineBreak c = false := by
    intro c hc
    by_contra hbreak
    have hmem : c.toNat ∈ [10, 11, 12, 13, 28, 29, 30, 133, 8232, 8233] := by
      simp only [Bool.not_eq_false, isLineBreak, Bool.or_eq_true, Bool.and_eq_true, decide_eq_true_eq,
        beq_iff_eq] at hbreak
      simp only [List.mem_cons, List.not_mem_nil, or_false]
      omega
    have all : ∀ n ∈ [10, 11, 12, 13, 28, 29, 30, 133, 8232, 8233], isWord (Char.ofNat n) = false := by
      decide +kernel
    have := all c.toNat hmem
    rw [Char.ofNat_toNat, hc] at this
    cases this
  obtain ⟨c, rest, rfl, hc, hrest⟩ := h
  exact .cons (hword c (isWord_of_isNameStart hc)) fun d hd => hword d (hrest d hd)

/-- A key is read back with its value. -/
theorem readKey?_keyLine {key value : List Char} (hkey : IsName key) (hvalue : Bare isBlank value) :
    readKey? (keyLine key value) = some (String.ofList key, value) := by
  obtain ⟨c, rest, rfl, hc, hrest⟩ := hkey
  have hcolon : isWord ':' = false := by decide
  have hname : ∀ tail, splitName? (c :: rest ++ ':' :: tail) = some (c :: rest, ':' :: tail) := by
    intro tail
    rw [List.cons_append, splitName?, if_pos hc, List.takeWhile_append_of_pos hrest,
      List.dropWhile_append_of_pos hrest]
    simp [hcolon]
  have hstrip : strip (if value.isEmpty then [] else ' ' :: value) = value := by
    split
    · next hnil =>
      rw [List.isEmpty_iff.1 hnil]
      rfl
    · exact (trim_of_all_append (show [' '].all isBlank = true by decide)).trans (trim_eq_self hvalue)
  have hblank : isBlank ':' = false := by decide
  simp only [readKey?, keyLine, hname, Option.bind_eq_bind, Option.bind_some]
  rw [List.dropWhile_cons_of_neg (by simp [hblank])]
  simp only [hstrip]

/-! ### Entries -/

/-- The lines of an entry: the key with its value, and the children below it. -/
def Section.lines (s : Section) : List (List Char) :=
  keyLine s.key.toList s.value :: s.children.map fun child => ' ' :: ' ' :: child

/-- Can the text stand below a key, indented? -/
structure IsChild (cs : List Char) : Prop extends IsValue cs where
  ne_nil : cs ≠ []
  not_comment : cs.head? ≠ some '#'

theorem IsChild.keyLine {key value : List Char} (hkey : IsName key) (hvalue : IsValue value) :
    IsChild (keyLine key value) := by
  have honeLine := oneLine_of_isName hkey
  obtain ⟨c, rest, rfl, hc, -⟩ := hkey
  refine ⟨⟨⟨?_, ?_⟩, ?_⟩, by simp [Metadata.keyLine], ?_⟩
  · intro d hd
    obtain rfl := Option.some.inj hd
    exact isBlank_of_isNameStart hc
  · intro d hd
    rw [Metadata.keyLine, List.getLast?_append_of_ne_nil _ (List.cons_ne_nil _ _)] at hd
    split at hd
    · obtain rfl := Option.some.inj hd
      decide
    · next hne =>
      rw [List.isEmpty_iff] at hne
      rw [List.getLast?_cons_of_ne_nil (List.cons_ne_nil _ _), List.getLast?_cons_of_ne_nil hne] at hd
      exact hvalue.bare.2 d hd
  · refine honeLine.append (.cons (by decide) ?_)
    split
    · exact IsValue.nil.oneLine
    · exact .cons (by decide) hvalue.oneLine
  · intro hhash
    obtain rfl : c = '#' := Option.some.inj hhash
    revert hc
    decide

/-- Can the entry be written so that it is read back? -/
structure Section.IsWritable (s : Section) : Prop where
  key : IsName s.key.toList
  value : IsValue s.value
  children : ∀ child ∈ s.children, IsChild child

/-- Is the text an indentation: blanks, and at least one of them? -/
structure IsIndent (cs : List Char) : Prop where
  ne_nil : cs ≠ []
  blank : cs.all isBlank = true
  oneLine : OneLine cs

instance (cs : List Char) : Decidable (IsIndent cs) :=
  decidable_of_iff (cs ≠ [] ∧ cs.all isBlank = true ∧ OneLine cs)
    ⟨fun h => ⟨h.1, h.2.1, h.2.2⟩, fun h => ⟨h.ne_nil, h.blank, h.oneLine⟩⟩

theorem IsIndent.isOutdented_append {indent : List Char} (h : IsIndent indent) (cs : List Char) :
    isOutdented (indent ++ cs) = false := by
  cases indent with
  | nil => exact absurd rfl h.ne_nil
  | cons c rest =>
    have hc := List.all_eq_true.1 h.blank c List.mem_cons_self
    simp [isOutdented, hc]

theorem gather_child {indent child : List Char} (hindent : IsIndent indent) (h : IsChild child)
    (lines : List (List Char)) :
    gather ((indent ++ child) :: lines) = (child :: (gather lines).1, (gather lines).2) := by
  have hstrip : strip (indent ++ child) = child := (trim_of_all_append hindent.blank).trans (trim_eq_self h.bare)
  have hcontent : isContent (indent ++ child) = true := by
    rw [isContent, hstrip]
    cases child with
    | nil => exact absurd rfl h.ne_nil
    | cons c rest => simpa using h.not_comment
  rw [gather, hindent.isOutdented_append, if_neg (by decide), if_pos hcontent, hstrip]

theorem gather_children {rows : List (List Char × List Char)} (h : ∀ r ∈ rows, IsIndent r.1 ∧ IsChild r.2)
    (lines : List (List Char)) :
    gather ((rows.map fun r => r.1 ++ r.2) ++ lines) = (rows.map (·.2) ++ (gather lines).1, (gather lines).2) := by
  induction rows with
  | nil => rfl
  | cons r rows ih =>
    have hr := h r List.mem_cons_self
    rw [List.map_cons, List.cons_append, gather_child hr.1 hr.2, ih fun q hq => h q (List.mem_cons_of_mem _ hq)]
    rfl

/-- Are the lines those of the entry: its key with its value, and its children, each behind an indentation? -/
def Section.HasLines (s : Section) (lines : List (List Char)) : Prop :=
  ∃ rows : List (List Char × List Char), (∀ r ∈ rows, IsIndent r.1) ∧ s.children = rows.map (·.2) ∧
    lines = keyLine s.key.toList s.value :: rows.map fun r => r.1 ++ r.2

theorem Section.hasLines_lines (s : Section) : s.HasLines s.lines := by
  refine ⟨s.children.map fun child => ([' ', ' '], child), ?_, ?_, ?_⟩
  · intro r hr
    obtain ⟨child, -, rfl⟩ := List.mem_map.1 hr
    show IsIndent [' ', ' ']
    decide
  · simp [Function.comp_def]
  · simp [Section.lines, Function.comp_def]

/-- The lines of an entry are gathered into the entry, with the children that are left over below them. -/
theorem gather_section {s : Section} (hs : s.IsWritable) {lines : List (List Char)} (hlines : s.HasLines lines)
    (below : List (List Char)) :
    gather (lines ++ below) = ([], ⟨s.key, s.value, s.children ++ (gather below).1⟩ :: (gather below).2) := by
  obtain ⟨rows, hindents, hchildren, rfl⟩ := hlines
  have hkey : readKey? (keyLine s.key.toList s.value) = some (s.key, s.value) := by
    rw [readKey?_keyLine hs.key hs.value.bare, String.ofList_toList]
  have hrows : ∀ r ∈ rows, IsIndent r.1 ∧ IsChild r.2 := fun r hr =>
    ⟨hindents r hr, hs.children r.2 (hchildren ▸ List.mem_map_of_mem hr)⟩
  rw [List.cons_append, gather, if_pos (isOutdented_of_readKey? hkey), hkey, gather_children hrows, hchildren]

/-- Lines of entries are gathered into the entries. -/
theorem gather_flatMap {α : Type} {as : List α} {lines : α → List (List Char)} {entry : α → Section}
    (h : ∀ a ∈ as, (entry a).IsWritable ∧ (entry a).HasLines (lines a)) :
    gather (as.flatMap lines) = ([], as.map entry) := by
  induction as with
  | nil => rfl
  | cons a as ih =>
    have ha := h a List.mem_cons_self
    rw [List.flatMap_cons, gather_section ha.1 ha.2, ih fun b hb => h b (List.mem_cons_of_mem _ hb), List.append_nil]
    rfl

/-- A line of an entry is not empty, ends without a blank and holds no line break. -/
theorem Section.IsWritable.of_mem {s : Section} (h : s.IsWritable) {lines : List (List Char)}
    (hlines : s.HasLines lines) {line : List Char} (hline : line ∈ lines) :
    line ≠ [] ∧ (∀ c ∈ line.getLast?, isBlank c = false) ∧ OneLine line := by
  obtain ⟨rows, hindents, hchildren, rfl⟩ := hlines
  rcases List.mem_cons.1 hline with rfl | hline
  · have hkey := IsChild.keyLine h.key h.value
    exact ⟨hkey.ne_nil, hkey.bare.2, hkey.oneLine⟩
  · obtain ⟨r, hr, rfl⟩ := List.mem_map.1 hline
    have hc := h.children r.2 (hchildren ▸ List.mem_map_of_mem hr)
    refine ⟨by simp [hc.ne_nil], ?_, (hindents r hr).oneLine.append hc.oneLine⟩
    rw [List.getLast?_append_of_ne_nil _ hc.ne_nil]
    exact hc.bare.2

theorem Section.IsWritable.line {s : Section} (h : s.IsWritable) {line : List Char} (hline : line ∈ s.lines) :
    line ≠ [] ∧ (∀ c ∈ line.getLast?, isBlank c = false) ∧ OneLine line :=
  h.of_mem s.hasLines_lines hline

/-- The entries that are written are found again. -/
theorem sections_flatMap {α : Type} {as : List α} {lines : α → List (List Char)} {entry : α → Section}
    (h : ∀ a ∈ as, (entry a).IsWritable ∧ (entry a).HasLines (lines a)) :
    sections (splitLines (unlines (as.flatMap lines))) = as.map entry := by
  have honeLine : ∀ line ∈ as.flatMap lines, OneLine line := by
    intro line hline
    obtain ⟨a, ha, hmem⟩ := List.mem_flatMap.1 hline
    exact ((h a ha).1.of_mem (h a ha).2 hmem).2.2
  rw [sections, gather_splitLines honeLine, gather_flatMap h]

theorem sections_unlines {ss : List Section} (h : ∀ s ∈ ss, s.IsWritable) :
    sections (splitLines (unlines (ss.flatMap Section.lines))) = ss :=
  (sections_flatMap fun s hs => ⟨h s hs, s.hasLines_lines⟩).trans (List.map_id ss)

/-! ### Values of entries -/

theorem entry_of_value {s : Section} {i : Item} (hne : s.value ≠ []) (hread : parseItem s.value = .ok i) :
    s.entry = .ok (.item i) := by
  rw [Section.entry_value hne, hread]
  rfl

/-- An item of a block list. -/
def bulleted (element : List Char) : List Char :=
  '-' :: ' ' :: element

/-- A quoted text as an item of a block list. -/
def bulletLine (cs : List Char) : List Char :=
  '-' :: ' ' :: doubleQuoted cs

theorem IsChild.bulleted {element : List Char} (hne : element ≠ []) (h : IsValue element) :
    IsChild (bulleted element) := by
  refine ⟨⟨⟨?_, ?_⟩, .cons (by decide) (.cons (by decide) h.oneLine)⟩, List.cons_ne_nil _ _, ?_⟩
  · intro c hc
    obtain rfl := Option.some.inj hc
    decide
  · rw [Metadata.bulleted, List.getLast?_cons_of_ne_nil (List.cons_ne_nil _ _), List.getLast?_cons_of_ne_nil hne]
    exact h.bare.2
  · intro hhash
    cases hhash

theorem IsChild.bulletLine {cs : List Char} (h : OneLine cs) : IsChild (bulletLine cs) :=
  .bulleted (doubleQuoted_ne_nil cs) (.doubleQuoted h)

/-- The items of a block list are read one by one. -/
theorem entry_of_bulleted {elements : List (List Char)} (hne : elements ≠ []) (h : ∀ e ∈ elements, Bare isBlank e)
    (key : String) :
    Section.entry ⟨key, [], elements.map bulleted⟩ =
      (elements.mapM parseScalar).map fun items => .item (.list items) := by
  have hread : ∀ e ∈ elements, bullet? (bulleted e) = some e := fun e he => congrArg some (trim_eq_self (h e he))
  cases elements with
  | nil => exact absurd rfl hne
  | cons e elements =>
    have hbullets : ((e :: elements).map bulleted).filterMap bullet? = e :: elements := by
      rw [List.filterMap_map]
      exact (List.filterMap_congr hread).trans List.filterMap_some
    rw [List.map_cons] at hbullets ⊢
    rw [Section.entry_bullets (by rw [hread e List.mem_cons_self]; rfl), hbullets]

/-- The value of an entry with texts in a list below it. -/
def listEntry (texts : List (List Char)) : Entry :=
  if texts.isEmpty then .item (.scalar .null) else .item (.list (texts.map fun t => .text (String.ofList t)))

theorem entry_of_bullets (key : String) (texts : List (List Char)) :
    Section.entry ⟨key, [], texts.map bulletLine⟩ = .ok (listEntry texts) := by
  cases texts with
  | nil => rfl
  | cons text texts =>
    have hbare : ∀ e ∈ (text :: texts).map doubleQuoted, Bare isBlank e := by
      intro e he
      obtain ⟨t, -, rfl⟩ := List.mem_map.1 he
      exact bare_doubleQuoted t
    have hne : (text :: texts).map doubleQuoted ≠ [] := List.cons_ne_nil _ _
    have hread := entry_of_bulleted hne hbare key
    rw [List.map_map, mapM_map_eq_ok fun t _ => parseScalar_doubleQuoted t] at hread
    exact hread

/-- A key is no list item. -/
theorem bullet?_keyLine {key : List Char} (h : IsName key) (value : List Char) :
    bullet? (keyLine key value) = none := by
  obtain ⟨c, rest, rfl, hc, -⟩ := h
  have hminus : c ≠ '-' := by
    rintro rfl
    revert hc
    decide
  rw [keyLine, List.cons_append]
  unfold bullet?
  split
  · next heq => exact absurd (List.cons.inj heq).1 hminus
  · rfl

/-- A key with an item, and the text that the item is written as. -/
structure Field where
  key : String
  text : List Char
  item : Item

/-- The line of a field. -/
def Field.line (f : Field) : List Char :=
  keyLine f.key.toList f.text

/-- Is the field read back from its line? -/
structure Field.IsReadable (f : Field) : Prop where
  key : IsName f.key.toList
  text : IsValue f.text
  item : parseItem f.text = .ok f.item

theorem IsChild.of_isReadable {fields : List Field} (h : ∀ f ∈ fields, f.IsReadable) :
    ∀ child ∈ fields.map Field.line, IsChild child := by
  intro child hchild
  obtain ⟨f, hf, rfl⟩ := List.mem_map.1 hchild
  exact .keyLine (h f hf).key (h f hf).text

private theorem parseMapping_lines {fields : List Field} (h : ∀ f ∈ fields, f.IsReadable) (items : Entries Item) :
    parseMapping items (fields.map Field.line) = .ok (items.putAll (fields.map fun f => (f.key, f.item))) := by
  induction fields generalizing items with
  | nil => rfl
  | cons f fields ih =>
    have hf := h f List.mem_cons_self
    have hkey : readKey? f.line = some (f.key, f.text) := by
      rw [Field.line, readKey?_keyLine hf.key hf.text.bare, String.ofList_toList]
    simp only [List.map_cons, parseMapping, hkey, hf.item]
    exact ih (fun g hg => h g (List.mem_cons_of_mem _ hg)) _

/-- The value of an entry with fields below it. -/
def mappingEntry (items : Entries Item) : Entry :=
  if items.isEmpty then .item (.scalar .null) else .mapping items

theorem entry_of_fields (key : String) {fields : List Field} (h : ∀ f ∈ fields, f.IsReadable)
    (hkeys : (fields.map Field.key).Nodup) :
    Section.entry ⟨key, [], fields.map Field.line⟩ = .ok (mappingEntry (fields.map fun f => (f.key, f.item))) := by
  cases fields with
  | nil => rfl
  | cons f fields =>
    have hbullet : bullet? f.line = none := bullet?_keyLine (h f List.mem_cons_self).key f.text
    have hread := parseMapping_lines h []
    have hitems : Entries.putAll [] ((f :: fields).map fun f => (f.key, f.item)) =
        (f :: fields).map fun f => (f.key, f.item) :=
      Entries.putAll_nil_of_nodup (by simpa [Entries.keys, Function.comp_def] using hkeys)
    rw [hitems] at hread
    rw [List.map_cons] at hread ⊢
    rw [Section.entry_fields (by simp [hbullet]), hread]
    rfl

/-! ### Blocks -/

/-- Entries with distinct keys make up a block in their order. -/
theorem readSections_map {α : Type} {as : List α} {entry : α → Section} {value : α → Entry}
    (h : ∀ a ∈ as, (entry a).entry = .ok (value a)) (hkeys : (as.map fun a => (entry a).key).Nodup) :
    readSections [] (as.map entry) = .ok (as.map fun a => ((entry a).key, value a)) := by
  have hpairs : ∀ a ∈ as, (entry a).pair = .ok ((entry a).key, value a) := by
    intro a ha
    rw [Section.pair, h a ha]
    rfl
  have hblock : Entries.putAll [] (as.map fun a => ((entry a).key, value a)) =
      as.map fun a => ((entry a).key, value a) :=
    Entries.putAll_nil_of_nodup (by simpa [Entries.keys, Function.comp_def] using hkeys)
  rw [readSections_eq, mapM_map_eq_ok hpairs]
  exact congrArg Except.ok hblock

end Promptbook.Metadata
