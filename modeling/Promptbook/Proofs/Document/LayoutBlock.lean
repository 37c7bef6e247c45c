import Promptbook.Proofs.Document.Layout
import Promptbook.Proofs.Metadata.Refusals

/-!
# The block of a laid out prompt

The entries of a laid out prompt with the values that they are read as (`layoutEntries`).  Each of them can be
written and is read back, so the block of the document is the table of these entries (`parse_blockLines`).  The
value of the temperature is a parameter: it is what the literal is read as.
-/

namespace Promptbook.Document

open Promptbook.Number Promptbook.Text Promptbook.Metadata

/-! ### Parts -/

@[simp] theorem mem_part {α : Type} {write : Bool} {x y : α} : x ∈ part write y ↔ write = true ∧ x = y := by
  cases write <;> simp [part]

@[simp] theorem map_part {α β : Type} (write : Bool) (x : α) (f : α → β) :
    (part write x).map f = part write (f x) := by
  cases write <;> rfl

private theorem part_sublist {α : Type} (write : Bool) (x : α) : (part write x).Sublist [x] := by
  cases write
  · exact List.nil_sublist _
  · exact List.Sublist.refl _

theorem get?_part {α : Type} (write : Bool) (key name : String) (x : α) :
    Entries.get? (part write (key, x)) name = if write = true ∧ key = name then some x else none := by
  cases write <;> simp [part, Entries.get?]

/-! ### Keys -/

/-- The keys of a block, and those below them. -/
def layoutKeys : List String :=
  ["id", "version", "variant", "description", "models", "params", "inputs", "outputs", "notes",
    "temperature", "max_tokens", "required", "optional", "format", "schema"]

theorem isName_of_mem_layoutKeys : ∀ key ∈ layoutKeys, IsName key.toList := by
  decide

/-! ### Fields below a key -/

/-- A text as the value of a field. -/
def textItem (s : String) : Item :=
  .scalar (.text s)

/-- The fields of the settings. -/
def paramFields (t : List Char) (i : Item) (p : Prompt) : List Field :=
  [⟨"temperature", t, i⟩, ⟨"max_tokens", intText p.params.maxTokens, .scalar (.int p.params.maxTokens)⟩]

/-- Names as a list of texts. -/
def namesItem (names : List String) : Item :=
  .list ((names.map String.toList).map fun n => .text (String.ofList n))

/-- The fields of the inputs. -/
def inputFields (form : Form) (names : InputNames) : List Field :=
  part (form.bare "required" || !names.required.isEmpty)
      ⟨"required", inlineArray (names.required.map String.toList), namesItem names.required⟩ ++
    part (form.bare "optional" || !names.optional.isEmpty)
      ⟨"optional", inlineArray (names.optional.map String.toList), namesItem names.optional⟩

/-- The fields of the outputs. -/
def outputFields (form : Form) (outputs : Outputs) : List Field :=
  ⟨"format", form.formatText outputs.format, textItem outputs.format.word⟩ ::
    part outputs.schema.isSome
      ⟨"schema", doubleQuoted (outputs.schema.getD "").toList, textItem (outputs.schema.getD "")⟩

/-- The fields of the notes. -/
def noteFields (notes : Entries String) : List Field :=
  notes.map fun n => ⟨n.1, doubleQuoted n.2.toList, textItem n.2⟩

private theorem parseItem_word (format : OutputFormat) :
    parseItem format.word.toList = .ok (textItem format.word) := by
  have hplain : format.word.toList.isEmpty = false ∧ isBracketed format.word.toList = false ∧
      format.word ∉ ["null", "~", "true", "false"] ∧ unquote? format.word.toList = none ∧
      isIntegerLiteral (dropFinalNewline format.word.toList) = false ∧
      isDecimalLiteral (dropFinalNewline format.word.toList) = false := by
    cases format <;> decide
  obtain ⟨hne, hbracket, hword, hquote, hint, hdecimal⟩ := hplain
  simp only [List.mem_cons, List.not_mem_nil, or_false, not_or] at hword
  simp [parseItem, parseScalar, hne, hbracket, hword, hquote, hint, hdecimal, textItem, Except.map]

private theorem isValue_word (format : OutputFormat) : IsValue format.word.toList := by
  have hblank : format.word.toList.all (fun c => !isBlank c) = true := by
    cases format <;> decide
  exact .of_isBlank (by simpa using hblank)

variable {form : Form} {t : List Char} {p : Prompt} {i : Item}

private theorem readable_text {key s : String} (hkey : IsName key.toList) (hs : OneLine s.toList) :
    Field.IsReadable ⟨key, doubleQuoted s.toList, textItem s⟩ := by
  refine ⟨hkey, .doubleQuoted hs, ?_⟩
  rw [parseItem_doubleQuoted, String.ofList_toList]
  rfl

private theorem readable_format (form : Form) (format : OutputFormat) :
    Field.IsReadable ⟨"format", form.formatText format, textItem format.word⟩ := by
  have hkey : IsName "format".toList := isName_of_mem_layoutKeys _ (by simp [layoutKeys])
  unfold Form.formatText
  split
  · exact readable_text hkey (isValue_word format).oneLine
  · exact ⟨hkey, isValue_word format, parseItem_word format⟩

private theorem readable_names {key : String} {names : List String} (hkey : IsName key.toList)
    (h : ∀ n ∈ names, OneLine n.toList ∧ '"' ∉ n.toList) :
    Field.IsReadable ⟨key, inlineArray (names.map String.toList), namesItem names⟩ := by
  have hnames : ∀ n ∈ names.map String.toList, OneLine n ∧ '"' ∉ n := by
    intro n hn
    obtain ⟨name, hname, rfl⟩ := List.mem_map.1 hn
    exact h name hname
  exact ⟨hkey, .inlineArray fun n hn => (hnames n hn).1, parseItem_inlineArray hnames⟩

private theorem lt_limit_of_le {n k : Nat} (h : n ≤ 10 ^ k) (hk : k < digitLimit) : n < 10 ^ digitLimit :=
  Nat.lt_of_le_of_lt h (Nat.pow_lt_pow_right (by decide) hk)

private theorem paramFields_readable (h : IsPlain t p) (hi : parseItem t = .ok i) :
    ∀ f ∈ paramFields t i p, f.IsReadable := by
  intro f hf
  simp only [paramFields, List.mem_cons, List.not_mem_nil, or_false] at hf
  rcases hf with rfl | rfl
  · exact ⟨isName_of_mem_layoutKeys _ (by simp [layoutKeys]), .of_isLiteral h.literal.1, hi⟩
  · exact ⟨isName_of_mem_layoutKeys _ (by simp [layoutKeys]), .of_isLiteral (.inl (isIntegerLiteral_intText _)),
      parseItem_intText (lt_limit_of_le h.maxTokens (by decide))⟩

private theorem inputFields_readable (h : IsPlain t p) : ∀ f ∈ inputFields form p.inputs, f.IsReadable := by
  intro f hf
  simp only [inputFields, List.mem_append, mem_part] at hf
  rcases hf with ⟨-, rfl⟩ | ⟨-, rfl⟩
  · exact readable_names (isName_of_mem_layoutKeys _ (by simp [layoutKeys])) h.required
  · exact readable_names (isName_of_mem_layoutKeys _ (by simp [layoutKeys])) h.optional

private theorem outputFields_readable (h : IsPlain t p) : ∀ f ∈ outputFields form p.outputs, f.IsReadable := by
  intro f hf
  simp only [outputFields, List.mem_cons, mem_part] at hf
  rcases hf with rfl | ⟨hschema, rfl⟩
  · exact readable_format form p.outputs.format
  · obtain ⟨s, hs⟩ := Option.isSome_iff_exists.1 hschema
    rw [hs]
    exact readable_text (isName_of_mem_layoutKeys _ (by simp [layoutKeys])) (h.schema s hs)

private theorem noteFields_readable (h : IsPlain t p) : ∀ f ∈ noteFields p.notes, f.IsReadable := by
  intro f hf
  obtain ⟨n, hn, rfl⟩ := List.mem_map.1 hf
  exact readable_text (h.notes n hn).1 (h.notes n hn).2

/-! ### Entries -/

/-- A text as the value of an entry. -/
def textEntry (s : String) : Entry :=
  .item (textItem s)

/-- Fields as the value of an entry. -/
def fieldsEntry (fields : List Field) : Entry :=
  mappingEntry (fields.map fun f => (f.key, f.item))

/-- The entries of the block with the values that they are read as, the temperature being read as the given
item. -/
def layoutEntries (form : Form) (t : List Char) (p : Prompt) (i : Item) : List (Section × Entry) :=
  [(⟨"id", doubleQuoted p.id.toList, []⟩, textEntry p.id),
      (⟨"version", intText p.version, []⟩, .item (.scalar (.int p.version)))] ++
    part p.variant.isSome
      (⟨"variant", doubleQuoted (p.variant.getD "").toList, []⟩, textEntry (p.variant.getD "")) ++
    part (form.bare "description" || !p.description.isEmpty)
      (⟨"description", doubleQuoted p.description.toList, []⟩, textEntry p.description) ++
    part (form.bare "models" || !p.models.isEmpty)
      (⟨"models", [], (p.models.map String.toList).map bulletLine⟩, listEntry (p.models.map String.toList)) ++
    [(⟨"params", [], (paramFields t i p).map Field.line⟩, fieldsEntry (paramFields t i p))] ++
    part (form.bare "inputs" || !(inputLines form p.inputs).isEmpty)
      (⟨"inputs", [], (inputFields form p.inputs).map Field.line⟩, fieldsEntry (inputFields form p.inputs)) ++
    [(⟨"outputs", [], (outputFields form p.outputs).map Field.line⟩, fieldsEntry (outputFields form p.outputs))] ++
    part (form.bare "notes" || !p.notes.isEmpty)
      (⟨"notes", [], (noteFields p.notes).map Field.line⟩, fieldsEntry (noteFields p.notes))

theorem map_line_inputFields (form : Form) (names : InputNames) :
    (inputFields form names).map Field.line = inputLines form names := by
  simp only [inputFields, inputLines, List.map_append, map_part, Field.line]

private theorem map_line_outputFields (form : Form) (outputs : Outputs) :
    (outputFields form outputs).map Field.line = outputLines form outputs := by
  simp only [outputFields, outputLines, List.map_cons, map_part, Field.line]

private theorem map_line_noteFields (notes : Entries String) :
    (noteFields notes).map Field.line = notes.map fun n => keyLine n.1.toList (doubleQuoted n.2.toList) := by
  rw [noteFields, List.map_map]
  rfl

/-- The entries are those that are written. -/
theorem map_fst_layoutEntries (form : Form) (t : List Char) (p : Prompt) (i : Item) :
    (layoutEntries form t p i).map (·.1) = layoutSections form t p := by
  simp only [layoutEntries, layoutSections, List.map_append, map_part, List.map_cons, List.map_nil,
    map_line_inputFields, map_line_outputFields, map_line_noteFields]
  rfl

private theorem map_key_layoutSections (form : Form) (t : List Char) (p : Prompt) :
    ((layoutSections form t p).map Section.key).Nodup := by
  -- what is left out leaves a part of the list of all keys
  have hsub : ((layoutSections form t p).map Section.key).Sublist
      (["id", "version"] ++ ["variant"] ++ ["description"] ++ ["models"] ++ ["params"] ++ ["inputs"] ++
        ["outputs"] ++ ["notes"]) := by
    simp only [layoutSections, List.map_append, map_part, List.map_cons, List.map_nil]
    have hbefore := (((List.Sublist.refl ["id", "version"]).append (part_sublist p.variant.isSome "variant")).append
      (part_sublist (form.bare "description" || !p.description.isEmpty) "description")).append
        (part_sublist (form.bare "models" || !p.models.isEmpty) "models")
    exact (((hbefore.append (.refl _)).append (part_sublist _ _)).append (.refl _)).append (part_sublist _ _)
  exact hsub.nodup (by simp)

/-! ### Reading the entries -/

private theorem entry_text (key : String) (s : String) :
    Section.entry ⟨key, doubleQuoted s.toList, []⟩ = .ok (textEntry s) := by
  have hread : parseItem (doubleQuoted s.toList) = .ok (textItem s) := by
    rw [parseItem_doubleQuoted, String.ofList_toList]
    rfl
  exact entry_of_value (doubleQuoted_ne_nil _) hread

private theorem intText_ne_nil (n : Int) : intText n ≠ [] :=
  IsLiteral.ne_nil (.inl (isIntegerLiteral_intText n))

private theorem paramFields_keys (t : List Char) (i : Item) (p : Prompt) :
    ((paramFields t i p).map Field.key).Nodup := by
  show ["temperature", "max_tokens"].Nodup
  simp

private theorem inputFields_keys (form : Form) (names : InputNames) :
    ((inputFields form names).map Field.key).Nodup := by
  have hsub : ((inputFields form names).map Field.key).Sublist (["required"] ++ ["optional"]) := by
    simp only [inputFields, List.map_append, map_part]
    exact (part_sublist _ _).append (part_sublist _ _)
  exact hsub.nodup (by simp)

private theorem outputFields_keys (form : Form) (outputs : Outputs) :
    ((outputFields form outputs).map Field.key).Nodup := by
  have hsub : ((outputFields form outputs).map Field.key).Sublist ["format", "schema"] := by
    simp only [outputFields, List.map_cons, map_part]
    exact (part_sublist _ _).cons_cons _
  exact hsub.nodup (by simp)

private theorem noteFields_keys (h : IsPlain t p) : ((noteFields p.notes).map Field.key).Nodup := by
  have hkeys : (noteFields p.notes).map Field.key = p.notes.keys := by
    rw [noteFields, List.map_map]
    rfl
  rw [hkeys]
  exact h.noteKeys

/-- Every entry is read back as its value. -/
theorem layoutEntries_read (h : IsPlain t p) (hi : parseItem t = .ok i) :
    ∀ e ∈ layoutEntries form t p i, e.1.entry = .ok e.2 := by
  intro e he
  simp only [layoutEntries, List.mem_append, List.mem_cons, List.not_mem_nil, or_false, mem_part] at he
  rcases he with (((((((rfl | rfl) | ⟨-, rfl⟩) | ⟨-, rfl⟩) | ⟨-, rfl⟩) | rfl) | ⟨-, rfl⟩) | rfl) | ⟨-, rfl⟩
  · exact entry_text _ _
  · have hversion : p.version.natAbs ≤ 10 ^ 308 := by
      have := h.version
      omega
    exact entry_of_value (intText_ne_nil _) (parseItem_intText (lt_limit_of_le hversion (by decide)))
  · exact entry_text _ _
  · exact entry_text _ _
  · exact entry_of_bullets _ _
  · exact entry_of_fields _ (paramFields_readable h hi) (paramFields_keys t i p)
  · exact entry_of_fields _ (inputFields_readable h) (inputFields_keys form p.inputs)
  · exact entry_of_fields _ (outputFields_readable h) (outputFields_keys form p.outputs)
  · exact entry_of_fields _ (noteFields_readable h) (noteFields_keys h)

private theorem writable_value {key : String} {value : List Char} (hkey : key ∈ layoutKeys) (hvalue : IsValue value) :
    Section.IsWritable ⟨key, value, []⟩ :=
  ⟨isName_of_mem_layoutKeys key hkey, hvalue, by simp⟩

private theorem writable_children {key : String} {children : List (List Char)} (hkey : key ∈ layoutKeys)
    (hchildren : ∀ child ∈ children, IsChild child) : Section.IsWritable ⟨key, [], children⟩ :=
  ⟨isName_of_mem_layoutKeys key hkey, .nil, hchildren⟩

/-- Every entry can be written. -/
theorem layoutSections_writable (h : IsPlain t p) : ∀ s ∈ layoutSections form t p, s.IsWritable := by
  intro s hs
  simp only [layoutSections, List.mem_append, List.mem_cons, List.not_mem_nil, or_false, mem_part] at hs
  rcases hs with (((((((rfl | rfl) | ⟨hv, rfl⟩) | ⟨-, rfl⟩) | ⟨-, rfl⟩) | rfl) | ⟨-, rfl⟩) | rfl) | ⟨-, rfl⟩
  · exact writable_value (by simp [layoutKeys]) (.doubleQuoted h.id)
  · exact writable_value (by simp [layoutKeys]) (.of_isLiteral (.inl (isIntegerLiteral_intText _)))
  · obtain ⟨v, hv⟩ := Option.isSome_iff_exists.1 hv
    rw [hv]
    exact writable_value (by simp [layoutKeys]) (.doubleQuoted (h.variant v hv).2)
  · exact writable_value (by simp [layoutKeys]) (.doubleQuoted h.description)
  · refine writable_children (by simp [layoutKeys]) fun child hchild => ?_
    obtain ⟨m, hm, rfl⟩ := List.mem_map.1 hchild
    obtain ⟨name, hname, rfl⟩ := List.mem_map.1 hm
    exact .bulletLine (h.models name hname)
  · refine writable_children (by simp [layoutKeys]) fun child hchild => ?_
    simp only [List.mem_cons, List.not_mem_nil, or_false] at hchild
    rcases hchild with rfl | rfl
    · exact .keyLine (isName_of_mem_layoutKeys _ (by simp [layoutKeys])) (.of_isLiteral h.literal.1)
    · exact .keyLine (isName_of_mem_layoutKeys _ (by simp [layoutKeys]))
        (.of_isLiteral (.inl (isIntegerLiteral_intText _)))
  · rw [← map_line_inputFields]
    exact writable_children (by simp [layoutKeys]) (.of_isReadable (inputFields_readable h))
  · rw [← map_line_outputFields]
    exact writable_children (by simp [layoutKeys]) (.of_isReadable (outputFields_readable h))
  · rw [← map_line_noteFields]
    exact writable_children (by simp [layoutKeys]) (.of_isReadable (noteFields_readable h))

/-- The block of the document of a prompt, the temperature being read as the given item. -/
def blockOf (form : Form) (t : List Char) (p : Prompt) (i : Item) : Block :=
  (layoutEntries form t p i).map fun e => (e.1.key, e.2)

/-- The block is the table of the entries, if the literal of the temperature is read. -/
theorem parse_blockLines (h : IsPlain t p) (hi : parseItem t = .ok i) :
    parse (unlines (blockLines form t p)) = .ok (blockOf form t p i) := by
  rw [parse, blockLines, sections_unlines (layoutSections_writable h), ← map_fst_layoutEntries form t p i]
  refine readSections_map (layoutEntries_read h hi) ?_
  have hkeys := map_key_layoutSections form t p
  rw [← map_fst_layoutEntries form t p i, List.map_map] at hkeys
  exact hkeys

/-- The block cannot be read, if the literal of the temperature is an integer with too many digits. -/
theorem parse_blockLines_of_isLongInteger (h : IsPlain t p) (hlong : IsLongInteger t) :
    ∃ digits, digitLimit < digits ∧ parse (unlines (blockLines form t p)) = .error (.integerTooLong digits) := by
  refine (parse_refusedIf _).refused ?_
  -- the literal is a scalar of the settings, which are always written
  have hsection : (⟨"params", [], [keyLine "temperature".toList t,
      keyLine "max_tokens".toList (intText p.params.maxTokens)]⟩ : Section) ∈ layoutSections form t p := by
    simp [layoutSections]
  have hkey : IsName "temperature".toList := isName_of_mem_layoutKeys _ (by simp [layoutKeys])
  have htext : itemTexts t = [t] := by
    rw [itemTexts, if_neg (by simpa using h.literal.1.ne_nil), h.literal.1.isBracketed, if_neg (by decide)]
  refine ⟨_, by rw [blockLines, sections_unlines (layoutSections_writable h)]; exact hsection, t, ?_, hlong⟩
  have hread := readKey?_keyLine hkey (IsValue.of_isLiteral h.literal.1).bare
  simp only [Section.scalarTexts, List.isEmpty_nil, if_true, bullet?_keyLine hkey, Option.isSome_none,
    Bool.false_eq_true, if_false, List.filterMap_cons_some hread, List.flatMap_cons, htext]
  exact List.mem_append_left _ List.mem_cons_self

end Promptbook.Document
