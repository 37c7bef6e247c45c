import Promptbook.Proofs.Document.LayoutBlock
import Promptbook.Proofs.Entries

/-!
# The fields of a laid out prompt

The table of a laid out prompt (`blockOf`) gives back the fields of the prompt (`promptOf_blockOf`): its texts and
lists as they are, its numbers because they are of moderate size (`exists_quantity`), and what was left out because
the default of a part that is left out is the empty one.
-/

namespace Promptbook.Document

open Promptbook.Number Promptbook.Text Promptbook.Metadata

/-! ### Numbers -/

private theorem integerQuantity_of_le {n : Int} (h : n.natAbs ≤ 10 ^ 308) :
    integerQuantity n = .ok (some (.int n)) := by
  rw [integerQuantity, if_pos ((isFinite_ofInt n).2 (lt_of_le_of_lt h ten_pow_lt_overflowBound))]

private theorem requireQuantity_int {n : Int} (field : String) (h : n.natAbs ≤ 10 ^ 308) :
    requireQuantity field (.item (.scalar (.int n))) = .ok (.int n) := by
  rw [requireQuantity, quantity, integerQuantity_of_le h]

private theorem natAbs_withSign (negative : Bool) (n : Nat) : (withSign negative n).natAbs = n := by
  cases negative <;> simp [withSign]

private theorem numeralOf_of_digits {cs : List Char} (h : ∀ c ∈ cs, isDigit c = true) :
    numeralOf cs = ⟨digitValues cs, [], 0⟩ := by
  have hwhole : cs.takeWhile isDigit = cs := List.takeWhile_eq_self_iff.2 h
  have hrest : cs.dropWhile isDigit = [] := List.dropWhile_eq_nil_iff.2 h
  simp [numeralOf, hwhole, hrest, splitSign, withSign, ofDigits]

private theorem numeralOf_digits_lt (cs : List Char) :
    ∀ d ∈ (numeralOf cs).whole ++ (numeralOf cs).fraction, d < 10 := by
  intro d hd
  rcases List.mem_append.1 hd with hd | hd
  · exact digitValues_lt (fun c hc => List.mem_takeWhile_imp hc) d hd
  · exact digitValues_lt (fun c hc => List.mem_takeWhile_imp hc) d hd

/-- A literal of moderate size is read as a number, unless it is an integer with too many digits. -/
theorem exists_quantity {t : List Char} (hliteral : IsLiteral t) (hsize : literalMagnitude t ≤ 10 ^ 308)
    (hshort : ¬IsLongInteger t) :
    ∃ i q, parseItem t = .ok i ∧ isNothing (.item i) = false ∧
      (∀ field, requireQuantity field (.item i) = .ok q) ∧ q.toFloat = literalFloat t := by
  have hbound : (10 : ℚ) ^ 308 < overflowBound := by exact_mod_cast ten_pow_lt_overflowBound
  -- an integer literal is a decimal literal as well, but it is read as an integer first
  by_cases hint : isIntegerLiteral t = true
  · have hdigits := (isIntegerLiteral_iff.1 hint).2
    have hlimit : ¬digitLimit < (splitSign t).2.length := by
      intro hlong
      refine hshort ⟨?_, ?_⟩ <;> rw [hliteral.dropFinalNewline_eq] <;> assumption
    have hnatAbs : (withSign (splitSign t).1 (ofDigits (digitValues (splitSign t).2))).natAbs ≤ 10 ^ 308 := by
      rw [natAbs_withSign]
      simp only [literalMagnitude, numeralOf_of_digits hdigits, List.append_nil, List.length_nil, Nat.cast_zero,
        sub_zero, zpow_zero, mul_one] at hsize
      exact_mod_cast hsize
    refine ⟨.scalar (.int (withSign (splitSign t).1 (ofDigits (digitValues (splitSign t).2)))), .int _, ?_, rfl,
      fun field => requireQuantity_int field hnatAbs, ?_⟩
    · rw [parseItem_of_isLiteral hliteral, parseScalar_of_isIntegerLiteral hliteral.dropFinalNewline_eq hint,
        if_neg hlimit]
      rfl
    · rw [literalFloat, numeralOf_of_digits hdigits, if_pos hint]
      rfl
  · have hfalse : isIntegerLiteral t = false := by simpa using hint
    have hdecimal : isDecimalLiteral t = true := hliteral.resolve_left hint
    have hfinite : isFinite ((numeralOf (splitSign t).2).toFloat (splitSign t).1) = true :=
      (isFinite_ofDecimal _ (numeralOf_digits_lt _) _).2 (lt_of_le_of_lt hsize hbound)
    refine ⟨.scalar (.float ((numeralOf (splitSign t).2).toFloat (splitSign t).1)),
      .float ((numeralOf (splitSign t).2).toFloat (splitSign t).1), ?_, rfl, ?_, ?_⟩
    · rw [parseItem_of_isLiteral hliteral, parseScalar_of_isDecimalLiteral hfalse hdecimal]
      rfl
    · intro field
      rw [requireQuantity, quantity, floatQuantity?, if_pos hfinite]
    · rw [literalFloat, hfalse, if_neg (by decide)]
      rfl

/-! ### Values -/

private theorem entryText_textEntry (s : String) : String.ofList (entryText (textEntry s)) = s := by
  show String.ofList s.toList = s
  exact String.ofList_toList

private theorem textList_listEntry (names : List String) :
    textList (some (listEntry (names.map String.toList))) = names := by
  cases names with
  | nil => rfl
  | cons name names => simp [listEntry, textList, scalarText, Function.comp_def]

private theorem textList_namesItem (names : List String) : textList (some (.item (namesItem names))) = names := by
  simp [namesItem, textList, scalarText, Function.comp_def]

private theorem mappingOf_fieldsEntry (fields : List Field) :
    mappingOf (some (fieldsEntry fields)) = fields.map fun f => (f.key, .item f.item) := by
  cases fields with
  | nil => rfl
  | cons f fields => simp [fieldsEntry, mappingEntry, mappingOf, Function.comp_def]

/-- Fields that are left out when there are none. -/
private theorem mappingOf_of_written {write : Bool} {fields : List Field} (h : fields ≠ [] → write = true) :
    mappingOf (if write = true then some (fieldsEntry fields) else none) =
      fields.map fun f => (f.key, .item f.item) := by
  split
  · exact mappingOf_fieldsEntry fields
  · next hleft =>
    obtain rfl : fields = [] := by_contra fun hne => hleft (h hne)
    rfl

/-! ### Entries of the table -/

variable {form : Form} {t : List Char} {p : Prompt} {i : Item}

private theorem blockOf_eq (form : Form) (t : List Char) (p : Prompt) (i : Item) :
    blockOf form t p i =
      [("id", textEntry p.id), ("version", .item (.scalar (.int p.version)))] ++
        part p.variant.isSome ("variant", textEntry (p.variant.getD "")) ++
        part (form.bare "description" || !p.description.isEmpty) ("description", textEntry p.description) ++
        part (form.bare "models" || !p.models.isEmpty) ("models", listEntry (p.models.map String.toList)) ++
        [("params", fieldsEntry (paramFields t i p))] ++
        part (form.bare "inputs" || !(inputLines form p.inputs).isEmpty)
          ("inputs", fieldsEntry (inputFields form p.inputs)) ++
        [("outputs", fieldsEntry (outputFields form p.outputs))] ++
        part (form.bare "notes" || !p.notes.isEmpty) ("notes", fieldsEntry (noteFields p.notes)) := by
  simp only [blockOf, layoutEntries, List.map_append, map_part, List.map_cons, List.map_nil]

private theorem present?_text {block : Block} {key s : String} (h : block.get? key = some (textEntry s)) :
    present? block key = some (textEntry s) := by
  rw [present?, h]
  rfl

private theorem requireText_id : requireText (blockOf form t p i) "id" = .ok p.id := by
  have hfound : (blockOf form t p i).get? "id" = some (textEntry p.id) := by simp [blockOf_eq, Entries.get?]
  rw [requireText, present?_text hfound]
  simp only [entryText_textEntry]

private theorem requireVersion_blockOf (h : 1 ≤ p.version ∧ p.version ≤ 10 ^ 308) :
    requireVersion (blockOf form t p i) = .ok p.version := by
  have hfound : (blockOf form t p i).get? "version" = some (.item (.scalar (.int p.version))) := by
    simp [blockOf_eq, Entries.get?]
  have hpresent : present? (blockOf form t p i) "version" = some (.item (.scalar (.int p.version))) := by
    rw [present?, hfound]
    rfl
  have hsize : p.version.natAbs ≤ 10 ^ 308 := by omega
  have hpos : ¬p.version < 1 := by omega
  simp [requireVersion, hpresent, requireQuantity_int _ hsize, Quantity.isWhole, Quantity.toInt, hpos]

private theorem variant_blockOf (h : ∀ v ∈ p.variant, v ≠ "") :
    Key.variantOf ((present? (blockOf form t p i) "variant").map fun e => String.ofList (entryText e)) =
      p.variant := by
  have hfound : (blockOf form t p i).get? "variant" = p.variant.map textEntry := by
    cases hvariant : p.variant <;> simp [blockOf_eq, Entries.get?_append, get?_part, Entries.get?, hvariant]
  cases hvariant : p.variant with
  | none =>
    rw [hvariant] at hfound
    rw [present?, hfound]
    rfl
  | some v =>
    rw [hvariant] at hfound
    rw [present?_text hfound]
    have hne : v ≠ "" := h v hvariant
    simp [Key.variantOf, entryText_textEntry, hne]

private theorem description_blockOf :
    String.ofList ((((blockOf form t p i).get? "description").map entryText).getD []) = p.description := by
  have hfound : (blockOf form t p i).get? "description" =
      if (form.bare "description" || !p.description.isEmpty) = true then some (textEntry p.description)
      else none := by
    simp [blockOf_eq, Entries.get?_append, get?_part, Entries.get?]
  rw [hfound]
  split
  · exact entryText_textEntry p.description
  · next hleft =>
    have hempty : p.description = "" := by simpa using (by simpa using hleft : _ ∧ _).2
    rw [hempty]
    rfl

private theorem models_blockOf : textList ((blockOf form t p i).get? "models") = p.models := by
  have hfound : (blockOf form t p i).get? "models" =
      if (form.bare "models" || !p.models.isEmpty) = true then some (listEntry (p.models.map String.toList))
      else none := by
    simp [blockOf_eq, Entries.get?_append, get?_part, Entries.get?]
  rw [hfound]
  split
  · exact textList_listEntry p.models
  · next hleft =>
    have hempty : p.models = [] := (by simpa using hleft : _ ∧ _).2
    rw [hempty]
    rfl

private theorem params_blockOf : mappingOf ((blockOf form t p i).get? "params") =
    (paramFields t i p).map fun f => (f.key, .item f.item) := by
  have hfound : (blockOf form t p i).get? "params" = some (fieldsEntry (paramFields t i p)) := by
    simp [blockOf_eq, Entries.get?_append, get?_part, Entries.get?]
  rw [hfound]
  exact mappingOf_fieldsEntry _

private theorem inputs_blockOf : mappingOf ((blockOf form t p i).get? "inputs") =
    (inputFields form p.inputs).map fun f => (f.key, .item f.item) := by
  have hfound : (blockOf form t p i).get? "inputs" =
      if (form.bare "inputs" || !(inputLines form p.inputs).isEmpty) = true then
        some (fieldsEntry (inputFields form p.inputs)) else none := by
    simp [blockOf_eq, Entries.get?_append, get?_part, Entries.get?]
  rw [hfound]
  refine mappingOf_of_written fun hne => ?_
  have hlines : inputLines form p.inputs ≠ [] := by
    rw [← map_line_inputFields]
    simpa using hne
  simp [hlines]

private theorem outputs_blockOf : mappingOf ((blockOf form t p i).get? "outputs") =
    (outputFields form p.outputs).map fun f => (f.key, .item f.item) := by
  have hfound : (blockOf form t p i).get? "outputs" = some (fieldsEntry (outputFields form p.outputs)) := by
    simp [blockOf_eq, Entries.get?_append, get?_part, Entries.get?]
  rw [hfound]
  exact mappingOf_fieldsEntry _

private theorem notes_blockOf : mappingOf ((blockOf form t p i).get? "notes") =
    (noteFields p.notes).map fun f => (f.key, .item f.item) := by
  have hfound : (blockOf form t p i).get? "notes" =
      if (form.bare "notes" || !p.notes.isEmpty) = true then some (fieldsEntry (noteFields p.notes)) else none := by
    simp [blockOf_eq, Entries.get?_append, get?_part, Entries.get?]
  rw [hfound]
  refine mappingOf_of_written fun hne => ?_
  have hnotes : p.notes ≠ [] := by simpa [noteFields] using hne
  simp [hnotes]

/-! ### Fields below a key -/

/-- Names that are left out when there are none. -/
private theorem textList_of_written (kept : Bool) (names : List String) :
    textList (if (kept || !names.isEmpty) = true then some (.item (namesItem names)) else none) = names := by
  split
  · exact textList_namesItem names
  · next hleft =>
    have hempty : names = [] := (by simpa using hleft : _ ∧ _).2
    rw [hempty]
    rfl

private theorem required_inputFields (form : Form) (names : InputNames) :
    textList (Entries.get? ((inputFields form names).map fun f => (f.key, Entry.item f.item)) "required") =
      names.required := by
  rw [← textList_of_written (form.bare "required") names.required]
  simp [inputFields, Entries.get?_append, get?_part]

private theorem optional_inputFields (form : Form) (names : InputNames) :
    textList (Entries.get? ((inputFields form names).map fun f => (f.key, Entry.item f.item)) "optional") =
      names.optional := by
  rw [← textList_of_written (form.bare "optional") names.optional]
  simp [inputFields, Entries.get?_append, get?_part]

private theorem temperature_paramFields {q : Quantity} (hpresent : isNothing (.item i) = false)
    (hread : ∀ field, requireQuantity field (.item i) = .ok q) :
    optionalQuantity "params.temperature"
      (present? ((paramFields t i p).map fun f => (f.key, Entry.item f.item)) "temperature") = .ok (some q) := by
  have hfound : present? ((paramFields t i p).map fun f => (f.key, Entry.item f.item)) "temperature" =
      some (.item i) := by
    simp [present?, paramFields, Entries.get?, hpresent]
  rw [hfound, optionalQuantity, hread]
  rfl

private theorem maxTokens_paramFields (h : p.params.maxTokens.natAbs ≤ 10 ^ 308) :
    optionalQuantity "params.max_tokens"
      (present? ((paramFields t i p).map fun f => (f.key, Entry.item f.item)) "max_tokens") =
        .ok (some (.int p.params.maxTokens)) := by
  have hfound : present? ((paramFields t i p).map fun f => (f.key, Entry.item f.item)) "max_tokens" =
      some (.item (.scalar (.int p.params.maxTokens))) := by
    simp [present?, paramFields, Entries.get?, isNothing]
  rw [hfound, optionalQuantity, requireQuantity_int _ h]
  rfl

private theorem format_outputFields (form : Form) (outputs : Outputs) :
    outputFormat (present? ((outputFields form outputs).map fun f => (f.key, Entry.item f.item)) "format") =
      .ok outputs.format := by
  have hfound : Entries.get? ((outputFields form outputs).map fun f => (f.key, Entry.item f.item)) "format" =
      some (textEntry outputs.format.word) := by
    simp [outputFields, Entries.get?, textEntry]
  rw [present?_text hfound]
  simp only [outputFormat, entryText_textEntry, OutputFormat.ofWord?_word]

private theorem schema_outputFields (form : Form) (outputs : Outputs) :
    ((present? ((outputFields form outputs).map fun f => (f.key, Entry.item f.item)) "schema").map fun e =>
      String.ofList (entryText e)) = outputs.schema := by
  have hfound : Entries.get? ((outputFields form outputs).map fun f => (f.key, Entry.item f.item)) "schema" =
      outputs.schema.map textEntry := by
    cases hschema : outputs.schema <;> simp [outputFields, get?_part, Entries.get?, textEntry, hschema]
  cases hschema : outputs.schema with
  | none =>
    rw [hschema] at hfound
    rw [present?, hfound]
    rfl
  | some s =>
    rw [hschema] at hfound
    rw [present?_text hfound, Option.map_some, entryText_textEntry]

private theorem notes_noteFields (notes : Entries String) :
    (((noteFields notes).map fun f => (f.key, Entry.item f.item)).map fun e =>
      (e.1, String.ofList (entryText e.2))) = notes := by
  have hitem : ∀ n : String × String, (n.1, String.ofList (entryText (.item (textItem n.2)))) = n :=
    fun n => by rw [← textEntry, entryText_textEntry]
  simp [noteFields, Function.comp_def, hitem]

/-! ### The prompt -/

/-- The table gives back the prompt, if the value of the temperature is a number that the literal denotes. -/
theorem promptOf_blockOf (h : IsPlain t p) {q : Quantity} (hpresent : isNothing (.item i) = false)
    (hread : ∀ field, requireQuantity field (.item i) = .ok q) (hq : q.toFloat = literalFloat t) :
    promptOf (blockOf form t p i) ⟨p.system.toList, p.user.toList⟩ = .ok p := by
  simp only [promptOf, requireText_id, requireVersion_blockOf h.version, params_blockOf, inputs_blockOf,
    outputs_blockOf, notes_blockOf, temperature_paramFields hpresent hread, maxTokens_paramFields h.maxTokens,
    format_outputFields, variant_blockOf fun v hv => (h.variant v hv).1, description_blockOf, models_blockOf,
    required_inputFields, optional_inputFields, schema_outputFields, notes_noteFields, String.ofList_toList]
  have htemperature : q.toFloat = p.params.temperature := hq.trans h.temperature.symm
  show Except.ok _ = Except.ok _
  simp only [Option.map_some, Option.getD_some, htemperature, Quantity.toInt]

end Promptbook.Document
