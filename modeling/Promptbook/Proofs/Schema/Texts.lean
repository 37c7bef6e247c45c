import Promptbook.Proofs.Entries
import Promptbook.Proofs.Json.Trees
import Promptbook.Proofs.Schema.Fitting
import Promptbook.Schema.Registry
import Promptbook.Telemetry.Observe

/-!
# Inputs made of texts

The built-in prompts take texts, words of closed lists, and lists of these.  Whatever a caller sends, such a schema
either finds faults or gives a record whose parts are made of texts (`isTextual_of_read_record`).  The record's table
can then always be made, hashed and written (`tableOf_of_isTextual`), so that nothing can go wrong with the inputs of
a built-in prompt but the reading itself: `usable_of_read_builtin`.
-/

namespace Promptbook

open Promptbook.Schema

/-! ### Values made of texts -/

/-- Is the value a text, a word of a closed list, or a list of such values? -/
inductive Value.IsTextual : Value → Prop
  | text (s : String) : IsTextual (.text s)
  | choice (c : Choice) : IsTextual (.choice c)
  | list {items : List Value} (h : ∀ v ∈ items, IsTextual v) : IsTextual (.list items)

namespace Value

/-- Was a tree made, and is no integer in it too long to be written? -/
def IsWritable (result : Except Misuse Json) : Prop :=
  ∃ j, result = .ok j ∧ j.holdsLongInteger = false

private theorem plainItems_of_isWritable {form : RecordForm} {free : Bool} {items : List Value}
    (h : ∀ v ∈ items, IsWritable (v.plainJson form free)) :
    ∃ js, plainItems form free items = .ok js ∧ Json.itemsHoldLongInteger js = false := by
  induction items with
  | nil => exact ⟨[], rfl, rfl⟩
  | cons v vs ih =>
    obtain ⟨j, hj, hshort⟩ := h v (by simp)
    obtain ⟨js, hjs, hrest⟩ := ih fun w hw => h w (by simp [hw])
    refine ⟨j :: js, ?_, ?_⟩
    · rw [plainItems, hj, hjs]
      rfl
    · rw [Json.itemsHoldLongInteger, hshort, hrest]
      rfl

theorem plainJson_of_isTextual {v : Value} (h : v.IsTextual) (form : RecordForm) (free : Bool) :
    IsWritable (v.plainJson form free) := by
  induction h with
  | text s => exact ⟨.text s, rfl, rfl⟩
  | choice c => exact ⟨.text c.word, rfl, rfl⟩
  | list _ ih =>
    obtain ⟨js, hjs, hshort⟩ := plainItems_of_isWritable ih
    refine ⟨.list js, ?_, hshort⟩
    rw [plainJson, hjs]
    rfl

theorem plainFields_of_isTextual {fields : List (FieldName × Value)} (h : ∀ f ∈ fields, f.2.IsTextual)
    (form : RecordForm) :
    ∃ es, plainFields form fields = .ok es ∧ Json.entriesHoldLongInteger es = false := by
  induction fields with
  | nil => exact ⟨[], rfl, rfl⟩
  | cons f fs ih =>
    obtain ⟨j, hj, hshort⟩ := plainJson_of_isTextual (h f (by simp)) form f.1.isFree
    obtain ⟨es, hes, hrest⟩ := ih fun g hg => h g (by simp [hg])
    refine ⟨if form.keepsNull || f.2.isPresent then (form.key f.1, j) :: es else es, ?_, ?_⟩
    · rw [plainFields, hj, hes]
      rfl
    · split
      · rw [Json.entriesHoldLongInteger, hshort, hrest]
        rfl
      · exact hrest

/-- Can inputs be hashed and written?  They can be written if they hold no integer that is too long. -/
structure Usable (inputs : Entries Value) : Prop where
  hashed : ∃ hash, hashInputs inputs = .ok hash
  written : entriesHoldLong inputs = false

/-- The table of a record made of texts can be made, hashed and written. -/
theorem tableOf_of_isTextual {fields : List (FieldName × Value)} (h : ∀ f ∈ fields, f.2.IsTextual) (form : RecordForm)
    (model : String) : ∃ inputs, (record model fields).tableOf form = .ok inputs ∧ Usable inputs := by
  obtain ⟨es, hes, hshort⟩ := plainFields_of_isTextual h form
  refine ⟨entriesToValues es, ?_, ⟨Hash.sha256 ((Json.table es).sortKeys.toText .compact), ?_⟩, ?_⟩
  · rw [tableOf, tabled, plainJson, hes]
    rfl
  · have htable : Value.table (entriesToValues es) = (Json.table es).toValue := rfl
    have hwritable : (Json.table es).holdsLongInteger = false := hshort
    rw [hashInputs, htable, canonicalText_toValue hwritable]
    rfl
  · rw [Json.entriesHoldLong_entriesToValues]
    exact hshort

end Value

namespace Schema

/-! ### Schemas that take texts -/

/-- Does the schema take texts, words of a closed list, or lists of these? -/
def Shape.takesTexts : Shape → Bool
  | .text _ _ | .choice _ => true
  | .list item _ _ => item.takesTexts
  | _ => false

/-- What a schema for texts reads is in the form of the schema, whatever it is read from. -/
theorem Shape.fits_of_read : (shape : Shape) → shape.takesTexts → {v w : Value} → shape.read v = .ok w → shape.Fits w
  | .text least most, _, v, w, hread => by
    obtain ⟨s, -, hs⟩ := bind_of_atHere hread
    exact ⟨s, text_of_boundedText hs, hs⟩
  | .choice options, _, v, w, hread => choice_of_read hread
  | .list item least most, htexts, v, w, hread => by
    obtain ⟨items, values, -, rfl, hleast, hmost, hvalues⟩ := items_of_read_list hread
    refine ⟨values, rfl, hleast, hmost, fun u hu => ?_⟩
    obtain ⟨input, -, hitem⟩ := hvalues u hu
    exact Shape.fits_of_read item htexts hitem

theorem Shape.isTextual_of_fits : (shape : Shape) → shape.takesTexts → {w : Value} → shape.Fits w → w.IsTextual
  | .text least most, _, w, hfits => by
    obtain ⟨s, rfl, -⟩ := hfits
    exact .text s
  | .choice options, _, w, hfits => by
    obtain ⟨c, rfl, -⟩ := hfits
    exact .choice c
  | .list item least most, htexts, w, hfits => by
    obtain ⟨values, rfl, -, -, hvalues⟩ := hfits
    exact .list fun u hu => Shape.isTextual_of_fits item htexts (hvalues u hu)

/-- What a schema for texts accepts, it reads as something made of texts. -/
theorem Shape.isTextual_of_read {shape : Shape} (htexts : shape.takesTexts) {v w : Value}
    (hread : shape.read v = .ok w) : w.IsTextual :=
  isTextual_of_fits shape htexts (fits_of_read shape htexts hread)

/-- The fields of a record in the form of schemas for texts are made of texts. -/
theorem FieldsFit.isTextual {fields : List (FieldRule × Shape)} {record : List (FieldName × Value)}
    (h : FieldsFit fields record) (htexts : ∀ field ∈ fields, field.2.takesTexts) : ∀ f ∈ record, f.2.IsTextual := by
  induction fields generalizing record with
  | nil =>
    obtain rfl := h
    nofun
  | cons field fields ih =>
    obtain ⟨v, rest, rfl, hv, hrest⟩ := h
    rw [List.forall_mem_cons] at htexts ⊢
    exact ⟨field.2.isTextual_of_fits htexts.1 hv, ih hrest htexts.2⟩

/-- A field of texts: what is given is read as made of texts, and so is what stands for an absent value. -/
structure IsTextField (field : FieldRule × Shape) : Prop where
  shape : field.2.takesTexts
  default : ∀ v, field.1.default = some v → v.IsTextual

theorem isTextual_of_mem_readFields {fields : List (FieldRule × Shape)} (hfields : ∀ f ∈ fields, IsTextField f)
    {entries : Entries Value} {part : FieldName × Value} (hpart : .ok part ∈ readFields fields entries) :
    part.2.IsTextual := by
  induction fields with
  | nil => cases hpart
  | cons f fields ih =>
    have hfirst := hfields f (by simp)
    rw [readFields, List.mem_cons] at hpart
    rcases hpart with hpart | hpart
    · obtain ⟨-, ⟨key, v, -, hread⟩ | ⟨-, hdefault⟩⟩ := named_eq_ok_iff.1 hpart.symm
      · exact Shape.isTextual_of_read hfirst.shape hread
      · exact hfirst.default part.2 hdefault
    · exact ih (fun g hg => hfields g (by simp [hg])) hpart

/-- A record with fields of texts is made of texts. -/
theorem isTextual_of_read_record {model : String} {fields : List (FieldRule × Shape)}
    (hfields : ∀ f ∈ fields, IsTextField f) {entries : Entries Value} {w : Value}
    (hread : (Shape.record model .ignored fields).read (.table entries) = .ok w) :
    ∃ record, w = .record model record ∧ ∀ f ∈ record, f.2.IsTextual := by
  obtain ⟨record, rfl, hrecord⟩ := parts_of_read_record hread
  rw [readExtras, List.append_nil] at hrecord
  refine ⟨record, rfl, fun f hf => ?_⟩
  have hmem : .ok f ∈ readFields fields entries := by
    rw [hrecord]
    exact List.mem_map_of_mem hf
  exact isTextual_of_mem_readFields hfields hmem

/-! ### The inputs of the built-in prompts -/

private theorem isTextField_required {name wire : String} {shape : Shape} (h : shape.takesTexts) :
    IsTextField (requiredAs name wire shape) :=
  ⟨h, nofun⟩

private theorem isTextField_defaulted {name : String} {v : Value} {shape : Shape} (h : shape.takesTexts)
    (hv : v.IsTextual) : IsTextField (defaulted name v shape) :=
  ⟨h, fun _ hw => Option.some.inj hw ▸ hv⟩

/-- The inputs of a built-in prompt are a record with fields of texts, and keys that it does not know are ignored. -/
theorem input_of_builtin {prompt : String} {shapes : PromptShapes}
    (h : Entries.get? SchemaBook.builtin prompt = some shapes) :
    ∃ model fields, shapes.input = .record model .ignored fields ∧ ∀ f ∈ fields, IsTextField f := by
  have hempty : (Value.text "").IsTextual := .text ""
  have hnone : (Value.list []).IsTextual := .list nofun
  have htone : (Value.choice friendlyTone).IsTextual := .choice friendlyTone
  have hmem := Entries.mem_values_of_get? h
  simp only [SchemaBook.builtin, Entries.values, List.map_cons, List.map_nil, List.mem_cons, List.not_mem_nil,
    or_false] at hmem
  rcases hmem with rfl | rfl | rfl | rfl <;> refine ⟨_, _, rfl, ?_⟩ <;> simp only [List.forall_mem_cons]
  · exact ⟨isTextField_required rfl, isTextField_defaulted rfl hempty, isTextField_defaulted rfl hempty,
      isTextField_defaulted rfl hempty, isTextField_defaulted rfl hempty, nofun⟩
  · exact ⟨isTextField_required rfl, nofun⟩
  · exact ⟨isTextField_required rfl, nofun⟩
  · exact ⟨isTextField_required rfl, isTextField_required rfl, isTextField_defaulted rfl hnone,
      isTextField_defaulted rfl htone, nofun⟩

/-- Inputs that the schema of a built-in prompt accepts become a table that can be hashed and written. -/
theorem usable_of_read_builtin {prompt : String} {shapes : PromptShapes}
    (hshapes : Entries.get? SchemaBook.builtin prompt = some shapes) {raw : Entries Value} {record : Value}
    (hread : shapes.input.read (.table raw) = .ok record) :
    ∃ inputs, record.tableOf .template = .ok inputs ∧ Value.Usable inputs := by
  obtain ⟨model, fields, hinput, hfields⟩ := input_of_builtin hshapes
  rw [hinput] at hread
  obtain ⟨parts, rfl, hparts⟩ := isTextual_of_read_record hfields hread
  exact Value.tableOf_of_isTextual hparts .template model

/-- Validated inputs are the table of the record that the schema of the prompt reads. -/
theorem validateInput_eq_ok_iff {book : SchemaBook} {prompt : String} {raw inputs : Entries Value} :
    book.validateInput prompt raw = .ok inputs ↔ ∃ shapes record, Entries.get? book prompt = some shapes ∧
      shapes.input.read (.table raw) = .ok record ∧ record.tableOf .template = .ok inputs := by
  rw [SchemaBook.validateInput, SchemaBook.require]
  cases Entries.get? book prompt with
  | none => simp [bind, Except.bind]
  | some shapes =>
    cases hread : shapes.input.read (.table raw) with
    | error faults => simp [bind, Except.bind, hread]
    | ok record =>
      cases htable : record.tableOf .template <;> simp [bind, Except.bind, hread, htable, Except.mapError]

/-- Inputs that the built-in schemas accept can be hashed and written. -/
theorem usable_of_validateInput {prompt : String} {raw inputs : Entries Value}
    (h : SchemaBook.builtin.validateInput prompt raw = .ok inputs) : Value.Usable inputs := by
  obtain ⟨shapes, record, hshapes, hread, htable⟩ := validateInput_eq_ok_iff.1 h
  obtain ⟨table, htable', husable⟩ := usable_of_read_builtin hshapes hread
  obtain rfl := Except.ok.inj (htable.symm.trans htable')
  exact husable

end Schema
end Promptbook
