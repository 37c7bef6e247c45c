import Promptbook.Proofs.Json.Trees
import Promptbook.Proofs.Schema.Fitting
import Promptbook.Prompt.Record

/-!
# Records are read from the wire as they were sent

A record is sent as a table with the wire names of its fields, without the fields that hold nothing.  If no field can
be taken for another, the fields that are in the table are found there, and the others are found absent
(`Sent.readFields_append`); a field that holds nothing gets it back as its default.  By recursion over the schema,
every value in the form of a schema returns (`Shape.Travels.returns`).  With what is known of readings this gives
`read_sent_record` for the records of the library.
-/

namespace Promptbook.Schema

open Promptbook.Fields

/-! ### The fields of a record -/

/-- How the fields of a record stand in a table: those that hold something under their wire names, in a form that is
read as their values, and the others left out, since their values stand for absent fields. -/
inductive Sent : List (FieldRule × Shape) → List (FieldName × Value) → Entries Value → Prop
  | nil : Sent [] [] []
  | given {rule : FieldRule} {shape : Shape} {v w : Value} {fields : List (FieldRule × Shape)}
    {record : List (FieldName × Value)} {entries : Entries Value} (hread : shape.read w = .ok v)
    (hpresent : w ≠ .null) (hrest : Sent fields record entries) :
    Sent ((rule, shape) :: fields) ((rule.name, v) :: record) ((rule.name.wire, w) :: entries)
  | leftOut {rule : FieldRule} {shape : Shape} {v : Value} {fields : List (FieldRule × Shape)}
    {record : List (FieldName × Value)} {entries : Entries Value} (hdefault : rule.default = some v)
    (hrest : Sent fields record entries) : Sent ((rule, shape) :: fields) ((rule.name, v) :: record) entries

section

variable {fields : List (FieldRule × Shape)} {record : List (FieldName × Value)} {entries : Entries Value}

theorem Sent.exists_field_of_mem_keys (h : Sent fields record entries) {key : String} (hkey : key ∈ entries.keys) :
    ∃ field ∈ fields, field.1.name.wire = key := by
  induction h with
  | nil => cases hkey
  | @given rule shape v w fields record entries _ _ _ ih =>
    rw [Entries.keys, List.map_cons, List.mem_cons] at hkey
    rcases hkey with rfl | hkey
    · exact ⟨(rule, shape), by simp, rfl⟩
    · obtain ⟨field, hfield, hwire⟩ := ih hkey
      exact ⟨field, by simp [hfield], hwire⟩
  | leftOut _ _ ih =>
    obtain ⟨field, hfield, hwire⟩ := ih hkey
    exact ⟨field, by simp [hfield], hwire⟩

theorem Sent.ne_null (h : Sent fields record entries) : ∀ e ∈ entries, e.2 ≠ .null := by
  induction h with
  | nil => nofun
  | given _ hpresent _ ih =>
    rw [List.forall_mem_cons]
    exact ⟨hpresent, ih⟩
  | leftOut _ _ ih => exact ih

theorem lookUp?_of_wire {f : FieldName} {v : Value} (h : entries.get? f.wire = some v) :
    lookUp? entries f = some (f.wire, v) := by
  rw [lookUp?, h]

theorem lookUp?_eq_none {f : FieldName} (hwire : f.wire ∉ entries.keys) (hname : f.name ∉ entries.keys) :
    lookUp? entries f = none := by
  rw [lookUp?, (Entries.get?_eq_none_iff entries f.wire).2 hwire, (Entries.get?_eq_none_iff entries f.name).2 hname]
  rfl

/-- A field that is absent and has a default comes first. -/
theorem readFields_cons_absent {rule : FieldRule} {shape : Shape} {v : Value}
    (habsent : lookUp? entries rule.name = none) (hdefault : rule.default = some v) :
    readFields ((rule, shape) :: fields) entries = .ok (rule.name, v) :: readFields fields entries := by
  rw [readFields, habsent]
  simp only [absent, hdefault]
  rfl

/-- The fields are read from the table, also if entries with other names stand before them. -/
theorem Sent.readFields_append (h : Sent fields record entries)
    (hapart : (fields.map fun field => field.1.name).Pairwise FieldName.Apart) {before : Entries Value}
    (hbefore : ∀ key ∈ before.keys, ∀ field ∈ fields, key ≠ field.1.name.wire ∧ key ≠ field.1.name.name) :
    readFields fields (before ++ entries) = record.map .ok := by
  induction h generalizing before with
  | nil => rfl
  | @given rule shape v w fields record entries hread _ hrest ih =>
    rw [List.map_cons, List.pairwise_cons] at hapart
    have hnew : rule.name.wire ∉ before.keys := fun hkey => (hbefore _ hkey (rule, shape) (by simp)).1 rfl
    have hget : Entries.get? (before ++ (rule.name.wire, w) :: entries) rule.name.wire = some w := by
      rw [Entries.get?_append, (Entries.get?_eq_none_iff before _).2 hnew]
      simp [Entries.get?]
    rw [readFields_cons (lookUp?_of_wire hget) hread, List.map_cons]
    refine congrArg _ ?_
    -- The entry of this field joins those before, and no later field takes it.
    have hassoc : before ++ (rule.name.wire, w) :: entries = (before ++ [(rule.name.wire, w)]) ++ entries := by simp
    rw [hassoc]
    refine ih hapart.2 fun key hkey field hfield => ?_
    rw [Entries.keys, List.map_append, List.mem_append] at hkey
    rcases hkey with hkey | hkey
    · exact hbefore key hkey field (by simp [hfield])
    · obtain rfl : key = rule.name.wire := by simpa using hkey
      have hfields := hapart.1 _ (List.mem_map_of_mem hfield)
      exact ⟨hfields.1, hfields.2.1⟩
  | @leftOut rule shape v fields record entries hdefault hrest ih =>
    rw [List.map_cons, List.pairwise_cons] at hapart
    have hfirst := fun key hkey => hbefore key hkey (rule, shape) (by simp)
    have hrestKeys : ∀ key ∈ entries.keys, rule.name.wire ≠ key ∧ rule.name.name ≠ key := by
      intro key hkey
      obtain ⟨field, hfield, rfl⟩ := hrest.exists_field_of_mem_keys hkey
      have hfields := hapart.1 _ (List.mem_map_of_mem hfield)
      exact ⟨hfields.1, hfields.2.2⟩
    have habsent : lookUp? (before ++ entries) rule.name = none := by
      apply lookUp?_eq_none
      · rw [Entries.keys, List.map_append, List.mem_append]
        rintro (hkey | hkey)
        · exact (hfirst _ hkey).1 rfl
        · exact (hrestKeys _ hkey).1 rfl
      · rw [Entries.keys, List.map_append, List.mem_append]
        rintro (hkey | hkey)
        · exact (hfirst _ hkey).2 rfl
        · exact (hrestKeys _ hkey).2 rfl
    rw [readFields_cons_absent habsent hdefault, List.map_cons]
    exact congrArg _ (ih hapart.2 fun key hkey field hfield => hbefore key hkey field (by simp [hfield]))

theorem Sent.extraEntries_eq_nil (h : Sent fields record entries) : extraEntries entries (fields.map (·.1)) = [] := by
  rw [extraEntries, List.filter_eq_nil_iff]
  intro e he
  have hkey : e.1 ∈ entries.keys := List.mem_map_of_mem he
  obtain ⟨field, hfield, hwire⟩ := h.exists_field_of_mem_keys hkey
  obtain ⟨v, hv⟩ := Option.ne_none_iff_exists'.1 (mt (Entries.get?_eq_none_iff entries e.1).1 (not_not.2 hkey))
  rw [← hwire] at hv
  have hused : e.1 ∈ usedKeys entries (fields.map (·.1)) := by
    rw [usedKeys, List.mem_filterMap]
    exact ⟨field.1, List.mem_map_of_mem hfield, by rw [lookUp?_of_wire hv, Option.map_some, hwire]⟩
  simpa using hused

/-- A record is read from the table in which its fields stand. -/
theorem Sent.read_record (h : Sent fields record entries)
    (hapart : (fields.map fun field => field.1.name).Pairwise FieldName.Apart) (model : String) (extras : Extras) :
    (Shape.record model extras fields).read (.table entries) = .ok (.record model record) := by
  have hfields : readFields fields ([] ++ entries) = record.map .ok := h.readFields_append hapart nofun
  exact read_record_of_fields hfields h.extraEntries_eq_nil

end

/-! ### Values that return -/

/-- Is the value sent as a tree that the schema reads as the value, and as nothing only if it is nothing? -/
def Shape.Returns (shape : Shape) (v : Value) : Prop :=
  ∃ j : Json, v.plainJson .wire false = .ok j ∧ shape.read j.toValue = .ok v ∧ (v ≠ .null → j.toValue ≠ .null)

theorem read_optional_of_ne {inner : Shape} {v : Value} (h : v ≠ .null) :
    (Shape.optional inner).read v = inner.read v := by
  rw [Shape.read]
  exact h

theorem exists_plainItems {item : Shape} {items : List Value} (h : ∀ w ∈ items, item.Returns w) :
    ∃ js, Value.plainItems .wire false items = .ok js ∧
      List.Forall₂ (fun (j : Json) w => item.read j.toValue = .ok w) js items := by
  induction items with
  | nil => exact ⟨[], rfl, .nil⟩
  | cons w items ih =>
    rw [List.forall_mem_cons] at h
    obtain ⟨j, hj, hread, -⟩ := h.1
    obtain ⟨js, hjs, hreads⟩ := ih h.2
    refine ⟨j :: js, ?_, .cons hread hreads⟩
    rw [Value.plainItems, hj, hjs]
    rfl

theorem exists_plainEntries {item : Shape} {entries : Entries Value} (h : ∀ e ∈ entries, item.Returns e.2) :
    ∃ js, Value.plainEntries .wire false entries = .ok js ∧
      List.Forall₂ (fun (j : String × Json) e => j.1 = e.1 ∧ item.read j.2.toValue = .ok e.2) js entries := by
  induction entries with
  | nil => exact ⟨[], rfl, .nil⟩
  | cons e entries ih =>
    rw [List.forall_mem_cons] at h
    obtain ⟨j, hj, hread, -⟩ := h.1
    obtain ⟨js, hjs, hreads⟩ := ih h.2
    refine ⟨(e.1, j) :: js, ?_, .cons ⟨rfl, hread⟩ hreads⟩
    rw [Value.plainEntries, hj, hjs]
    rfl

theorem Shape.Returns.list {item : Shape} {least : Nat} {most : Option Nat} {items : List Value}
    (h : ∀ w ∈ items, item.Returns w) (hleast : least ≤ items.length) (hmost : ∀ n ∈ most, items.length ≤ n) :
    (Shape.list item least most).Returns (.list items) := by
  obtain ⟨js, hjs, hreads⟩ := exists_plainItems h
  have hlength : (js.map Json.toValue).length = items.length := by
    rw [List.length_map, hreads.length_eq]
  have hreadings : (js.map Json.toValue).mapIdx (fun i w => underStep (.index i) (item.read w)) = items.map .ok := by
    apply List.ext_getElem
    · simp [hreads.length_eq]
    · intro i hi hi'
      rw [List.length_map] at hi'
      have hitem := hreads.get (hreads.length_eq ▸ hi') hi'
      simp only [List.get_eq_getElem] at hitem
      simp [hitem, underStep, Except.mapError]
  refine ⟨.list js, ?_, ?_, by simp [Json.toValue]⟩
  · rw [Value.plainJson, hjs]
    rfl
  · rw [Json.toValue, itemsToValues_eq_map, Shape.read]
    refine boundedList_eq_ok_iff.2 ⟨items, ?_, rfl, hlength ▸ hleast, hlength ▸ hmost⟩
    rw [hreadings, collect_ok]

theorem Shape.Returns.table {item : Shape} {entries : Entries Value} (h : ∀ e ∈ entries, item.Returns e.2) :
    (Shape.table item).Returns (.table entries) := by
  obtain ⟨js, hjs, hreads⟩ := exists_plainEntries h
  refine ⟨.table js, ?_, ?_, by simp [Json.toValue]⟩
  · rw [Value.plainJson, hjs]
    rfl
  · have hreadings : (js.map fun e => (e.1, e.2.toValue)).map
        (fun e => (underStep (.key e.1) (item.read e.2)).map fun w => (e.1, w)) = entries.map .ok := by
      rw [List.map_map]
      clear hjs h
      induction hreads with
      | nil => rfl
      | cons hfirst _ ih =>
        rw [List.map_cons, List.map_cons, ih, Function.comp_apply, hfirst.2, hfirst.1]
        rfl
    rw [Json.toValue, entriesToValues_eq_map, Shape.read, hreadings, collect_ok]
    rfl

/-- The fields of a record are sent as a table. -/
theorem exists_plainFields {fields : List (FieldRule × Shape)} {record : List (FieldName × Value)}
    (hrules : ∀ field ∈ fields, FieldTravels field.1 field.2) (hfit : FieldsFit fields record)
    (hreturns : ∀ field ∈ fields, ∀ v, field.2.Fits v → field.2.Returns v) :
    ∃ js, Value.plainFields .wire record = .ok js ∧ Sent fields record (entriesToValues js) := by
  induction fields generalizing record with
  | nil =>
    obtain rfl := hfit
    exact ⟨[], rfl, .nil⟩
  | cons field fields ih =>
    rw [List.forall_mem_cons] at hrules hreturns
    obtain ⟨v, rest, rfl, hv, hrest⟩ := hfit
    obtain ⟨js, hjs, hsent⟩ := ih hrules.2 hrest hreturns.2
    obtain ⟨j, hj, hread, hnull⟩ := hreturns.1 v hv
    by_cases habsent : v = .null
    -- What holds nothing is left out, and comes back as the default.
    · subst habsent
      refine ⟨js, ?_, .leftOut (hrules.1.null hv) hsent⟩
      rw [Value.plainFields, hrules.1.closed, hj, hjs]
      rfl
    · refine ⟨(field.1.name.wire, j) :: js, ?_, ?_⟩
      · have hpresent : v.isPresent = true := by cases v <;> first | rfl | exact absurd rfl habsent
        rw [Value.plainFields, hrules.1.closed, hj, hjs]
        simp only [hpresent]
        rfl
      · exact .given hread (hnull habsent) hsent

section

variable {known : String → Option Shape}

mutual

/-- A value in the form of a schema is sent in a form that the schema reads as the value. -/
theorem Shape.Travels.returns : (shape : Shape) → shape.Travels known → (v : Value) → shape.Fits v → shape.Returns v
  | .text least most, _, v, hfits => by
    obtain ⟨s, rfl, hs⟩ := hfits
    exact ⟨.text s, rfl, congrArg atHere hs, nofun⟩
  | .marked marks complaint, _, v, hfits => by
    obtain ⟨s, rfl, hs⟩ := hfits
    exact ⟨.text s, rfl, congrArg atHere hs, nofun⟩
  | .integer least, _, v, hfits => by
    obtain ⟨n, rfl, hn⟩ := hfits
    exact ⟨.int n, rfl, congrArg atHere hn, nofun⟩
  | .number, _, v, hfits => by
    obtain ⟨x, rfl⟩ := hfits
    exact ⟨.float x, rfl, rfl, nofun⟩
  | .score, _, v, hfits => by
    obtain ⟨x, rfl, hx⟩ := hfits
    exact ⟨.float x, rfl, congrArg atHere hx, nofun⟩
  | .flag, _, v, hfits => by
    obtain ⟨b, rfl⟩ := hfits
    exact ⟨.bool b, rfl, rfl, nofun⟩
  | .choice options, _, v, hfits => by
    obtain ⟨c, rfl, hc⟩ := hfits
    refine ⟨.text c.word, rfl, ?_, nofun⟩
    have hchoice : readChoice options (.text c.word) = .ok (.choice c) := by
      rw [readChoice]
      simp only [readText, Except.toOption, Option.bind_some, hc]
    exact congrArg atHere hchoice
  | .list item least most, htravels, v, hfits => by
    obtain ⟨items, rfl, hleast, hmost, hitems⟩ := hfits
    exact .list (fun w hw => Shape.Travels.returns item htravels.1 w (hitems w hw)) hleast hmost
  | .table item, htravels, v, hfits => by
    obtain ⟨entries, rfl, hentries⟩ := hfits
    exact .table fun e he => Shape.Travels.returns item htravels e.2 (hentries e he)
  | .optional inner, htravels, v, hfits => by
    by_cases hnull : v = .null
    · subst hnull
      exact ⟨.null, rfl, rfl, absurd rfl⟩
    · obtain ⟨j, hj, hread, hpresent⟩ := Shape.Travels.returns inner htravels v (hfits.resolve_left hnull)
      refine ⟨j, hj, ?_, hpresent⟩
      rw [read_optional_of_ne (hpresent hnull), hread]
  | .optionalName, _, v, hfits => by
    rcases hfits with rfl | ⟨s, rfl, hs⟩
    · exact ⟨.null, rfl, rfl, absurd rfl⟩
    · refine ⟨.text s, rfl, ?_, nofun⟩
      have hname : (if s.isEmpty = true then Value.null else .text s) = .text s := by simp [hs]
      exact congrArg (fun w => atHere (.ok w)) hname
  | .record model extras fields, htravels, v, hfits => by
    obtain ⟨record, rfl, hrecord⟩ := hfits
    have hrules := fun field hfield => (htravels.2.2.2.forall_mem field hfield).2
    obtain ⟨js, hjs, hsent⟩ := exists_plainFields hrules hrecord (FieldsTravel.returns fields htravels.2.2.2)
    refine ⟨.table js, ?_, hsent.read_record htravels.2.2.1 model extras, nofun⟩
    rw [Value.plainJson, hjs]
    rfl

theorem FieldsTravel.returns : (fields : List (FieldRule × Shape)) → FieldsTravel known fields →
    ∀ field ∈ fields, ∀ v, field.2.Fits v → field.2.Returns v
  | [], _ => nofun
  | (rule, shape) :: fields, htravel => by
    rw [List.forall_mem_cons]
    exact ⟨Shape.Travels.returns shape htravel.1, FieldsTravel.returns fields htravel.2.2⟩

end

/-- Whatever the schema of a record reads from a value that callers can have, it reads again from the table in which
the fields of the record are sent. -/
theorem Shape.Travels.exists_sent {model : String} {extras : Extras} {fields : List (FieldRule × Shape)}
    (h : (Shape.record model extras fields).Travels known) {v m : Value} (hv : Genuine known v)
    (hread : (Shape.record model extras fields).read v = .ok m) :
    ∃ record entries, m = .record model record ∧ m.tabled .wire = .ok (.table entries) ∧ Sent fields record entries ∧
      (Shape.record model extras fields).read (.table entries) = .ok m := by
  obtain ⟨record, rfl, hfit⟩ := hv.fitsWhenRead _ h m hread
  have hrules := fun field hfield => (h.2.2.2.forall_mem field hfield).2
  obtain ⟨js, hjs, hsent⟩ := exists_plainFields hrules hfit (FieldsTravel.returns fields h.2.2.2)
  refine ⟨record, entriesToValues js, rfl, ?_, hsent, hsent.read_record h.2.2.1 model extras⟩
  rw [Value.tabled, Value.plainJson, hjs]
  rfl

end

/-! ### The records of the library -/

/-- Does the schema take nothing for a value? -/
def Shape.takesNull : Shape → Bool
  | .anything | .optional _ | .optionalName => true
  | _ => false

theorem not_fits_null {shape : Shape} (h : shape.takesNull = false) : ¬ shape.Fits .null := by
  cases shape <;> simp [Shape.takesNull] at h <;> simp [Shape.Fits]

section

variable {name wire : String} {shape : Shape} {fields : List (FieldRule × Shape)} {known : String → Option Shape}

theorem FieldsTravel.nil : FieldsTravel known [] :=
  trivial

theorem FieldsTravel.required (hshape : shape.Travels known) (hnull : shape.takesNull = false)
    (hrest : FieldsTravel known fields) : FieldsTravel known (requiredAs name wire shape :: fields) :=
  ⟨hshape, ⟨rfl, nofun, fun h => absurd h (not_fits_null hnull)⟩, hrest⟩

theorem FieldsTravel.defaulted {value : Value} (hshape : shape.Travels known) (hnull : shape.takesNull = false)
    (hvalue : shape.Fits value) (hrest : FieldsTravel known fields) :
    FieldsTravel known (defaultedAs name wire value shape :: fields) :=
  ⟨hshape, ⟨rfl, fun _ h => Option.some.inj h ▸ hvalue, fun h => absurd h (not_fits_null hnull)⟩, hrest⟩

theorem FieldsTravel.nullable (hshape : shape.Travels known) (hnull : shape.Fits .null)
    (hrest : FieldsTravel known fields) : FieldsTravel known (defaultedAs name wire .null shape :: fields) :=
  ⟨hshape, ⟨rfl, fun _ h => Option.some.inj h ▸ hnull, fun _ => rfl⟩, hrest⟩

end

theorem fits_noText : textList.Fits (.list []) :=
  ⟨[], rfl, by simp, by simp, nofun⟩

theorem fits_zero : anyInteger.Fits (.int 0) :=
  ⟨0, rfl, rfl⟩

theorem fits_emptyRecord {shape : Shape} (h : shape.Travels shapeOf?) {m : Value}
    (hread : shape.read (.table []) = .ok m) : shape.Fits (emptyRecord shape) := by
  have hempty : emptyRecord shape = m := by
    rw [emptyRecord, hread]
    rfl
  rw [hempty]
  exact Genuine.fitsWhenRead (.table (List.forall_mem_nil _)) shape h m hread

theorem travels_paramsShape : paramsShape.Travels shapeOf? :=
  ⟨by decide, rfl, by decide, .defaulted trivial rfl ⟨_, rfl⟩ <| .defaulted trivial rfl ⟨_, rfl, rfl⟩ .nil⟩

theorem travels_inputNamesShape : inputNamesShape.Travels shapeOf? :=
  ⟨by decide, rfl, by decide,
    .defaulted ⟨trivial, rfl⟩ rfl fits_noText <| .defaulted ⟨trivial, rfl⟩ rfl fits_noText .nil⟩

theorem travels_outputsShape : outputsShape.Travels shapeOf? :=
  ⟨by decide, rfl, by decide, .defaulted trivial rfl ⟨_, rfl, by decide⟩ <| .nullable trivial (.inl rfl) .nil⟩

theorem travels_promptShape : promptShape.Travels shapeOf? :=
  ⟨by decide, rfl, by decide,
    .required trivial rfl <| .required trivial rfl <| .nullable trivial (.inl rfl) <|
    .defaulted trivial rfl ⟨_, rfl, rfl⟩ <| .defaulted ⟨trivial, rfl⟩ rfl fits_noText <|
    .defaulted travels_paramsShape rfl (fits_emptyRecord travels_paramsShape rfl) <|
    .defaulted travels_inputNamesShape rfl (fits_emptyRecord travels_inputNamesShape rfl) <|
    .defaulted travels_outputsShape rfl (fits_emptyRecord travels_outputsShape rfl) <|
    .defaulted trivial rfl ⟨[], rfl, List.forall_mem_nil _⟩ <| .required trivial rfl <| .required trivial rfl .nil⟩

theorem travels_experimentShape : experimentShape.Travels shapeOf? :=
  ⟨by decide, rfl, by decide, .required trivial rfl <| .required trivial rfl <| .required trivial rfl .nil⟩

theorem travels_renderedShape : renderedShape.Travels shapeOf? :=
  ⟨by decide, rfl, by decide,
    .required trivial rfl <| .required trivial rfl <| .nullable trivial (.inl rfl) <|
    .required travels_paramsShape rfl .nil⟩

theorem travels_callResultShape : callResultShape.Travels shapeOf? :=
  ⟨by decide, rfl, by decide,
    .required trivial rfl <| .required trivial rfl <| .nullable trivial (.inl rfl) <|
    .defaulted trivial rfl fits_zero <| .defaulted trivial rfl fits_zero <| .required trivial rfl <|
    .required trivial rfl <| .nullable trivial (.inl rfl) .nil⟩

theorem travels_callLogShape : callLogShape.Travels shapeOf? :=
  ⟨by decide, rfl, by decide,
    .required trivial rfl <| .required trivial rfl <| .nullable trivial (.inl rfl) <| .nullable trivial (.inl rfl) <|
    .required travels_paramsShape rfl <| .required trivial rfl <| .required trivial rfl <|
    .defaulted trivial rfl fits_zero <| .nullable trivial (.inl rfl) <| .required trivial rfl <|
    .defaulted trivial rfl fits_zero <| .nullable trivial (.inl rfl) <| .required trivial rfl .nil⟩

theorem travels_statsShape : statsShape.Travels shapeOf? :=
  ⟨by decide, rfl, by decide, .required trivial rfl <| .required trivial rfl <| .required trivial rfl .nil⟩

theorem travels_messageShape : messageShape.Travels shapeOf? :=
  ⟨by decide, rfl, by decide, .required trivial rfl <| .required trivial rfl .nil⟩

theorem travels_requestShape : requestShape.Travels shapeOf? :=
  ⟨by decide, rfl, by decide,
    .required ⟨travels_messageShape, rfl⟩ rfl <| .required trivial rfl <| .required trivial rfl .nil⟩

/-- The schemas of the records of prompts, experiments, calls and requests. -/
def wireShapes : List Shape :=
  [paramsShape, inputNamesShape, outputsShape, promptShape, experimentShape, renderedShape, callResultShape,
    callLogShape, statsShape, messageShape, requestShape]

theorem travels_of_mem_wireShapes {shape : Shape} (h : shape ∈ wireShapes) : shape.Travels shapeOf? := by
  simp only [wireShapes, List.mem_cons, List.not_mem_nil, or_false] at h
  rcases h with rfl | rfl | rfl | rfl | rfl | rfl | rfl | rfl | rfl | rfl | rfl
  · exact travels_paramsShape
  · exact travels_inputNamesShape
  · exact travels_outputsShape
  · exact travels_promptShape
  · exact travels_experimentShape
  · exact travels_renderedShape
  · exact travels_callResultShape
  · exact travels_callLogShape
  · exact travels_statsShape
  · exact travels_messageShape
  · exact travels_requestShape

theorem exists_fields_of_mem_wireShapes {shape : Shape} (h : shape ∈ wireShapes) :
    ∃ model extras fields, shape = .record model extras fields := by
  simp only [wireShapes, List.mem_cons, List.not_mem_nil, or_false] at h
  rcases h with rfl | rfl | rfl | rfl | rfl | rfl | rfl | rfl | rfl | rfl | rfl <;> exact ⟨_, _, _, rfl⟩

/-- The names that a record's fields have on the wire. -/
def Shape.wireNames : Shape → List String
  | .record _ _ fields => fields.map fun field => field.1.name.wire
  | _ => []

/-- From whatever value a record was read, and in whatever form its parts were given: a table is sent for it, with
wire names and without parts that are nothing, and it is read as the same record, with its lists and tables in the
same order. -/
theorem read_sent_record {shape : Shape} (hshape : shape ∈ wireShapes) {v m : Value} (hv : Genuine shapeOf? v)
    (hread : shape.read v = .ok m) :
    ∃ entries, m.tabled .wire = .ok (.table entries) ∧ (∀ e ∈ entries, e.1 ∈ shape.wireNames ∧ e.2 ≠ .null) ∧
      shape.read (.table entries) = .ok m := by
  have htravels := travels_of_mem_wireShapes hshape
  obtain ⟨model, extras, fields, rfl⟩ := exists_fields_of_mem_wireShapes hshape
  obtain ⟨record, entries, -, htable, hsent, hagain⟩ := htravels.exists_sent hv hread
  refine ⟨entries, htable, fun e he => ⟨?_, hsent.ne_null e he⟩, hagain⟩
  obtain ⟨field, hfield, hwire⟩ := hsent.exists_field_of_mem_keys (List.mem_map_of_mem he)
  exact List.mem_map.2 ⟨field, hfield, hwire⟩

/-- The form of an answer, as a record that was read before. -/
def answerRecord : Value :=
  .record "PromptOutputs" [field "format" (.choice (formatChoice .json)), fieldAs "schema_name" "schema" .null]

/-- A prompt under mixed names: integers in texts, a tuple for a list, an empty variant, and a record inside. -/
def promptInput : Value :=
  .table [("system", .text "s"), ("version", .text " 3 "), ("id", .text "a"), ("variant", .text ""),
    ("models", .tuple [.text "n", .text "m"]), ("params", .table [("maxTokens", .text "1_000")]),
    ("outputs", answerRecord), ("notes", .table [("b", .text "x"), ("a", .text "y")]), ("user", .text "u")]

/-- The record that is read from it. -/
def promptRecord : Value :=
  .record "PromptSpec" [field "id" (.text "a"), field "version" (.int 3), field "variant" .null,
    field "description" (.text ""), field "models" (.list [.text "n", .text "m"]),
    field "params" (.record "PromptParams" [field "temperature" (.float Params.defaultTemperature),
      fieldAs "max_tokens" "maxTokens" (.int 1000)]),
    field "inputs" (.record "PromptInputs" [field "required" (.list []), field "optional" (.list [])]),
    field "outputs" answerRecord, field "notes" (.table [("b", .text "x"), ("a", .text "y")]),
    field "system" (.text "s"), field "user" (.text "u")]

theorem read_sent_record_prompt :
    promptShape ∈ wireShapes ∧ Genuine shapeOf? promptInput ∧ promptShape.read promptInput = .ok promptRecord ∧
      ∃ entries, promptRecord.tabled .wire = .ok (.table entries) ∧
        (∀ e ∈ entries, e.1 ∈ promptShape.wireNames ∧ e.2 ≠ .null) ∧
        promptShape.read (.table entries) = .ok promptRecord := by
  have hmem : promptShape ∈ wireShapes := by simp [wireShapes]
  have hread : promptShape.read promptInput = .ok promptRecord := rfl
  have htext : ∀ s, Genuine shapeOf? (.text s) := fun _ => .scalar rfl
  have hanswer : Genuine shapeOf? answerRecord := by
    have hshape : shapeOf? "PromptOutputs" = some outputsShape := rfl
    have hfields : Genuine shapeOf? (.table [("format", .text "json")]) := .table (by simp [htext])
    exact .read hshape hfields rfl
  have hinput : Genuine shapeOf? promptInput := by
    apply Genuine.table
    simp only [List.forall_mem_cons]
    have hmodels : Genuine shapeOf? (.tuple [.text "n", .text "m"]) := .tuple (by simp [htext])
    have hparams : Genuine shapeOf? (.table [("maxTokens", .text "1_000")]) := .table (by simp [htext])
    have hnotes : Genuine shapeOf? (.table [("b", .text "x"), ("a", .text "y")]) := .table (by simp [htext])
    exact ⟨htext _, htext _, htext _, htext _, hmodels, hparams, hanswer, hnotes, htext _, List.forall_mem_nil _⟩
  exact ⟨hmem, hinput, hread, read_sent_record hmem hinput hread⟩

end Promptbook.Schema
