import Promptbook.Proofs.Metadata.Refusals
import Promptbook.Proofs.Schema.Texts
import Promptbook.Proofs.Schema.WireRoundTrip

/-!
# Reading what was read

What the schema of a built-in prompt makes of inputs depends on the entries of its fields alone (`read_record_congr`).
It is a table with the names that the templates use, and all its values are in the form in which the schema reads
them, so that reading it again changes nothing (`validateInput_self`).  The answers that are records are sent and read
again in the same way.  Both together are `validation_projects`.
-/

namespace Promptbook.Schema

/-! ### Entries that count -/

/-- The keys under which the fields of a record can be given: their own names and those on the wire. -/
def Shape.fieldKeys : Shape → List String
  | .record _ _ fields => fields.flatMap fun field => [field.1.name.name, field.1.name.wire]
  | _ => []

/-- Two tables have the same entries under some keys, in any order. -/
def SameUnder (keys : List String) (t u : Table Value) : Prop :=
  (t.entries.filter fun e => e.1 ∈ keys).Perm (u.entries.filter fun e => e.1 ∈ keys)

theorem SameUnder.get?_eq {keys : List String} {t u : Table Value} (h : SameUnder keys t u) {key : String}
    (hkey : key ∈ keys) : t.get? key = u.get? key := by
  have hkeep : decide (key ∈ keys) = true := by simpa using hkey
  have hperm := (Entries.perm_iff_get? (Entries.nodup_keys_filter t.nodup _)
    (Entries.nodup_keys_filter u.nodup _)).1 h key
  rwa [Entries.get?_filter t.entries (· ∈ keys) hkeep, Entries.get?_filter u.entries (· ∈ keys) hkeep] at hperm

section

variable {entries others : Entries Value}

theorem lookUp?_congr {f : FieldName} (hwire : entries.get? f.wire = others.get? f.wire)
    (hname : entries.get? f.name = others.get? f.name) : lookUp? entries f = lookUp? others f := by
  rw [lookUp?, lookUp?, hwire, hname]

theorem readFields_congr {fields : List (FieldRule × Shape)}
    (h : ∀ field ∈ fields, lookUp? entries field.1.name = lookUp? others field.1.name) :
    readFields fields entries = readFields fields others := by
  induction fields with
  | nil => rfl
  | cons field fields ih =>
    rw [List.forall_mem_cons] at h
    rw [readFields, readFields, h.1, ih h.2]

/-- A record that ignores other keys is read from the entries of its fields alone. -/
theorem read_record_congr {model : String} {fields : List (FieldRule × Shape)}
    (h : ∀ key ∈ (Shape.record model .ignored fields).fieldKeys, entries.get? key = others.get? key) :
    (Shape.record model .ignored fields).read (.table entries) =
      (Shape.record model .ignored fields).read (.table others) := by
  have hfields : readFields fields entries = readFields fields others := by
    refine readFields_congr fun field hfield => ?_
    have hkeys : ∀ key ∈ [field.1.name.name, field.1.name.wire], entries.get? key = others.get? key :=
      fun key hkey => h key (List.mem_flatMap.2 ⟨field, hfield, hkey⟩)
    exact lookUp?_congr (hkeys _ (by simp)) (hkeys _ (by simp))
  have htable : ∀ t : Entries Value, isInstance model (.table t) = false := fun _ => rfl
  simp only [Shape.read, htable, hfields, readExtras, Bool.false_eq_true, if_false]

end

/-! ### Tables of texts -/

/-- What is made of texts becomes the same tree in all forms of records. -/
theorem plainJson_eq_of_isTextual {v : Value} (h : v.IsTextual) (form other : RecordForm) (free : Bool) :
    v.plainJson form free = v.plainJson other free := by
  induction h with
  | text s => rfl
  | choice c => rfl
  | @list items htexts ih =>
    have hitems : Value.plainItems form free items = Value.plainItems other free items := by
      clear htexts
      induction items with
      | nil => rfl
      | cons v vs ihs =>
        rw [List.forall_mem_cons] at ih
        rw [Value.plainItems, Value.plainItems, ih.1, ihs ih.2]
    rw [Value.plainJson, Value.plainJson, hitems]

theorem isPresent_of_isTextual {v : Value} (h : v.IsTextual) : v.isPresent = true := by
  cases h <;> rfl

/-- Templates get the fields that are texts as they are sent. -/
theorem plainFields_template {record : List (FieldName × Value)} (h : ∀ f ∈ record, f.2.IsTextual) :
    Value.plainFields .template record = Value.plainFields .wire record := by
  induction record with
  | nil => rfl
  | cons f record ih =>
    rw [List.forall_mem_cons] at h
    rw [Value.plainFields, Value.plainFields, plainJson_eq_of_isTextual h.1 .template .wire, ih h.2,
      isPresent_of_isTextual h.1]
    rfl

/-- A form that keeps all fields has a key for each of them, in their order. -/
theorem keys_of_plainFields {form : RecordForm} (hkeeps : form.keepsNull = true) {record : List (FieldName × Value)}
    {js : List (String × Json)} (h : Value.plainFields form record = .ok js) :
    js.map (·.1) = record.map fun f => form.key f.1 := by
  induction record generalizing js with
  | nil =>
    cases h
    rfl
  | cons f record ih =>
    rw [Value.plainFields] at h
    obtain ⟨j, -, h⟩ := Metadata.bind_eq_ok_iff.1 h
    obtain ⟨rest, hrest, h⟩ := Metadata.bind_eq_ok_iff.1 h
    rw [hkeeps] at h
    obtain rfl := Except.ok.inj h
    rw [Bool.true_or, if_pos rfl, List.map_cons, List.map_cons, ih hrest]

theorem FieldsFit.names {fields : List (FieldRule × Shape)} {record : List (FieldName × Value)}
    (h : FieldsFit fields record) : record.map (·.1) = fields.map (·.1.name) := by
  induction fields generalizing record with
  | nil =>
    obtain rfl := h
    rfl
  | cons field fields ih =>
    obtain ⟨v, rest, rfl, -, hrest⟩ := h
    rw [List.map_cons, List.map_cons, ih hrest]

/-- The record that a schema for texts reads has a table under the names that the templates use, and the schema reads
the record from this table again. -/
theorem exists_table_of_read {known : String → Option Shape} {model : String} {fields : List (FieldRule × Shape)}
    (htravels : (Shape.record model .ignored fields).Travels known) (htexts : ∀ field ∈ fields, field.2.takesTexts)
    {raw : Entries Value} {m : Value} (hread : (Shape.record model .ignored fields).read (.table raw) = .ok m) :
    ∃ inputs, m.tableOf .template = .ok inputs ∧ inputs.keys = (Shape.record model .ignored fields).wireNames ∧
      (Shape.record model .ignored fields).read (.table inputs) = .ok m := by
  obtain ⟨record, rfl, hrecord⟩ := parts_of_read_record hread
  rw [readExtras, List.append_nil] at hrecord
  have hfields := htravels.2.2.2
  have hfit : FieldsFit fields record := fieldsFit_of_readFields hrecord fun field hfield =>
    ⟨(hfields.forall_mem field hfield).2.default, fun v _ w hw => Shape.fits_of_read field.2 (htexts field hfield) hw⟩
  obtain ⟨js, hjs, hsent⟩ := exists_plainFields (fun field hfield => (hfields.forall_mem field hfield).2) hfit
    (FieldsTravel.returns fields hfields)
  have htemplate : Value.plainFields .template record = .ok js :=
    (plainFields_template (hfit.isTextual htexts)).trans hjs
  refine ⟨entriesToValues js, ?_, ?_, hsent.read_record htravels.2.2.1 model .ignored⟩
  · rw [Value.tableOf, Value.tabled, Value.plainJson, htemplate]
    rfl
  · have hkeys : js.map (·.1) = record.map fun f => f.1.wire := keys_of_plainFields rfl htemplate
    have hnames : (record.map (·.1)).map FieldName.wire = (fields.map (·.1.name)).map FieldName.wire := by
      rw [hfit.names]
    rw [List.map_map, List.map_map] at hnames
    rw [entriesToValues_eq_map, Entries.keys_map, Entries.keys, hkeys]
    exact hnames

/-! ### The schemas of the built-in prompts -/

theorem fits_emptyText : anyText.Fits (.text "") :=
  ⟨"", rfl, rfl⟩

theorem travels_researchBusinessInput : researchBusinessInput.Travels (Entries.get? inputShapes) :=
  ⟨by decide, rfl, by decide,
    .required trivial rfl <| .defaulted trivial rfl fits_emptyText <| .defaulted trivial rfl fits_emptyText <|
    .defaulted trivial rfl fits_emptyText <| .defaulted trivial rfl fits_emptyText .nil⟩

theorem travels_generateSiteInput : generateSiteInput.Travels (Entries.get? inputShapes) :=
  ⟨by decide, rfl, by decide, .required trivial rfl .nil⟩

theorem travels_scoreQualityInput : scoreQualityInput.Travels (Entries.get? inputShapes) :=
  ⟨by decide, rfl, by decide, .required trivial rfl .nil⟩

theorem travels_siteCopyInput : siteCopyInput.Travels (Entries.get? inputShapes) :=
  ⟨by decide, rfl, by decide,
    .required trivial rfl <| .required trivial rfl <| .defaulted ⟨trivial, rfl⟩ rfl fits_noText <|
    .defaulted trivial rfl ⟨friendlyTone, rfl, by decide⟩ .nil⟩

/-- The records that answers are, and those inside them. -/
def answerRecords : List Shape :=
  [researchBusinessOutput, businessHours, faqEntry, scoreQualityOutput, qualityScores]

/-- The schema of the records of answers with a name. -/
def answerShapeOf? (model : String) : Option Shape :=
  answerRecords.find? fun shape => shape.model == model

theorem travels_businessHours : businessHours.Travels answerShapeOf? :=
  ⟨by decide, rfl, by decide, .required trivial rfl <| .required trivial rfl .nil⟩

theorem travels_faqEntry : faqEntry.Travels answerShapeOf? :=
  ⟨by decide, rfl, by decide, .required trivial rfl <| .required trivial rfl .nil⟩

theorem travels_researchBusinessOutput : researchBusinessOutput.Travels answerShapeOf? :=
  ⟨by decide, rfl, by decide,
    .required trivial rfl <| .required trivial rfl <| .required trivial rfl <| .required ⟨trivial, rfl⟩ rfl <|
    .required ⟨travels_businessHours, rfl⟩ rfl <| .required ⟨travels_faqEntry, rfl⟩ rfl <| .required trivial rfl <|
    .required trivial rfl .nil⟩

theorem travels_qualityScores : qualityScores.Travels answerShapeOf? :=
  ⟨by decide, rfl, by decide,
    .required trivial rfl <| .required trivial rfl <| .required trivial rfl <| .required trivial rfl <|
    .required trivial rfl .nil⟩

theorem travels_scoreQualityOutput : scoreQualityOutput.Travels answerShapeOf? :=
  ⟨by decide, rfl, by decide,
    .required travels_qualityScores rfl <| .required trivial rfl <| .required ⟨trivial, rfl⟩ rfl <|
    .required ⟨trivial, rfl⟩ rfl .nil⟩

/-- What the schemas of a built-in prompt read can be read again. -/
theorem travels_of_builtin {prompt : String} {shapes : PromptShapes}
    (h : Entries.get? SchemaBook.builtin prompt = some shapes) :
    shapes.input.Travels (Entries.get? inputShapes) ∧
      ∃ shape, shapes.output = some shape ∧ shape.Travels answerShapeOf? := by
  have hmem := Entries.mem_values_of_get? h
  simp only [SchemaBook.builtin, Entries.values, List.map_cons, List.map_nil, List.mem_cons, List.not_mem_nil,
    or_false] at hmem
  rcases hmem with rfl | rfl | rfl | rfl
  · exact ⟨travels_researchBusinessInput, _, rfl, travels_researchBusinessOutput⟩
  · exact ⟨travels_generateSiteInput, _, rfl, trivial⟩
  · exact ⟨travels_scoreQualityInput, _, rfl, travels_scoreQualityOutput⟩
  · exact ⟨travels_siteCopyInput, _, rfl, trivial⟩

/-- Validated inputs have the names that the templates use, and are valid as they are. -/
theorem validateInput_self {prompt : String} {shapes : PromptShapes}
    (hshapes : Entries.get? SchemaBook.builtin prompt = some shapes) {raw inputs : Entries Value}
    (h : SchemaBook.builtin.validateInput prompt raw = .ok inputs) :
    inputs.keys = shapes.input.wireNames ∧ SchemaBook.builtin.validateInput prompt inputs = .ok inputs := by
  obtain ⟨shapes', record, hshapes', hread, htable⟩ := validateInput_eq_ok_iff.1 h
  obtain rfl := Option.some.inj (hshapes.symm.trans hshapes')
  obtain ⟨model, fields, hinput, hfields⟩ := input_of_builtin hshapes
  have htravels := (travels_of_builtin hshapes).1
  rw [hinput] at hread htravels ⊢
  have htexts : ∀ field ∈ fields, field.2.takesTexts := fun field hfield => (hfields field hfield).shape
  obtain ⟨inputs', htable', hkeys, hagain⟩ := exists_table_of_read htravels htexts hread
  obtain rfl := Except.ok.inj (htable.symm.trans htable')
  exact ⟨hkeys, validateInput_eq_ok_iff.2 ⟨shapes, record, hshapes, hinput ▸ hagain, htable⟩⟩

/-- Inputs with the same entries under the keys of the fields are accepted or refused alike. -/
theorem validateInput_congr {prompt : String} {shapes : PromptShapes}
    (hshapes : Entries.get? SchemaBook.builtin prompt = some shapes) {raw others : Entries Value}
    (h : ∀ key ∈ shapes.input.fieldKeys, raw.get? key = others.get? key) :
    SchemaBook.builtin.validateInput prompt raw = SchemaBook.builtin.validateInput prompt others := by
  obtain ⟨model, fields, hinput, -⟩ := input_of_builtin hshapes
  rw [hinput] at h
  have hread : shapes.input.read (.table raw) = shapes.input.read (.table others) := by
    rw [hinput, read_record_congr h]
  simp only [SchemaBook.validateInput, SchemaBook.require, hshapes, bind, Except.bind, hread]

theorem validateOutput_eq_ok_iff {book : SchemaBook} {prompt : String} {shapes : PromptShapes} {shape : Shape}
    (hshapes : Entries.get? book prompt = some shapes) (houtput : shapes.output = some shape) {raw m : Value} :
    book.validateOutput prompt raw = .ok m ↔ shape.read raw = .ok m := by
  rw [SchemaBook.validateOutput, SchemaBook.require, hshapes]
  simp only [bind, Except.bind, houtput]
  cases shape.read raw <;> simp [Except.mapError]

/-- Validating with the built-in schemas is a projection.  Inputs that are accepted become a table with the names of
the templates, which can be hashed and is accepted as it is.  Tables with the same entries under the keys of the
fields, in any order, are accepted or refused alike, and accepted ones become the same.  An answer that is accepted is
sent in a form from which it is read again; records inside it may be given as instances, which were themselves made by
validation. -/
theorem validation_projects (prompt : String) :
    (∀ raw inputs, SchemaBook.builtin.validateInput prompt raw = .ok inputs →
      ∃ shapes hash, Entries.get? SchemaBook.builtin prompt = some shapes ∧ inputs.keys = shapes.input.wireNames ∧
        hashInputs inputs = .ok hash ∧ SchemaBook.builtin.validateInput prompt inputs = .ok inputs) ∧
    (∀ shapes, Entries.get? SchemaBook.builtin prompt = some shapes →
      ∀ given others : Table Value, SameUnder shapes.input.fieldKeys given others →
        SchemaBook.builtin.validateInput prompt given.entries =
          SchemaBook.builtin.validateInput prompt others.entries) ∧
    ∀ raw answer, Genuine answerShapeOf? raw → SchemaBook.builtin.validateOutput prompt raw = .ok answer →
      ∃ sent, answer.tabled .wire = .ok sent ∧ SchemaBook.builtin.validateOutput prompt sent = .ok answer := by
  refine ⟨?_, ?_, ?_⟩
  · intro raw inputs hvalid
    obtain ⟨shapes, record, hshapes, -⟩ := validateInput_eq_ok_iff.1 hvalid
    obtain ⟨hash, hhash⟩ := (usable_of_validateInput hvalid).hashed
    obtain ⟨hkeys, hself⟩ := validateInput_self hshapes hvalid
    exact ⟨shapes, hash, hshapes, hkeys, hhash, hself⟩
  · intro shapes hshapes given others hsame
    exact validateInput_congr hshapes fun key hkey => hsame.get?_eq hkey
  · intro raw answer hgenuine hvalid
    cases hshapes : Entries.get? SchemaBook.builtin prompt with
    | none =>
      rw [SchemaBook.validateOutput, SchemaBook.require, hshapes] at hvalid
      cases hvalid
    | some shapes =>
      obtain ⟨-, shape, houtput, htravels⟩ := travels_of_builtin hshapes
      rw [validateOutput_eq_ok_iff hshapes houtput] at hvalid
      have hfits : shape.Fits answer := hgenuine.fitsWhenRead shape htravels answer hvalid
      obtain ⟨j, hj, hread, -⟩ := htravels.returns shape answer hfits
      refine ⟨j.toValue, ?_, (validateOutput_eq_ok_iff hshapes houtput).2 hread⟩
      rw [Value.tabled, hj]
      rfl

/-- Inputs of marketing copy under mixed names: bytes for a text, a tuple for a list, a name that its alias hides, and
a key of no field. -/
def copyInputs : Table Value where
  entries :=
    [("mood", .null), ("city", .bytes [75, 195, 182, 108, 110]), ("business_name", .int 3),
      ("businessName", .text "Sweet Crumbs"), ("services", .tuple [.text "cakes", .choice friendlyTone])]
  nodup := by decide

/-- The same inputs in another order, with another key of no field. -/
def turnedInputs : Table Value where
  entries :=
    [("services", .tuple [.text "cakes", .choice friendlyTone]), ("businessName", .text "Sweet Crumbs"),
      ("season", .text "spring"), ("business_name", .int 3), ("city", .bytes [75, 195, 182, 108, 110])]
  nodup := by decide

/-- What templates get of these inputs. -/
def copyTexts : Entries Value :=
  [("businessName", .text "Sweet Crumbs"), ("city", .text "Köln"),
    ("services", .list [.text "cakes", .text "friendly"]), ("tone", .text "friendly")]

/-- Opening hours, as a record that was read before. -/
def openingHours : Value :=
  .record "BusinessHours" [(⟨"day", "day", false⟩, .text "Mon"), (⟨"hours", "hours", false⟩, .text "8-5")]

/-- A question with its answer, as a table with a key of no field. -/
def commonQuestion : Value :=
  .table [("answer", .text "yes"), ("votes", .int 2), ("question", .text "open?")]

/-- An answer of business research in a mix of forms. -/
def researchAnswer : Value :=
  .table [("business_name", .text "Sweet Crumbs"), ("tagline", .text ""), ("description", .text "bakery"),
    ("services", .set [.text "cakes", .text "bread", .text "rolls"]), ("hours", .list [openingHours]),
    ("faq", .tuple [commonQuestion, commonQuestion, commonQuestion]), ("seo_title", .text "t"),
    ("seo_description", .text "d")]

theorem validation_projects_copy :
    SchemaBook.builtin.validateInput "site_copy" copyInputs.entries = .ok copyTexts ∧
      SchemaBook.builtin.validateInput "site_copy" copyTexts = .ok copyTexts ∧
      SameUnder siteCopyInput.fieldKeys copyInputs turnedInputs ∧
      SchemaBook.builtin.validateInput "site_copy" turnedInputs.entries = .ok copyTexts ∧
      Genuine answerShapeOf? researchAnswer ∧
      ∃ record sent, SchemaBook.builtin.validateOutput "research_business" researchAnswer = .ok record ∧
        record.tabled .wire = .ok sent ∧ SchemaBook.builtin.validateOutput "research_business" sent = .ok record := by
  have hvalid : SchemaBook.builtin.validateInput "site_copy" copyInputs.entries = .ok copyTexts := by rfl
  have hsame : SameUnder siteCopyInput.fieldKeys copyInputs turnedInputs := by
    have hreverse : (copyInputs.entries.filter fun e => e.1 ∈ siteCopyInput.fieldKeys) =
        (turnedInputs.entries.filter fun e => e.1 ∈ siteCopyInput.fieldKeys).reverse := by rfl
    rw [SameUnder, hreverse]
    exact List.reverse_perm _
  obtain ⟨haccepted, hothers, -⟩ := validation_projects "site_copy"
  obtain ⟨-, -, -, -, -, hself⟩ := haccepted copyInputs.entries copyTexts hvalid
  have halike := hothers ⟨siteCopyInput, some siteCopyOutput⟩ rfl copyInputs turnedInputs hsame
  have htext : ∀ s, Genuine answerShapeOf? (.text s) := fun _ => .scalar rfl
  have hhours : Genuine answerShapeOf? openingHours := by
    have hshape : answerShapeOf? "BusinessHours" = some businessHours := rfl
    have htable : Genuine answerShapeOf? (.table [("hours", .text "8-5"), ("day", .text "Mon")]) :=
      .table (by simp [htext])
    exact .read hshape htable rfl
  have hquestion : Genuine answerShapeOf? commonQuestion := by
    apply Genuine.table
    simp only [List.forall_mem_cons]
    exact ⟨htext _, .scalar rfl, htext _, List.forall_mem_nil _⟩
  have hgenuine : Genuine answerShapeOf? researchAnswer := by
    apply Genuine.table
    simp only [List.forall_mem_cons]
    exact ⟨htext _, htext _, htext _, .set (by simp [htext]), .list (by simpa using hhours),
      .tuple (by simpa using hquestion), htext _, htext _, List.forall_mem_nil _⟩
  obtain ⟨record, hrecord⟩ :
      ∃ record, SchemaBook.builtin.validateOutput "research_business" researchAnswer = .ok record :=
    ⟨_, rfl⟩
  obtain ⟨sent, hsent, hagain⟩ := (validation_projects "research_business").2.2 researchAnswer record hgenuine hrecord
  exact ⟨hvalid, hself, hsame, halike.symm.trans hvalid, hgenuine, record, sent, hrecord, hsent, hagain⟩

end Promptbook.Schema
