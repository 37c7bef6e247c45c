import Promptbook.Proofs.Schema.Reading

/-!
# What a schema reads

Whatever form a value is given in, a schema reads it as a value of one form (`Shape.Fits`).  A record that is an
instance of a schema already is not read again, so this takes that it was itself read from a value (`Genuine`), and
that what stands for absent fields is in the form of the fields (`Shape.Travels`).  Then `Genuine.fits_of_read` holds.
-/

namespace Promptbook.Schema

open Promptbook.Text

/-! ### Values in the form of a schema -/

mutual

/-- Is the value in the form in which the schema reads values? -/
def Shape.Fits : Shape → Value → Prop
  | .anything, _ => True
  | .text least most, v => ∃ s, v = .text s ∧ boundedText least most s = .ok v
  | .marked marks complaint, v => ∃ s, v = .text s ∧ markedText marks complaint s = .ok v
  | .integer least, v => ∃ n, v = .int n ∧ boundedInteger least n = .ok v
  | .number, v => ∃ x, v = .float x
  | .score, v => ∃ x, v = .float x ∧ scoreNumber x = .ok v
  | .flag, v => ∃ b, v = .bool b
  | .choice options, v => ∃ c, v = .choice c ∧ options.find? (fun o => o.word == c.word) = some c
  | .list item least most, v =>
    ∃ items, v = .list items ∧ least ≤ items.length ∧ (∀ n ∈ most, items.length ≤ n) ∧ ∀ w ∈ items, item.Fits w
  | .table item, v => ∃ entries, v = .table entries ∧ ∀ e ∈ entries, item.Fits e.2
  | .optional inner, v => v = .null ∨ inner.Fits v
  | .optionalName, v => v = .null ∨ ∃ s, v = .text s ∧ s.isEmpty = false
  | .record model _ fields, v => ∃ record, v = .record model record ∧ FieldsFit fields record

/-- Are these the fields of a record, in the order of their declaration, each in the form of its schema? -/
def FieldsFit : List (FieldRule × Shape) → List (FieldName × Value) → Prop
  | [], record => record = []
  | (rule, shape) :: fields, record =>
    ∃ v rest, record = (rule.name, v) :: rest ∧ shape.Fits v ∧ FieldsFit fields rest

end

/-! ### Schemas whose records can be sent -/

/-- Can no field be taken for another, whichever of its names is used? -/
def FieldName.Apart (f g : FieldName) : Prop :=
  f.wire ≠ g.wire ∧ f.wire ≠ g.name ∧ f.name ≠ g.wire

instance : DecidableRel FieldName.Apart :=
  fun f g => inferInstanceAs (Decidable (f.wire ≠ g.wire ∧ f.wire ≠ g.name ∧ f.name ≠ g.wire))

/-- Does the schema refuse tuples? -/
def Shape.refusesTuples : Shape → Bool
  | .anything | .list _ _ _ | .optional _ => false
  | _ => true

/-- A field that is read from the wire as what was sent: it has a schema of its own, an absent value is in the form of
this schema, and it is nothing where nothing can be sent. -/
structure FieldTravels (rule : FieldRule) (shape : Shape) : Prop where
  closed : rule.name.isFree = false
  default : ∀ v, rule.default = some v → shape.Fits v
  null : shape.Fits .null → rule.default = some .null

section

variable (known : String → Option Shape)

mutual

/-- Can what the schema reads be sent and read again?  Its records are known by their names, their fields cannot be
mixed up, and no other keys are kept. -/
def Shape.Travels : Shape → Prop
  | .anything => False
  | .list item _ _ => item.Travels ∧ item.refusesTuples = true
  | .table item => item.Travels
  | .optional inner => inner.Travels
  | .record model extras fields =>
    extras ≠ .kept ∧ known model = some (.record model extras fields) ∧
      (fields.map fun field => field.1.name).Pairwise FieldName.Apart ∧ FieldsTravel fields
  | _ => True

/-- Can what is read for the fields be sent and read again? -/
def FieldsTravel : List (FieldRule × Shape) → Prop
  | [] => True
  | (rule, shape) :: fields => shape.Travels ∧ FieldTravels rule shape ∧ FieldsTravel fields

end

/-! ### Values that callers can have -/

/-- Is the value not made of other values? -/
def isScalar : Value → Bool
  | .list _ | .tuple _ | .set _ | .table _ | .record _ _ => false
  | _ => true

/-- A value in which every record of a known name was read by the schema of this name. -/
inductive Genuine : Value → Prop
  | scalar {v : Value} (h : isScalar v = true) : Genuine v
  | list {items : List Value} (h : ∀ v ∈ items, Genuine v) : Genuine (.list items)
  | tuple {items : List Value} (h : ∀ v ∈ items, Genuine v) : Genuine (.tuple items)
  | set {items : List Value} (h : ∀ v ∈ items, Genuine v) : Genuine (.set items)
  | table {entries : Entries Value} (h : ∀ e ∈ entries, Genuine e.2) : Genuine (.table entries)
  | foreign {model : String} {fields : List (FieldName × Value)} (h : known model = none) :
    Genuine (.record model fields)
  | read {model : String} {fields : List (FieldName × Value)} {shape : Shape} {input : Value}
    (hshape : known model = some shape) (hinput : Genuine input)
    (hread : shape.read input = .ok (.record model fields)) :
    Genuine (.record model fields)

end

/-! ### Readings fit -/

theorem read_tuple_ne_ok {shape : Shape} (h : shape.refusesTuples = true) (items : List Value) (m : Value) :
    shape.read (.tuple items) ≠ .ok m := by
  intro hread
  cases shape with
  | anything => cases h
  | list item least most => cases h
  | optional inner => cases h
  | record model extras fields => simp [Shape.read, isInstance] at hread
  | table item => simp [Shape.read] at hread
  | optionalName => simp [Shape.read, readText, atHere, Except.map, Except.mapError] at hread
  | text least most => cases hread
  | marked marks complaint => cases hread
  | integer least => cases hread
  | number => cases hread
  | score => cases hread
  | flag => cases hread
  | choice options => cases hread

/-- The fields of a record fit if what was read for them does. -/
theorem fieldsFit_of_readFields {fields : List (FieldRule × Shape)} {entries : Entries Value}
    {record : List (FieldName × Value)} (hread : readFields fields entries = record.map .ok)
    (hfields : ∀ field ∈ fields, (∀ v, field.1.default = some v → field.2.Fits v) ∧
      ∀ v ∈ entries.values, ∀ m, field.2.read v = .ok m → field.2.Fits m) : FieldsFit fields record := by
  induction fields generalizing record with
  | nil =>
    rw [readFields] at hread
    exact List.map_eq_nil_iff.1 hread.symm
  | cons field fields ih =>
    obtain ⟨hdefault, hgiven⟩ := hfields field (by simp)
    rw [readFields] at hread
    cases record with
    | nil => cases hread
    | cons part record =>
      rw [List.map_cons] at hread
      obtain ⟨hfirst, hrest⟩ := List.cons.inj hread
      obtain ⟨hname, hvalue⟩ := named_eq_ok_iff.1 hfirst
      refine ⟨part.2, record, by rw [← hname], ?_, ih hrest fun f hf => hfields f (by simp [hf])⟩
      rcases hvalue with ⟨key, v, hfound, hv⟩ | ⟨-, hv⟩
      · exact hgiven v (mem_of_lookUp? hfound) part.2 hv
      · exact hdefault part.2 hv

section

variable {known : String → Option Shape}

theorem FieldsTravel.forall_mem {fields : List (FieldRule × Shape)} (h : FieldsTravel known fields) :
    ∀ field ∈ fields, field.2.Travels known ∧ FieldTravels field.1 field.2 := by
  induction fields with
  | nil => nofun
  | cons field fields ih =>
    rw [List.forall_mem_cons]
    exact ⟨⟨h.1, h.2.1⟩, ih h.2.2⟩

/-- Where nothing is at fault and no unknown keys are kept, there is nothing that no field takes. -/
theorem readExtras_eq_nil {extras : Extras} (hextras : extras ≠ .kept) {entries : Entries Value}
    {readings : List (Except (List Fault) (FieldName × Value))} {record : List (FieldName × Value)}
    (h : readings ++ readExtras extras entries = record.map .ok) : readExtras extras entries = [] := by
  cases extras with
  | kept => exact absurd rfl hextras
  | ignored => rfl
  | refused =>
    cases entries with
    | nil => rfl
    | cons e entries =>
      have hmem : Except.error [⟨[.key e.1], .extraKey⟩] ∈ record.map (Except.ok (ε := List Fault)) := by
        rw [← h]
        simp [readExtras]
      obtain ⟨part, -, hpart⟩ := List.mem_map.1 hmem
      cases hpart

theorem exists_fields_of_isInstance {model : String} {v : Value} (h : isInstance model v = true) :
    ∃ fields, v = .record model fields := by
  unfold isInstance at h
  split at h
  · next fields => exact ⟨fields, by rw [eq_of_beq h]⟩
  · cases h

/-- Is what any travelling schema reads from the value in the form of the schema? -/
def FitsWhenRead (known : String → Option Shape) (v : Value) : Prop :=
  ∀ shape : Shape, shape.Travels known → ∀ m, shape.read v = .ok m → shape.Fits m

/-- A value is read in the form of the schema if its parts are. -/
theorem fitsWhenRead_of_parts {v : Value}
    (hitems : ∀ items, itemsOf? v = some items → ∀ w ∈ items, FitsWhenRead known w ∨ ∃ parts, w = .tuple parts)
    (hentries : ∀ entries, v = .table entries → ∀ w ∈ Entries.values entries, FitsWhenRead known w)
    (hrecord : ∀ model fields, v = .record model fields → ∀ shape, known model = some shape → shape.Travels known →
      shape.Fits v) : FitsWhenRead known v
  | .text least most, _, m, hread => by
    obtain ⟨s, -, hs⟩ := bind_of_atHere hread
    obtain rfl := text_of_boundedText hs
    exact ⟨s, rfl, hs⟩
  | .marked marks complaint, _, m, hread => by
    obtain ⟨s, -, hs⟩ := bind_of_atHere hread
    have hm : m = .text s := by
      rw [markedText] at hs
      split at hs
      · exact (Except.ok.inj hs).symm
      · cases hs
    exact ⟨s, hm, hs⟩
  | .integer least, _, m, hread => by
    obtain ⟨n, -, hn⟩ := bind_of_atHere hread
    have hm : m = .int n := by
      unfold boundedInteger at hn
      split at hn
      · split at hn
        · cases hn
        · exact (Except.ok.inj hn).symm
      · exact (Except.ok.inj hn).symm
    exact ⟨n, hm, hn⟩
  | .number, _, m, hread => by
    obtain ⟨x, -, hx⟩ := map_of_atHere hread
    exact ⟨x, hx⟩
  | .score, _, m, hread => by
    obtain ⟨x, -, hx⟩ := bind_of_atHere hread
    have hm : m = .float x := by
      rw [scoreNumber] at hx
      split at hx
      · cases hx
      · split at hx
        · cases hx
        · exact (Except.ok.inj hx).symm
    exact ⟨x, hm, hx⟩
  | .flag, _, m, hread => by
    obtain ⟨b, -, hb⟩ := map_of_atHere hread
    exact ⟨b, hb⟩
  | .choice options, _, m, hread => by
    exact choice_of_read hread
  | .list item least most, htravels, m, hread => by
    obtain ⟨items, values, hfound, rfl, hleast, hmost, hvalues⟩ := items_of_read_list hread
    refine ⟨values, rfl, hleast, hmost, fun w hw => ?_⟩
    obtain ⟨u, hu, hitem⟩ := hvalues w hw
    rcases hitems items hfound u hu with hfits | ⟨parts, rfl⟩
    · exact hfits item htravels.1 w hitem
    · exact absurd hitem (read_tuple_ne_ok htravels.2 parts w)
  | .table item, htravels, m, hread => by
    unfold Shape.read at hread
    split at hread
    · next entries =>
      obtain ⟨values, hvalues, rfl⟩ := map_eq_ok hread
      refine ⟨values, rfl, fun e he => ?_⟩
      have hmem : .ok e ∈ entries.map fun e => (underStep (.key e.1) (item.read e.2)).map fun w => (e.1, w) := by
        rw [eq_map_ok_of_collect hvalues]
        exact List.mem_map_of_mem he
      obtain ⟨e', he', hitem⟩ := List.mem_map.1 hmem
      obtain ⟨w, hw, rfl⟩ := map_eq_ok hitem
      exact hentries entries rfl e'.2 (List.mem_map_of_mem he') item htravels w (ok_of_mapError hw)
    · cases hread
  | .optional inner, htravels, m, hread => by
    unfold Shape.read at hread
    split at hread
    · exact .inl (Except.ok.inj hread).symm
    -- The inner schema reads the same value, so this is the one place where the recursion goes on.
    · exact .inr (fitsWhenRead_of_parts hitems hentries hrecord inner htravels m hread)
  | .optionalName, _, m, hread => by
    unfold Shape.read at hread
    split at hread
    · exact .inl (Except.ok.inj hread).symm
    · obtain ⟨s, -, hs⟩ := map_of_atHere hread
      rw [hs]
      by_cases hempty : s.isEmpty = true
      · rw [if_pos hempty]
        exact .inl rfl
      · rw [if_neg hempty]
        exact .inr ⟨s, rfl, by simpa using hempty⟩
  | .record model extras fields, htravels, m, hread => by
    have hwhole := hread
    unfold Shape.read at hread
    split at hread
    · next hinstance =>
      obtain rfl := Except.ok.inj hread
      obtain ⟨record, rfl⟩ := exists_fields_of_isInstance hinstance
      exact hrecord model record rfl _ htravels.2.1 htravels
    · split at hread
      · next entries _ =>
        obtain ⟨record, rfl, hparts⟩ := parts_of_read_record hwhole
        rw [readExtras_eq_nil htravels.1 hparts, List.append_nil] at hparts
        refine ⟨record, rfl, fieldsFit_of_readFields hparts fun field hfield => ?_⟩
        obtain ⟨hshape, hrule⟩ := htravels.2.2.2.forall_mem field hfield
        exact ⟨hrule.default, fun w hw => hentries entries rfl w hw field.2 hshape⟩
      · cases hread

theorem itemsOf?_of_isScalar {v : Value} (h : isScalar v = true) : itemsOf? v = none := by
  cases v <;> first | rfl | cases h

theorem fitsWhenRead_of_items {v : Value} {items : List Value} (hitems : itemsOf? v = some items)
    (hrecord : ∀ model fields, v ≠ .record model fields) (h : ∀ w ∈ items, FitsWhenRead known w) :
    FitsWhenRead known v := by
  apply fitsWhenRead_of_parts
  · intro items' hitems' w hw
    obtain rfl := Option.some.inj (hitems.symm.trans hitems')
    exact .inl (h w hw)
  · rintro entries rfl
    cases hitems
  · intro model fields heq
    exact absurd heq (hrecord model fields)

theorem fitsWhenRead_of_record {model : String} {fields : List (FieldName × Value)}
    (h : ∀ shape, known model = some shape → shape.Travels known → shape.Fits (.record model fields)) :
    FitsWhenRead known (.record model fields) := by
  apply fitsWhenRead_of_parts
  · intro items hitems w hw
    rw [← Option.some.inj hitems, Value.fieldPairs] at hw
    obtain ⟨f, -, rfl⟩ := List.mem_map.1 hw
    -- A record counts as the list of its fields, but each of them is a tuple.
    exact .inr ⟨_, rfl⟩
  · nofun
  · intro model' fields' heq
    cases heq
    exact h

/-- What a schema reads from a value that callers can have is in its form. -/
theorem Genuine.fitsWhenRead {v : Value} (h : Genuine known v) : FitsWhenRead known v := by
  induction h with
  | @scalar v hscalar =>
    apply fitsWhenRead_of_parts
    · intro items hitems
      rw [itemsOf?_of_isScalar hscalar] at hitems
      cases hitems
    · rintro entries rfl
      cases hscalar
    · rintro model fields rfl
      cases hscalar
  | list _ ih => exact fitsWhenRead_of_items rfl nofun ih
  | tuple _ ih => exact fitsWhenRead_of_items rfl nofun ih
  | set _ ih => exact fitsWhenRead_of_items rfl nofun ih
  | table _ ih =>
    apply fitsWhenRead_of_parts
    · nofun
    · rintro entries hentries w hw
      obtain ⟨e, he, rfl⟩ := List.mem_map.1 hw
      cases hentries
      exact ih e he
    · nofun
  | foreign hforeign =>
    apply fitsWhenRead_of_record
    intro shape hshape
    rw [hforeign] at hshape
    cases hshape
  | read hshape _ hread ih =>
    apply fitsWhenRead_of_record
    intro shape hshape' htravels
    obtain rfl := Option.some.inj (hshape.symm.trans hshape')
    exact ih _ htravels _ hread

end

end Promptbook.Schema
