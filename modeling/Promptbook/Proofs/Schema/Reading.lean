import Promptbook.Proofs.Entries
import Promptbook.Schema.Records

/-!
# Reading records

How readings of parts become the reading of the whole when nothing is at fault: items one by one (`collect_map_ok`),
the fields of a record in the order of their declaration (`readFields_cons`, `read_record_of_fields`).  In the other
direction, nothing is at fault in the parts of a value that was read (`eq_map_ok_of_collect`, `items_of_read_list`,
`parts_of_read_record`), and a field has what was read for it or its default (`named_eq_ok_iff`).
-/

namespace Promptbook.Schema

theorem ok_of_mapError {α ε ε' : Type} {f : ε → ε'} {result : Except ε α} {a : α} (h : result.mapError f = .ok a) :
    result = .ok a := by
  cases result with
  | error e => cases h
  | ok b => exact congrArg Except.ok (Except.ok.inj h)

theorem map_eq_ok {α β ε : Type} {result : Except ε α} {f : α → β} {b : β} (h : result.map f = .ok b) :
    ∃ a, result = .ok a ∧ b = f a := by
  cases result with
  | error e => cases h
  | ok a => exact ⟨a, rfl, (Except.ok.inj h).symm⟩

theorem bind_of_atHere {α : Type} {result : Except FaultKind α} {f : α → Except FaultKind Value} {m : Value}
    (h : atHere (result >>= f) = .ok m) : ∃ a, result = .ok a ∧ f a = .ok m := by
  have hbind := ok_of_mapError h
  cases result with
  | error kind => cases hbind
  | ok a => exact ⟨a, rfl, hbind⟩

theorem map_of_atHere {α : Type} {result : Except FaultKind α} {f : α → Value} {m : Value}
    (h : atHere (result.map f) = .ok m) : ∃ a, result = .ok a ∧ m = f a :=
  map_eq_ok (ok_of_mapError h)

theorem collect_map_ok {α β : Type} {f : α → Except (List Fault) β} {g : α → β} {l : List α}
    (h : ∀ a ∈ l, f a = .ok (g a)) : collect (l.map f) = .ok (l.map g) := by
  induction l with
  | nil => rfl
  | cons a l ih =>
    rw [List.map_cons, h a (by simp), collect, ih fun b hb => h b (by simp [hb])]
    rfl

theorem collect_ok {α : Type} (values : List α) : collect (values.map .ok) = .ok values := by
  rw [collect_map_ok fun _ _ => rfl, List.map_id']

/-- If parts are put together, each of them was read. -/
theorem eq_map_ok_of_collect {α : Type} {readings : List (Except (List Fault) α)} {values : List α}
    (h : collect readings = .ok values) : readings = values.map .ok := by
  induction readings generalizing values with
  | nil =>
    cases h
    rfl
  | cons reading rest ih =>
    cases reading with
    | error faults =>
      rw [collect] at h
      split at h <;> cases h
    | ok v =>
      rw [collect] at h
      cases hrest : collect rest with
      | error more =>
        rw [hrest] at h
        cases h
      | ok more =>
        rw [hrest] at h
        cases h
        rw [ih hrest, List.map_cons]

theorem collect_eq_ok_iff {α : Type} {readings : List (Except (List Fault) α)} {values : List α} :
    collect readings = .ok values ↔ readings = values.map .ok :=
  ⟨eq_map_ok_of_collect, fun h => h ▸ collect_ok values⟩

theorem text_of_boundedText {least : Nat} {most : Option Nat} {s : String} {w : Value}
    (h : boundedText least most s = .ok w) : w = .text s := by
  unfold boundedText at h
  split at h
  · cases h
  · split at h
    · split at h
      · cases h
      · exact (Except.ok.inj h).symm
    · exact (Except.ok.inj h).symm

/-- A list is read if its items are and their number is within the bounds. -/
theorem boundedList_eq_ok_iff {least : Nat} {most : Option Nat} {count : Nat} {announced : Option Nat}
    {items : Except (List Fault) (List Value)} {w : Value} :
    boundedList least most count announced items = .ok w ↔
      ∃ values, items = .ok values ∧ w = .list values ∧ least ≤ count ∧ ∀ n ∈ most, count ≤ n := by
  have hmost : (most.filter fun n => n < count) = none ↔ ∀ n ∈ most, count ≤ n := by
    cases most <;> simp
  rw [← hmost]
  unfold boundedList
  cases most.filter fun n => n < count with
  | some n => simp
  | none =>
    cases items with
    | error faults => simp
    | ok values =>
      by_cases hleast : count < least
      · simp [hleast]
      · simp [hleast, Nat.le_of_not_lt hleast, eq_comm]

/-- A list that was read: as many items as it may have, each of them read from an item of the value. -/
theorem items_of_read_list {item : Shape} {least : Nat} {most : Option Nat} {v m : Value}
    (h : (Shape.list item least most).read v = .ok m) :
    ∃ items values, itemsOf? v = some items ∧ m = .list values ∧ least ≤ values.length ∧
      (∀ n ∈ most, values.length ≤ n) ∧ ∀ w ∈ values, ∃ u ∈ items, item.read u = .ok w := by
  rw [Shape.read] at h
  split at h
  · cases h
  · next items hitems =>
    obtain ⟨values, hvalues, rfl, hleast, hmost⟩ := boundedList_eq_ok_iff.1 h
    have hreadings := eq_map_ok_of_collect hvalues
    have hlength : values.length = items.length := by simpa using (congrArg List.length hreadings).symm
    refine ⟨items, values, hitems, rfl, hlength ▸ hleast, hlength ▸ hmost, fun w hw => ?_⟩
    have hmem : .ok w ∈ items.mapIdx fun i u => underStep (.index i) (item.read u) := by
      rw [hreadings]
      exact List.mem_map_of_mem hw
    obtain ⟨i, hi, hitem⟩ := List.mem_mapIdx.1 hmem
    exact ⟨items[i], List.getElem_mem hi, ok_of_mapError hitem⟩

/-- A word is read as the choice that is found by it. -/
theorem choice_of_read {options : List Choice} {v m : Value} (h : (Shape.choice options).read v = .ok m) :
    ∃ c, m = .choice c ∧ options.find? (fun o => o.word == c.word) = some c := by
  have hchoice := ok_of_mapError h
  rw [readChoice] at hchoice
  split at hchoice
  · next c hc =>
    obtain ⟨word, -, hfind⟩ := Option.bind_eq_some_iff.1 hc
    have hword : c.word = word := by simpa using List.find?_some hfind
    exact ⟨c, (Except.ok.inj hchoice).symm, by rw [hword]; exact hfind⟩
  · cases hchoice

theorem read_anyText (s : String) : anyText.read (.text s) = .ok (.text s) := rfl

theorem read_anyInteger (n : Int) : anyInteger.read (.int n) = .ok (.int n) := rfl

/-- A field has the value that was read for it, or else the default. -/
theorem named_eq_ok_iff {rule : FieldRule} {shape : Shape} {entries : Entries Value} {part : FieldName × Value} :
    named rule.name (match lookUp? entries rule.name with
      | some (key, v) => underStep (.key key) (shape.read v)
      | none => absent rule) = .ok part ↔
    part.1 = rule.name ∧ ((∃ key v, lookUp? entries rule.name = some (key, v) ∧ shape.read v = .ok part.2) ∨
      lookUp? entries rule.name = none ∧ rule.default = some part.2) := by
  obtain ⟨name, value⟩ := part
  cases hfound : lookUp? entries rule.name with
  | none =>
    cases hdefault : rule.default with
    | none => simp [named, absent, hdefault, Except.map]
    | some v => simp [named, absent, hdefault, Except.map, eq_comm]
  | some found =>
    obtain ⟨key, v⟩ := found
    cases hread : shape.read v with
    | error faults => simp [named, underStep, hread, Except.map, Except.mapError]
    | ok w => simp [named, underStep, hread, Except.map, Except.mapError, eq_comm]

theorem mem_of_lookUp? {entries : Entries Value} {f : FieldName} {key : String} {v : Value}
    (h : lookUp? entries f = some (key, v)) : v ∈ entries.values := by
  rw [lookUp?] at h
  cases hwire : entries.get? f.wire with
  | some w =>
    simp only [hwire, Option.some.injEq, Prod.mk.injEq] at h
    exact Entries.mem_values_of_get? (h.2 ▸ hwire)
  | none =>
    simp only [hwire, Option.map_eq_some_iff, Prod.mk.injEq] at h
    obtain ⟨w, hname, -, rfl⟩ := h
    exact Entries.mem_values_of_get? hname

/-- A field that is found and read comes first. -/
theorem readFields_cons {rule : FieldRule} {shape : Shape} {fields : List (FieldRule × Shape)}
    {entries : Entries Value} {key : String} {v w : Value} (hfound : lookUp? entries rule.name = some (key, v))
    (hread : shape.read v = .ok w) :
    readFields ((rule, shape) :: fields) entries = .ok (rule.name, w) :: readFields fields entries := by
  rw [readFields, hfound]
  simp only [hread]
  rfl

/-- A record whose fields are all read and whose input holds nothing else. -/
theorem read_record_of_fields {model : String} {extras : Extras} {fields : List (FieldRule × Shape)}
    {entries : Entries Value} {record : List (FieldName × Value)}
    (hfields : readFields fields entries = record.map .ok) (hextra : extraEntries entries (fields.map (·.1)) = []) :
    (Shape.record model extras fields).read (.table entries) = .ok (.record model record) := by
  have hnone : readExtras extras [] = [] := by cases extras <;> rfl
  rw [Shape.read, hfields, hextra, hnone, List.append_nil, collect_ok]
  simp [isInstance, Except.map]

/-- A record that was read from a table: each of its fields was read, and no other entry was at fault. -/
theorem parts_of_read_record {model : String} {extras : Extras} {fields : List (FieldRule × Shape)}
    {entries : Entries Value} {m : Value} (h : (Shape.record model extras fields).read (.table entries) = .ok m) :
    ∃ record, m = .record model record ∧
      readFields fields entries ++ readExtras extras (extraEntries entries (fields.map (·.1))) = record.map .ok := by
  rw [Shape.read, if_neg (by simp [isInstance])] at h
  cases hcollect : collect
      (readFields fields entries ++ readExtras extras (extraEntries entries (fields.map (·.1)))) with
  | error faults =>
    rw [hcollect] at h
    cases h
  | ok record =>
    rw [hcollect] at h
    exact ⟨record, (Except.ok.inj h).symm, eq_map_ok_of_collect hcollect⟩

end Promptbook.Schema
