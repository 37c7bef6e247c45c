import Mathlib
import Promptbook.Entries
import Promptbook.Value.Basic

/-!
# Arrangements of sets

A set holds its items in no order of its own, but a value lists them in some order.  `Rearranged` relates the values
that differ in that order alone, in any of their sets.  The lemmas `rearranged_list_iff` to `rearranged_record_iff`
say what a value of each kind can become, and `induction` follows a value down to its parts, of whatever kind it is.
-/

namespace Promptbook.Value

/-! ### Going through a value -/

/-- The values of which a value consists. -/
def parts : Value → List Value
  | list items => items
  | tuple items => items
  | set items => items
  | table entries => entries.map (·.2)
  | record _ fields => fields.map (·.2)
  | reply _ response => [response]
  | _ => []

private theorem sizeOf_lt_of_mem_map {κ : Type} [SizeOf κ] {entries : List (κ × Value)} {w : Value}
    (h : w ∈ entries.map (·.2)) : sizeOf w < sizeOf entries := by
  obtain ⟨⟨key, w⟩, he, rfl⟩ := List.mem_map.1 h
  have hentry := List.sizeOf_lt_of_mem he
  rw [Prod.mk.sizeOf_spec] at hentry
  dsimp only
  omega

theorem sizeOf_lt_of_mem_parts {v w : Value} (h : w ∈ v.parts) : sizeOf w < sizeOf v := by
  cases v with
  | list items | tuple items | set items =>
    have hitem : sizeOf w < sizeOf items := List.sizeOf_lt_of_mem h
    simp only [list.sizeOf_spec, tuple.sizeOf_spec, set.sizeOf_spec]
    omega
  | table entries =>
    have hentry := sizeOf_lt_of_mem_map h
    simp only [table.sizeOf_spec]
    omega
  | record model fields =>
    have hfield := sizeOf_lt_of_mem_map h
    simp only [record.sizeOf_spec]
    omega
  | reply holder response =>
    obtain rfl := List.mem_singleton.1 h
    simp only [reply.sizeOf_spec]
    omega
  | _ => cases h

/-- What holds of a value if it holds of its parts holds of all values. -/
@[elab_as_elim]
theorem induction {P : Value → Prop} (step : ∀ v, (∀ w ∈ v.parts, P w) → P v) (v : Value) : P v :=
  step v fun w _ => induction step w
termination_by sizeOf v
decreasing_by exact sizeOf_lt_of_mem_parts ‹_›

/-! ### Values with their sets in another order -/

/-- Is the second value the first one with the items of its sets, at any depth, in any order? -/
inductive Rearranged : Value → Value → Prop
  | same (v : Value) : Rearranged v v
  | list {items others : List Value} (hlength : items.length = others.length)
    (hitems : ∀ p ∈ items.zip others, Rearranged p.1 p.2) : Rearranged (.list items) (.list others)
  | tuple {items others : List Value} (hlength : items.length = others.length)
    (hitems : ∀ p ∈ items.zip others, Rearranged p.1 p.2) : Rearranged (.tuple items) (.tuple others)
  | set {items turned others : List Value} (hturned : items.Perm turned) (hlength : turned.length = others.length)
    (hitems : ∀ p ∈ turned.zip others, Rearranged p.1 p.2) : Rearranged (.set items) (.set others)
  | table {entries others : Entries Value} (hkeys : entries.keys = others.keys)
    (hvalues : ∀ p ∈ entries.zip others, Rearranged p.1.2 p.2.2) : Rearranged (.table entries) (.table others)
  | record {model : String} {fields others : List (FieldName × Value)} (hnames : fields.map (·.1) = others.map (·.1))
    (hvalues : ∀ p ∈ fields.zip others, Rearranged p.1.2 p.2.2) :
    Rearranged (.record model fields) (.record model others)
  | reply (holder : Thing) {response other : Value} (hresponse : Rearranged response other) :
    Rearranged (.reply holder response) (.reply holder other)

/-- Have two entries or fields the same name, and is the value of the second that of the first rearranged? -/
def RearrangedUnder {κ : Type} (e f : κ × Value) : Prop :=
  e.1 = f.1 ∧ e.2.Rearranged f.2

theorem forall₂_rearranged_same (items : List Value) : List.Forall₂ Rearranged items items :=
  List.forall₂_same.2 fun v _ => .same v

theorem rearrangedUnder_same {κ : Type} (e : κ × Value) : RearrangedUnder e e :=
  ⟨rfl, .same e.2⟩

private theorem forall₂_rearranged_iff {items others : List Value} :
    List.Forall₂ Rearranged items others ↔
      items.length = others.length ∧ ∀ p ∈ items.zip others, p.1.Rearranged p.2 := by
  rw [List.forall₂_iff_zip]
  exact and_congr_right fun _ => ⟨fun h p hp => h hp, fun h x y hxy => h (x, y) hxy⟩

private theorem forall₂_rearrangedUnder_iff {κ : Type} {entries others : List (κ × Value)} :
    List.Forall₂ RearrangedUnder entries others ↔
      entries.map (·.1) = others.map (·.1) ∧ ∀ p ∈ entries.zip others, p.1.2.Rearranged p.2.2 := by
  induction entries generalizing others with
  | nil => cases others <;> simp
  | cons e entries ih =>
    cases others with
    | nil => simp
    | cons f others =>
      simp only [List.forall₂_cons, ih, RearrangedUnder, List.map_cons, List.cons.injEq, List.zip_cons_cons,
        List.forall_mem_cons]
      tauto

theorem rearranged_list_iff {items : List Value} {w : Value} :
    (list items).Rearranged w ↔ ∃ others, w = list others ∧ List.Forall₂ Rearranged items others := by
  constructor
  · intro h
    cases h with
    | same => exact ⟨items, rfl, forall₂_rearranged_same items⟩
    | list hlength hitems => exact ⟨_, rfl, forall₂_rearranged_iff.2 ⟨hlength, hitems⟩⟩
  · rintro ⟨others, rfl, h⟩
    exact .list (forall₂_rearranged_iff.1 h).1 (forall₂_rearranged_iff.1 h).2

theorem rearranged_tuple_iff {items : List Value} {w : Value} :
    (tuple items).Rearranged w ↔ ∃ others, w = tuple others ∧ List.Forall₂ Rearranged items others := by
  constructor
  · intro h
    cases h with
    | same => exact ⟨items, rfl, forall₂_rearranged_same items⟩
    | tuple hlength hitems => exact ⟨_, rfl, forall₂_rearranged_iff.2 ⟨hlength, hitems⟩⟩
  · rintro ⟨others, rfl, h⟩
    exact .tuple (forall₂_rearranged_iff.1 h).1 (forall₂_rearranged_iff.1 h).2

theorem rearranged_set_iff {items : List Value} {w : Value} :
    (set items).Rearranged w ↔
      ∃ turned others, items.Perm turned ∧ w = set others ∧ List.Forall₂ Rearranged turned others := by
  constructor
  · intro h
    cases h with
    | same => exact ⟨items, items, .rfl, rfl, forall₂_rearranged_same items⟩
    | set hturned hlength hitems => exact ⟨_, _, hturned, rfl, forall₂_rearranged_iff.2 ⟨hlength, hitems⟩⟩
  · rintro ⟨turned, others, hturned, rfl, h⟩
    exact .set hturned (forall₂_rearranged_iff.1 h).1 (forall₂_rearranged_iff.1 h).2

theorem rearranged_table_iff {entries : Entries Value} {w : Value} :
    (table entries).Rearranged w ↔ ∃ others, w = table others ∧ List.Forall₂ RearrangedUnder entries others := by
  constructor
  · intro h
    cases h with
    | same => exact ⟨entries, rfl, List.forall₂_same.2 fun e _ => rearrangedUnder_same e⟩
    | table hkeys hvalues => exact ⟨_, rfl, forall₂_rearrangedUnder_iff.2 ⟨hkeys, hvalues⟩⟩
  · rintro ⟨others, rfl, h⟩
    exact .table (forall₂_rearrangedUnder_iff.1 h).1 (forall₂_rearrangedUnder_iff.1 h).2

theorem rearranged_record_iff {model : String} {fields : List (FieldName × Value)} {w : Value} :
    (record model fields).Rearranged w ↔
      ∃ others, w = record model others ∧ List.Forall₂ RearrangedUnder fields others := by
  constructor
  · intro h
    cases h with
    | same => exact ⟨fields, rfl, List.forall₂_same.2 fun f _ => rearrangedUnder_same f⟩
    | record hnames hvalues => exact ⟨_, rfl, forall₂_rearrangedUnder_iff.2 ⟨hnames, hvalues⟩⟩
  · rintro ⟨others, rfl, h⟩
    exact .record (forall₂_rearrangedUnder_iff.1 h).1 (forall₂_rearrangedUnder_iff.1 h).2

theorem Rearranged.isPresent_eq {v w : Value} (h : v.Rearranged w) : w.isPresent = v.isPresent := by
  cases h <;> rfl

theorem Rearranged.eq_null {w : Value} (h : Value.null.Rearranged w) : w = .null := by
  cases h
  rfl

end Promptbook.Value
