import Promptbook.Proofs.Entries
import Promptbook.Proofs.Json.Trees
import Promptbook.Proofs.Json.UniqueReading

/-!
# Forms of values

The `form` of a tree is its outline with all keys in order.  It is what the canonical text shows
(`canonicalText_eq_ok_iff`) and what the items of a set are put in order by (`orderText_eq`).  The form of a value is
there if the value can be written, and it is put together from the forms of the value's parts: `Gathers` says so for
each way in which lists, tuples, sets, tables and records become trees.
-/

namespace Promptbook

open Json (Outline)

namespace Json

/-- The outline of a tree with the entries of all tables in the order of their keys. -/
def form (j : Json) : Outline :=
  j.sortKeys.outline

theorem form_list (items : List Json) : (list items).form = .list (items.map form) := by
  rw [form, sortKeys, outline, sortKeysItems_eq_map, outlineItems_eq_map, List.map_map]
  rfl

private theorem map_sorted {α β : Type} (entries : Entries α) (f : α → β) :
    entries.sorted.map (fun e => (e.1, f e.2)) = Entries.sorted (entries.map fun e => (e.1, f e.2)) :=
  List.map_mergeSort fun _ _ _ _ => rfl

theorem form_table (entries : Entries Json) :
    (table entries).form = .table (Entries.sorted (entries.map fun e => (e.1, e.2.form))) := by
  rw [form, sortKeys, outline, sortKeysEntries_eq_map, outlineEntries_eq_map, map_sorted, List.map_map]
  rfl

theorem toText_compact_sortKeys (j : Json) : j.sortKeys.toText .compact = String.ofList (j.form.write []) := by
  rw [toText, Style.compact_eq_flat, write_flat]
  rfl

end Json

namespace Value

theorem orderText_eq (j : Json) : orderText j = j.form.write [' '] := by
  rw [orderText, Json.Style.spaced_eq_flat, Json.write_flat]
  rfl

theorem orderText_eq_iff {j k : Json} : orderText j = orderText k ↔ j.form = k.form := by
  rw [orderText, orderText, Json.Style.spaced_eq_flat, Json.write_flat_eq_iff]
  rfl

/-! ### Results that can be used -/

section Usable

variable {α β γ : Type} {refused : β → Bool} {form : β → γ}

/-- The form of a result, if there is one that is not refused. -/
def usable (refused : β → Bool) (form : β → γ) : Except Misuse β → Option γ
  | .ok b => if refused b then none else some (form b)
  | .error _ => none

theorem usable_eq_some_iff {result : Except Misuse β} {c : γ} :
    usable refused form result = some c ↔ ∃ b, result = .ok b ∧ refused b = false ∧ form b = c := by
  cases result with
  | error m => simp [usable]
  | ok b => cases hb : refused b <;> simp [usable, hb]

private theorem usable_cons (first : Except Misuse β) (rest : Except Misuse (List β)) :
    usable (·.any refused) (·.map form) (do return (← first) :: (← rest)) =
      (usable refused form first).bind fun c => (usable (·.any refused) (·.map form) rest).map (c :: ·) := by
  cases first with
  | error m => rfl
  | ok b =>
    cases rest with
    | error m => cases hb : refused b <;> simp [usable, hb, bind, Except.bind]
    | ok bs =>
      cases hb : refused b <;> cases hbs : bs.any refused <;>
        simp [usable, hb, hbs, bind, Except.bind, pure, Except.pure]

/-- Several results can be used together if each of them can. -/
theorem usable_mapM_eq_some_iff {make : α → Except Misuse β} {xs : List α} {cs : List γ} :
    usable (·.any refused) (·.map form) (xs.mapM make) = some cs ↔
      xs.map (fun x => usable refused form (make x)) = cs.map some := by
  induction xs generalizing cs with
  | nil => cases cs <;> simp [usable, pure, Except.pure]
  | cons x xs ih =>
    rw [List.mapM_cons, usable_cons, List.map_cons]
    cases cs with
    | nil => simp [Option.bind_eq_some_iff]
    | cons c cs =>
      simp only [Option.bind_eq_some_iff, Option.map_eq_some_iff, List.cons.injEq, List.map_cons]
      constructor
      · rintro ⟨c', hc', cs', hcs', rfl, rfl⟩
        exact ⟨hc', ih.1 hcs'⟩
      · rintro ⟨hc, hcs⟩
        exact ⟨c, hc, cs, ih.2 hcs, rfl, rfl⟩

end Usable

/-! ### Putting forms together -/

/-- The form of a tree that was made, unless it holds an integer that is too long to be written. -/
def formOf (result : Except Misuse Json) : Option Outline :=
  usable Json.holdsLongInteger Json.form result

/-- The form of a value inside a set or a record. -/
def plainForm (free : Bool) (v : Value) : Option Outline :=
  formOf (v.plainJson .wire free)

/-- The form of a value. -/
def form (v : Value) : Option Outline :=
  formOf v.toJson

/-- The form of an entry whose value has a form. -/
def entryForm (f : Value → Option Outline) (e : String × Value) : Option (String × Outline) :=
  (f e.2).map fun o => (e.1, o)

/-- The form of a field, where a field that holds nothing is left out. -/
def fieldForm (f : FieldName × Value) : Option (Option (String × Outline)) :=
  (plainForm f.1.isFree f.2).map fun o => if f.2.isPresent then some (f.1.wire, o) else none

/-- Is a whole made exactly if each of its parts can be made, and then from what these are? -/
def Gathers {α β γ : Type} (part : α → Option β) (build : List β → γ) (whole : List α → Option γ) : Prop :=
  ∀ xs c, whole xs = some c ↔ ∃ bs, xs.map part = bs.map some ∧ build bs = c

namespace Gathers

variable {α β γ : Type} {part : α → Option β} {build : List β → γ} {whole : List α → Option γ} {xs ys : List α}

private theorem exists_eq_map_some {zs : List (Option β)} (h : ∀ z ∈ zs, z.isSome) :
    ∃ bs : List β, zs = bs.map some :=
  ⟨zs.pmap Option.get h, by simp [List.map_pmap]⟩

theorem isSome_iff (h : Gathers part build whole) : (whole xs).isSome ↔ ∀ x ∈ xs, (part x).isSome := by
  rw [Option.isSome_iff_exists]
  constructor
  · rintro ⟨c, hc⟩ x hx
    obtain ⟨bs, hbs, -⟩ := (h xs c).1 hc
    have hmem : part x ∈ bs.map some := hbs ▸ List.mem_map_of_mem hx
    obtain ⟨b, -, hb⟩ := List.mem_map.1 hmem
    rw [← hb]
    rfl
  · intro hparts
    obtain ⟨bs, hbs⟩ := exists_eq_map_some (List.forall_mem_map.2 hparts)
    exact ⟨_, (h xs _).2 ⟨bs, hbs, rfl⟩⟩

theorem congr (h : Gathers part build whole) (hparts : xs.map part = ys.map part) : whole xs = whole ys := by
  ext c
  rw [h, h, hparts]

/-- A whole that does not depend on the order of its parts is the same for parts in another order. -/
theorem eq_of_perm (h : Gathers part build whole) (hbuild : ∀ bs cs, bs.Perm cs → build bs = build cs)
    (hparts : (xs.map part).Perm (ys.map part)) : whole xs = whole ys := by
  have hforward : ∀ {xs ys : List α} {c : γ}, (xs.map part).Perm (ys.map part) → whole xs = some c →
      whole ys = some c := by
    intro xs ys c hperm hc
    obtain ⟨bs, hbs, rfl⟩ := (h xs c).1 hc
    rw [hbs] at hperm
    have hsome : ∀ z ∈ ys.map part, z.isSome := by
      intro z hz
      obtain ⟨b, -, rfl⟩ := List.mem_map.1 (hperm.mem_iff.2 hz)
      rfl
    obtain ⟨cs, hcs⟩ := exists_eq_map_some hsome
    rw [hcs, List.map_perm_map_iff (Option.some_injective β)] at hperm
    exact (h ys _).2 ⟨cs, hcs, (hbuild bs cs hperm).symm⟩
  ext c
  exact ⟨hforward hparts, hforward hparts.symm⟩

end Gathers

section Trees

variable {α β γ : Type} {make : α → Except Misuse β} {refused : β → Bool} {form : β → γ} {build : List β → Json}
  {buildForm : List γ → Outline}

/-- A tree that is built from parts gathers their forms, if it refuses what they refuse and its form is built from
theirs. -/
private theorem gathers_formOf (hrefused : ∀ bs, (build bs).holdsLongInteger = bs.any refused)
    (hform : ∀ bs, (build bs).form = buildForm (bs.map form)) :
    Gathers (fun x => usable refused form (make x)) buildForm fun xs => formOf ((xs.mapM make).map build) := by
  have hwhole : ∀ result : Except Misuse (List β),
      formOf (result.map build) = (usable (·.any refused) (·.map form) result).map buildForm := by
    intro result
    cases result with
    | error m => rfl
    | ok bs => cases hbs : bs.any refused <;> simp [formOf, usable, Except.map, hrefused, hform, hbs]
  intro xs o
  simp only [hwhole, Option.map_eq_some_iff, usable_mapM_eq_some_iff]

end Trees

/-! ### Lists and sets -/

theorem plainItems_eq_mapM (free : Bool) (items : List Value) :
    plainItems .wire free items = items.mapM (plainJson .wire free) := by
  induction items with
  | nil => rfl
  | cons v vs ih => rw [plainItems, ih, List.mapM_cons]

theorem itemsToJson_eq_mapM (items : List Value) : itemsToJson items = items.mapM toJson := by
  induction items with
  | nil => rfl
  | cons v vs ih => rw [itemsToJson, ih, List.mapM_cons]

private theorem gathers_list {make : Value → Except Misuse Json} :
    Gathers (fun v => formOf (make v)) Outline.list fun items => formOf ((items.mapM make).map Json.list) :=
  gathers_formOf Json.itemsHoldLongInteger_eq_any Json.form_list

theorem gathers_plainForm_list (free : Bool) :
    Gathers (plainForm free) Outline.list fun items => plainForm free (.list items) := by
  simp only [plainForm, plainJson, plainItems_eq_mapM]
  exact gathers_list

theorem gathers_plainForm_tuple (free : Bool) :
    Gathers (plainForm free) Outline.list fun items => plainForm free (.tuple items) := by
  simp only [plainForm, plainJson, plainItems_eq_mapM]
  exact gathers_list

theorem gathers_plainForm_set (free : Bool) :
    Gathers (plainForm free) Outline.list fun items => plainForm free (.set items) := by
  simp only [plainForm, plainJson, plainItems_eq_mapM]
  exact gathers_list

theorem gathers_form_list : Gathers form Outline.list fun items => form (.list items) := by
  simp only [form, toJson, itemsToJson_eq_mapM]
  exact gathers_list

theorem gathers_form_tuple : Gathers form Outline.list fun items => form (.tuple items) := by
  simp only [form, toJson, itemsToJson_eq_mapM]
  exact gathers_list

/-- Outlines in the order of their texts. -/
def inTextOrder (items : List Outline) : List Outline :=
  items.mergeSort fun a b => String.ofList (a.write [' ']) ≤ String.ofList (b.write [' '])

private theorem pairwise_inTextOrder (items : List Outline) :
    (inTextOrder items).Pairwise fun a b => String.ofList (a.write [' ']) ≤ String.ofList (b.write [' ']) :=
  Entries.pairwise_mergeSort_text (fun o : Outline => String.ofList (o.write [' '])) items

theorem inTextOrder_perm (items : List Outline) : (inTextOrder items).Perm items :=
  List.mergeSort_perm items _

/-- Outlines in the order of their texts do not show the order in which they came, as no two of them have one text. -/
theorem inTextOrder_eq_of_perm {items others : List Outline} (h : items.Perm others) :
    inTextOrder items = inTextOrder others := by
  have hperm : (inTextOrder items).Perm (inTextOrder others) :=
    ((inTextOrder_perm items).trans h).trans (inTextOrder_perm others).symm
  refine hperm.eq_of_pairwise (fun a b _ _ hab hba => ?_) (pairwise_inTextOrder items) (pairwise_inTextOrder others)
  exact Outline.write_inj (String.ofList_inj.1 (le_antisymm hab hba))

private theorem map_sortByText (items : List Json) :
    (sortByText items).map Json.form = inTextOrder (items.map Json.form) := by
  refine List.map_mergeSort fun a _ b _ => ?_
  rw [orderText_eq, orderText_eq]

theorem gathers_form_set :
    Gathers (plainForm false) (fun os => Outline.list (inTextOrder os)) fun items => form (.set items) := by
  have hlong : ∀ items, (Json.list (sortByText items)).holdsLongInteger = items.any Json.holdsLongInteger := by
    intro items
    rw [Json.holdsLongInteger, Json.itemsHoldLongInteger_eq_any]
    exact (List.mergeSort_perm items _).any_eq
  have hform : ∀ items, (Json.list (sortByText items)).form = Outline.list (inTextOrder (items.map Json.form)) := by
    intro items
    rw [Json.form_list, map_sortByText]
  simp only [form, toJson, plainItems_eq_mapM]
  exact gathers_formOf hlong hform

/-! ### Tables and records -/

theorem plainEntries_eq_mapM (free : Bool) (entries : List (String × Value)) :
    plainEntries .wire free entries = entries.mapM fun e => (plainJson .wire free e.2).map fun j => (e.1, j) := by
  induction entries with
  | nil => rfl
  | cons e es ih =>
    rw [plainEntries, ih, List.mapM_cons]
    cases plainJson .wire free e.2 <;> rfl

theorem entriesToJson_eq_mapM (entries : List (String × Value)) :
    entriesToJson entries = entries.mapM fun e => (toJson e.2).map fun j => (e.1, j) := by
  induction entries with
  | nil => rfl
  | cons e es ih =>
    rw [entriesToJson, ih, List.mapM_cons]
    cases toJson e.2 <;> rfl

/-- The form of a table with the forms of its entries. -/
def tableForm (entries : List (String × Outline)) : Outline :=
  .table (Entries.sorted entries)

theorem perm_of_tableForm_eq {entries others : List (String × Outline)} (h : tableForm entries = tableForm others) :
    entries.Perm others := by
  have hsorted : Entries.sorted entries = Entries.sorted others := Outline.table.inj h
  exact (Entries.sorted_perm entries).symm.trans (hsorted ▸ Entries.sorted_perm others)

private theorem gathers_table {make : Value → Except Misuse Json} :
    Gathers (entryForm fun v => formOf (make v)) tableForm fun entries =>
      formOf ((entries.mapM fun e => (make e.2).map fun j => (e.1, j)).map Json.table) := by
  have hpart : (entryForm fun v => formOf (make v)) = fun e =>
      usable (fun p : String × Json => p.2.holdsLongInteger) (fun p => (p.1, p.2.form))
        ((make e.2).map fun j => (e.1, j)) := by
    funext e
    cases hmade : make e.2 with
    | error m => simp [entryForm, formOf, usable, Except.map, hmade]
    | ok j => cases hlong : j.holdsLongInteger <;> simp [entryForm, formOf, usable, Except.map, hmade, hlong]
  rw [hpart]
  exact gathers_formOf Json.entriesHoldLongInteger_eq_any Json.form_table

theorem gathers_plainForm_table (free : Bool) :
    Gathers (entryForm (plainForm free)) tableForm fun entries => plainForm free (.table entries) := by
  simp only [plainForm, plainJson, plainEntries_eq_mapM]
  exact gathers_table

theorem gathers_form_table : Gathers (entryForm form) tableForm fun entries => form (.table entries) := by
  simp only [form, toJson, entriesToJson_eq_mapM]
  exact gathers_table

theorem eq_null_of_isPresent {v : Value} (h : v.isPresent = false) : v = .null := by
  cases v <;> first | rfl | cases h

/-- The entry of a field in a record's table, if the field holds something. -/
private def fieldEntry (f : FieldName × Value) : Except Misuse (Option (String × Json)) :=
  (plainJson .wire f.1.isFree f.2).map fun j => if f.2.isPresent then some (f.1.wire, j) else none

private theorem plainFields_eq_mapM (fields : List (FieldName × Value)) :
    plainFields .wire fields = (fields.mapM fieldEntry).map List.reduceOption := by
  induction fields with
  | nil => rfl
  | cons f fs ih =>
    rw [plainFields, ih, List.mapM_cons, fieldEntry]
    cases plainJson .wire f.1.isFree f.2 with
    | error m => rfl
    | ok j =>
      cases fs.mapM fieldEntry with
      | error m => rfl
      | ok es =>
        cases hpresent : f.2.isPresent <;>
          simp [Except.map, bind, Except.bind, pure, Except.pure, RecordForm.wire, RecordForm.key,
            List.reduceOption_cons_of_some, List.reduceOption_cons_of_none]

theorem gathers_plainForm_record (free : Bool) (model : String) :
    Gathers fieldForm (fun es => tableForm es.reduceOption) fun fields => plainForm free (.record model fields) := by
  have hpart : fieldForm = fun f =>
      usable (fun e : Option (String × Json) => e.any fun p => p.2.holdsLongInteger)
        (fun e => e.map fun p => (p.1, p.2.form)) (fieldEntry f) := by
    funext f
    unfold fieldForm fieldEntry plainForm formOf
    cases hmade : plainJson .wire f.1.isFree f.2 with
    | error m => rfl
    | ok j =>
      cases hpresent : f.2.isPresent with
      | true => cases hlong : j.holdsLongInteger <;> simp [usable, Except.map, hlong]
      | false =>
        -- only nothing is left out, and nothing can always be written
        rw [eq_null_of_isPresent hpresent, plainJson] at hmade
        obtain rfl := Except.ok.inj hmade
        rfl
  have hrefused : ∀ es : List (Option (String × Json)),
      (Json.table es.reduceOption).holdsLongInteger = es.any fun e => e.any fun p => p.2.holdsLongInteger := by
    intro es
    rw [Json.holdsLongInteger, Json.entriesHoldLongInteger_eq_any, List.reduceOption, List.any_filterMap]
    rfl
  have hform : ∀ es : List (Option (String × Json)), (Json.table es.reduceOption).form =
      tableForm (es.map fun e => e.map fun p => (p.1, p.2.form)).reduceOption := by
    intro es
    rw [Json.form_table, List.reduceOption_map]
    rfl
  have hwhole : ∀ fields, plainForm free (.record model fields) =
      formOf ((fields.mapM fieldEntry).map fun es => Json.table es.reduceOption) := by
    intro fields
    rw [plainForm, plainJson, plainFields_eq_mapM]
    cases fields.mapM fieldEntry <;> rfl
  rw [hpart]
  simp only [hwhole]
  exact gathers_formOf hrefused hform

/-! ### Canonical texts -/

theorem canonicalText_eq_ok_iff {v : Value} {t : String} :
    v.canonicalText = .ok t ↔ ∃ o, v.form = some o ∧ String.ofList (o.write []) = t := by
  rw [canonicalText, form, formOf]
  cases v.toJson with
  | error m => simp [usable, bind, Except.bind]
  | ok j =>
    show writtenText .compact j.sortKeys = .ok t ↔ _
    rw [writtenText, Json.holdsLongInteger_sortKeys, Json.toText_compact_sortKeys]
    cases hlong : j.holdsLongInteger <;> simp [usable, hlong]

theorem form_eq_of_canonicalText_eq {v w : Value} {t : String} (hv : v.canonicalText = .ok t)
    (hw : w.canonicalText = .ok t) : v.form = w.form := by
  obtain ⟨o, ho, rfl⟩ := canonicalText_eq_ok_iff.1 hv
  obtain ⟨p, hp, htext⟩ := canonicalText_eq_ok_iff.1 hw
  rw [ho, hp, Outline.write_inj (String.ofList_inj.1 htext)]

end Value
end Promptbook
