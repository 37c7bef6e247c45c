import Promptbook.Proofs.Json.Arrangements
import Promptbook.Proofs.Json.Forms
import Promptbook.Telemetry.Observe

/-!
# The order of sets

A set on its own, in a list or in a table is written in the order of its items' texts, and which order it holds them
in does not show.  A set inside another set or in a record keeps its order (`keptSets`), and that shows as soon as two
of its items are written differently: `canonicalText_rearranged_iff`.  The proof goes up from the parts of a value to
the whole (`isSettled_whole_iff`): a whole keeps its form in all arrangements exactly if each part does, as the whole
tells which part stands in a place (`TellsParts`).
-/

namespace Promptbook

open Json (Outline)

namespace Value

/-! ### Sets that keep their order -/

/-- A set that is written in the order in which it holds its items, and whether it stands in a field that takes any
value. -/
structure KeptSet where
  free : Bool
  items : List Value

mutual

/-- The sets that keep their order in a value inside a set or a record. -/
def plainKeptSets (free : Bool) : Value → List KeptSet
  | list items => plainKeptSetsOfItems free items
  | tuple items => plainKeptSetsOfItems free items
  | set items => ⟨free, items⟩ :: plainKeptSetsOfItems free items
  | table entries => plainKeptSetsOfEntries free entries
  | record _ fields => plainKeptSetsOfFields fields
  | _ => []

/-- The sets that keep their order in items. -/
def plainKeptSetsOfItems (free : Bool) : List Value → List KeptSet
  | [] => []
  | v :: vs => plainKeptSets free v ++ plainKeptSetsOfItems free vs

/-- The sets that keep their order in a table's entries. -/
def plainKeptSetsOfEntries (free : Bool) : List (String × Value) → List KeptSet
  | [] => []
  | (_, v) :: es => plainKeptSets free v ++ plainKeptSetsOfEntries free es

/-- The sets that keep their order in a record's fields. -/
def plainKeptSetsOfFields : List (FieldName × Value) → List KeptSet
  | [] => []
  | (f, v) :: fs => plainKeptSets f.isFree v ++ plainKeptSetsOfFields fs

end

mutual

/-- The sets that keep their order in a value. -/
def keptSets : Value → List KeptSet
  | list items => keptSetsOfItems items
  | tuple items => keptSetsOfItems items
  | table entries => keptSetsOfEntries entries
  | set items => plainKeptSetsOfItems false items
  | v => v.plainKeptSets false

/-- The sets that keep their order in items. -/
def keptSetsOfItems : List Value → List KeptSet
  | [] => []
  | v :: vs => keptSets v ++ keptSetsOfItems vs

/-- The sets that keep their order in a table's entries. -/
def keptSetsOfEntries : List (String × Value) → List KeptSet
  | [] => []
  | (_, v) :: es => keptSets v ++ keptSetsOfEntries es

end

@[simp] theorem plainKeptSetsOfItems_eq_flatMap (free : Bool) (items : List Value) :
    plainKeptSetsOfItems free items = items.flatMap (plainKeptSets free) := by
  induction items with
  | nil => rfl
  | cons v vs ih => rw [plainKeptSetsOfItems, ih, List.flatMap_cons]

@[simp] theorem plainKeptSetsOfEntries_eq_flatMap (free : Bool) (entries : List (String × Value)) :
    plainKeptSetsOfEntries free entries = entries.flatMap fun e => plainKeptSets free e.2 := by
  induction entries with
  | nil => rfl
  | cons e es ih => rw [plainKeptSetsOfEntries, ih, List.flatMap_cons]

@[simp] theorem plainKeptSetsOfFields_eq_flatMap (fields : List (FieldName × Value)) :
    plainKeptSetsOfFields fields = fields.flatMap fun f => plainKeptSets f.1.isFree f.2 := by
  induction fields with
  | nil => rfl
  | cons f fs ih => rw [plainKeptSetsOfFields, ih, List.flatMap_cons]

@[simp] theorem keptSetsOfItems_eq_flatMap (items : List Value) : keptSetsOfItems items = items.flatMap keptSets := by
  induction items with
  | nil => rfl
  | cons v vs ih => rw [keptSetsOfItems, ih, List.flatMap_cons]

@[simp] theorem keptSetsOfEntries_eq_flatMap (entries : List (String × Value)) :
    keptSetsOfEntries entries = entries.flatMap fun e => keptSets e.2 := by
  induction entries with
  | nil => rfl
  | cons e es ih => rw [keptSetsOfEntries, ih, List.flatMap_cons]

/-- Do all items of the set have the same text? -/
def KeptSet.IsUniform (s : KeptSet) : Prop :=
  ∀ v ∈ s.items, ∀ w ∈ s.items,
    (v.plainJson .wire s.free).map orderText = (w.plainJson .wire s.free).map orderText

/-- Items that can be written have the same text exactly if they have the same form. -/
theorem isUniform_iff {free : Bool} {items : List Value} (h : ∀ v ∈ items, (plainForm free v).isSome) :
    (KeptSet.mk free items).IsUniform ↔ ∀ v ∈ items, ∀ w ∈ items, plainForm free v = plainForm free w := by
  refine forall₂_congr fun v hv => forall₂_congr fun w hw => ?_
  obtain ⟨o, ho⟩ := Option.isSome_iff_exists.1 (h v hv)
  obtain ⟨p, hp⟩ := Option.isSome_iff_exists.1 (h w hw)
  obtain ⟨j, hj, -, rfl⟩ := usable_eq_some_iff.1 ho
  obtain ⟨k, hk, -, rfl⟩ := usable_eq_some_iff.1 hp
  rw [ho, hp, hj, hk, Option.some.injEq, ← orderText_eq_iff]
  exact ⟨Except.ok.inj, congrArg Except.ok⟩

/-! ### Wholes and parts -/

/-- Does a value have the same form in whatever order its sets are? -/
def IsSettled (f : Value → Option Outline) (v : Value) : Prop :=
  ∀ w, v.Rearranged w → f w = f v

/-- Does the whole tell, of two parts in the same place among the same other parts, which of them it was built
from? -/
def TellsParts {β γ : Type} (build : List β → γ) : Prop :=
  ∀ (before after : List β) (b c : β), build (before ++ b :: after) = build (before ++ c :: after) → b = c

section Wholes

variable {α β : Type} {R : α → α → Prop} {part : α → Option β} {build : List β → Outline} {f : Value → Option Outline}
  {whole : List α → Value} {xs : List α}

theorem isSome_of_rearranged_parts (hgathers : Gathers part build fun xs => f (whole xs)) {ys : List α}
    (hys : List.Forall₂ R xs ys) (hparts : ∀ x ∈ xs, ∀ y, R x y → ((part y).isSome ↔ (part x).isSome)) :
    (f (whole ys)).isSome ↔ (f (whole xs)).isSome := by
  rw [hgathers.isSome_iff, hgathers.isSome_iff]
  induction hys with
  | nil => exact Iff.rfl
  | cons hxy _ ih =>
    rw [List.forall_mem_cons] at hparts
    rw [List.forall_mem_cons, List.forall_mem_cons, hparts.1 _ hxy, ih hparts.2]

theorem map_part_eq {ys : List α} (hys : List.Forall₂ R xs ys) (hparts : ∀ x ∈ xs, ∀ y, R x y → part y = part x) :
    ys.map part = xs.map part := by
  induction hys with
  | nil => rfl
  | cons hxy _ ih =>
    rw [List.forall_mem_cons] at hparts
    rw [List.map_cons, List.map_cons, hparts.1 _ hxy, ih hparts.2]

private theorem exists_parts_of_map_eq {before after : List α} {x : α} {bs : List β}
    (h : (before ++ x :: after).map part = bs.map some) :
    ∃ bs₁ b bs₂, bs = bs₁ ++ b :: bs₂ ∧ bs₁.map some = before.map part ∧ some b = part x ∧
      bs₂.map some = after.map part := by
  rw [List.map_append, List.map_cons, eq_comm, List.map_eq_append_iff] at h
  obtain ⟨bs₁, rest, rfl, hbefore, hrest⟩ := h
  obtain ⟨b, bs₂, rfl, hb, hafter⟩ := List.map_eq_cons_iff.1 hrest
  exact ⟨bs₁, b, bs₂, rfl, hbefore, hb, hafter⟩

/-- A whole that can be written keeps its form when its parts are rearranged exactly if each part keeps its own. -/
theorem whole_eq_iff (hgathers : Gathers part build fun xs => f (whole xs)) (htells : TellsParts build)
    (hrefl : ∀ x, R x x) (hsome : (f (whole xs)).isSome) :
    (∀ ys, List.Forall₂ R xs ys → f (whole ys) = f (whole xs)) ↔ ∀ x ∈ xs, ∀ y, R x y → part y = part x := by
  constructor
  · intro h x hx y hxy
    -- the same whole with this part alone exchanged
    obtain ⟨before, after, rfl⟩ := List.append_of_mem hx
    have hsame : ∀ zs, List.Forall₂ R zs zs := fun zs => List.forall₂_same.2 fun z _ => hrefl z
    have hexchanged := h (before ++ y :: after) (List.rel_append (hsame before) (.cons hxy (hsame after)))
    obtain ⟨o, ho⟩ := Option.isSome_iff_exists.1 hsome
    obtain ⟨bs, hbs, hbuild⟩ := (hgathers _ o).1 ho
    obtain ⟨cs, hcs, hbuild'⟩ := (hgathers _ o).1 (hexchanged.trans ho)
    obtain ⟨bs₁, b, bs₂, rfl, hbefore, hb, hafter⟩ := exists_parts_of_map_eq hbs
    obtain ⟨cs₁, c, cs₂, rfl, hbefore', hc, hafter'⟩ := exists_parts_of_map_eq hcs
    obtain rfl := List.map_injective_iff.2 (Option.some_injective β) (hbefore.trans hbefore'.symm)
    obtain rfl := List.map_injective_iff.2 (Option.some_injective β) (hafter.trans hafter'.symm)
    rw [← hb, ← hc, htells _ _ _ _ (hbuild.trans hbuild'.symm)]
  · intro h ys hys
    exact hgathers.congr (map_part_eq hys h)

/-- A whole that can be written is settled exactly if the sets that keep their order in its parts are uniform, if that
is so of each part. -/
theorem isSettled_whole_iff (hwhole : ∀ w, (whole xs).Rearranged w ↔ ∃ ys, w = whole ys ∧ List.Forall₂ R xs ys)
    (hgathers : Gathers part build fun xs => f (whole xs)) (htells : TellsParts build) (hrefl : ∀ x, R x x)
    (hsome : (f (whole xs)).isSome) {sets : α → List KeptSet}
    (hparts : ∀ x ∈ xs, (part x).isSome → ((∀ y, R x y → part y = part x) ↔ ∀ s ∈ sets x, s.IsUniform)) :
    IsSettled f (whole xs) ↔ ∀ s ∈ xs.flatMap sets, s.IsUniform := by
  have hall : IsSettled f (whole xs) ↔ ∀ ys, List.Forall₂ R xs ys → f (whole ys) = f (whole xs) := by
    constructor
    · intro h ys hys
      exact h _ ((hwhole _).2 ⟨ys, rfl, hys⟩)
    · intro h w hw
      obtain ⟨ys, rfl, hys⟩ := (hwhole w).1 hw
      exact h ys hys
  rw [hall, whole_eq_iff hgathers htells hrefl hsome, List.forall_mem_flatMap]
  exact forall₂_congr fun x hx => hparts x hx (hgathers.isSome_iff.1 hsome x hx)

end Wholes

/-! ### What wholes tell of their parts -/

theorem tellsParts_list : TellsParts Outline.list := by
  intro before after b c h
  exact (List.cons.inj (List.append_cancel_left (Outline.list.inj h))).1

private theorem eq_of_perm_at {β : Type} {before after : List β} {b c : β}
    (h : (before ++ b :: after).Perm (before ++ c :: after)) : b = c := by
  have hrest : (b ::ₘ (after : Multiset β)) = c ::ₘ after := Multiset.coe_eq_coe.2 ((List.perm_append_left_iff _).1 h)
  exact (Multiset.cons_inj_left _).1 hrest

theorem tellsParts_sorted : TellsParts fun os => Outline.list (inTextOrder os) := by
  intro before after b c h
  have hsorted : inTextOrder (before ++ b :: after) = inTextOrder (before ++ c :: after) := Outline.list.inj h
  have hperm : (before ++ b :: after).Perm (before ++ c :: after) :=
    (inTextOrder_perm _).symm.trans (hsorted ▸ inTextOrder_perm _)
  exact eq_of_perm_at hperm

theorem tellsParts_tableForm : TellsParts tableForm :=
  fun _ _ _ _ h => eq_of_perm_at (perm_of_tableForm_eq h)

theorem tellsParts_fields : TellsParts fun es : List (Option (String × Outline)) => tableForm es.reduceOption := by
  intro before after b c h
  have hperm := perm_of_tableForm_eq h
  rw [List.reduceOption_append, List.reduceOption_append, List.perm_append_left_iff] at hperm
  have hlength := hperm.length_eq
  cases b <;> cases c <;>
    simp only [List.reduceOption_cons_of_none, List.reduceOption_cons_of_some, List.length_cons] at hperm hlength
  · rfl
  · omega
  · omega
  · rw [@eq_of_perm_at _ [] _ _ _ hperm]

/-! ### Values that keep their form -/

theorem forall_rearrangedUnder_iff {κ : Type} {e : κ × Value} {P : κ × Value → Prop} :
    (∀ e', RearrangedUnder e e' → P e') ↔ ∀ w, e.2.Rearranged w → P (e.1, w) := by
  constructor
  · intro h w hw
    exact h (e.1, w) ⟨rfl, hw⟩
  · rintro h ⟨key, w⟩ ⟨rfl, hw⟩
    exact h w hw

theorem entryForm_eq_iff {f : Value → Option Outline} {e : String × Value} :
    (∀ e', RearrangedUnder e e' → entryForm f e' = entryForm f e) ↔ IsSettled f e.2 := by
  rw [forall_rearrangedUnder_iff]
  refine forall₂_congr fun w _ => ?_
  have hinj : Function.Injective fun o : Outline => (e.1, o) := fun _ _ h => (Prod.ext_iff.1 h).2
  exact (Option.map_injective hinj).eq_iff

theorem fieldForm_eq_iff {e : FieldName × Value} :
    (∀ e', RearrangedUnder e e' → fieldForm e' = fieldForm e) ↔ IsSettled (plainForm e.1.isFree) e.2 := by
  rw [forall_rearrangedUnder_iff]
  refine forall₂_congr fun w hw => ?_
  rw [fieldForm, fieldForm, hw.isPresent_eq]
  cases hpresent : e.2.isPresent with
  | true =>
    have hinj : Function.Injective fun o : Outline => some (e.1.wire, o) :=
      fun _ _ h => (Prod.ext_iff.1 (Option.some.inj h)).2
    exact (Option.map_injective hinj).eq_iff
  | false =>
    -- a field that is left out holds nothing, in all arrangements
    rw [eq_null_of_isPresent hpresent] at hw ⊢
    rw [hw.eq_null]
    exact iff_of_true rfl rfl

theorem isSome_plainForm_iff {v w : Value} (h : v.Rearranged w) (free : Bool) :
    (plainForm free w).isSome ↔ (plainForm free v).isSome := by
  induction v using induction generalizing w free with
  | step v ih =>
    cases v with
    | list items =>
      obtain ⟨others, rfl, hothers⟩ := rearranged_list_iff.1 h
      exact isSome_of_rearranged_parts (gathers_plainForm_list free) hothers fun x hx y hxy => ih x hx hxy free
    | tuple items =>
      obtain ⟨others, rfl, hothers⟩ := rearranged_tuple_iff.1 h
      exact isSome_of_rearranged_parts (gathers_plainForm_tuple free) hothers fun x hx y hxy => ih x hx hxy free
    | set items =>
      obtain ⟨turned, others, hturned, rfl, hothers⟩ := rearranged_set_iff.1 h
      have hparts : ∀ x ∈ turned, ∀ y, x.Rearranged y → ((plainForm free y).isSome ↔ (plainForm free x).isSome) :=
        fun x hx y hxy => ih x (hturned.mem_iff.2 hx) hxy free
      rw [isSome_of_rearranged_parts (gathers_plainForm_set free) hothers hparts,
        (gathers_plainForm_set free).isSome_iff, (gathers_plainForm_set free).isSome_iff]
      exact forall_congr' fun x => by rw [hturned.mem_iff]
    | table entries =>
      obtain ⟨others, rfl, hothers⟩ := rearranged_table_iff.1 h
      refine isSome_of_rearranged_parts (gathers_plainForm_table free) hothers fun e he e' hee' => ?_
      rw [entryForm, entryForm, Option.isSome_map, Option.isSome_map]
      exact ih e.2 (List.mem_map_of_mem he) hee'.2 free
    | record model fields =>
      obtain ⟨others, rfl, hothers⟩ := rearranged_record_iff.1 h
      refine isSome_of_rearranged_parts (gathers_plainForm_record free model) hothers fun e he e' hee' => ?_
      rw [fieldForm, fieldForm, Option.isSome_map, Option.isSome_map, ← hee'.1]
      exact ih e.2 (List.mem_map_of_mem he) hee'.2 e.1.isFree
    | reply holder response => cases h <;> rfl
    | _ =>
      cases h
      rfl

/-- Inside a set or a record a set is settled exactly if its items are and all have the same form. -/
theorem isSettled_plainForm_set_iff {free : Bool} {items : List Value} (hsome : (plainForm free (set items)).isSome) :
    IsSettled (plainForm free) (set items) ↔
      (∀ v ∈ items, ∀ w ∈ items, plainForm free v = plainForm free w) ∧
        ∀ v ∈ items, IsSettled (plainForm free) v := by
  have hgathers := gathers_plainForm_set free
  constructor
  · intro h
    constructor
    · -- each item can be the first one
      have hfirst : ∀ v ∈ items, (items.map (plainForm free)).head? = some (plainForm free v) := by
        intro v hv
        obtain ⟨before, after, rfl⟩ := List.append_of_mem hv
        have hmoved := h _ (rearranged_set_iff.2 ⟨_, _, List.perm_middle, rfl, forall₂_rearranged_same _⟩)
        obtain ⟨o, ho⟩ := Option.isSome_iff_exists.1 hsome
        obtain ⟨os, hos, hlist⟩ := (hgathers _ o).1 ho
        obtain ⟨ps, hps, hlist'⟩ := (hgathers _ o).1 (hmoved.trans ho)
        rw [hos, Outline.list.inj (hlist.trans hlist'.symm), ← hps]
        rfl
      intro v hv w hw
      exact Option.some.inj ((hfirst v hv).symm.trans (hfirst w hw))
    · refine (whole_eq_iff hgathers tellsParts_list Rearranged.same hsome).1 fun others hothers => ?_
      exact h _ (rearranged_set_iff.2 ⟨items, others, .rfl, rfl, hothers⟩)
  · rintro ⟨huniform, hsettled⟩ w hw
    obtain ⟨turned, others, hturned, rfl, hothers⟩ := rearranged_set_iff.1 hw
    refine hgathers.congr ?_
    rw [map_part_eq hothers fun x hx => hsettled x (hturned.mem_iff.2 hx)]
    -- in a list of equal forms the order does not count
    refine (hturned.symm.map _).eq_of_pairwise (fun a b ha hb _ _ => ?_) (List.pairwise_of_forall fun _ _ => trivial)
      (List.pairwise_of_forall fun _ _ => trivial)
    obtain ⟨x, hx, rfl⟩ := List.mem_map.1 ha
    obtain ⟨y, hy, rfl⟩ := List.mem_map.1 hb
    exact huniform x (hturned.mem_iff.2 hx) y hy

theorem isSettled_plainForm_iff {free : Bool} {v : Value} (hsome : (plainForm free v).isSome) :
    IsSettled (plainForm free) v ↔ ∀ s ∈ v.plainKeptSets free, s.IsUniform := by
  induction v using induction generalizing free with
  | step v ih =>
    cases v with
    | list items =>
      rw [plainKeptSets, plainKeptSetsOfItems_eq_flatMap]
      exact isSettled_whole_iff (fun _ => rearranged_list_iff) (gathers_plainForm_list free) tellsParts_list
        Rearranged.same hsome fun x hx hx' => ih x hx hx'
    | tuple items =>
      rw [plainKeptSets, plainKeptSetsOfItems_eq_flatMap]
      exact isSettled_whole_iff (fun _ => rearranged_tuple_iff) (gathers_plainForm_tuple free) tellsParts_list
        Rearranged.same hsome fun x hx hx' => ih x hx hx'
    | set items =>
      have hparts := (gathers_plainForm_set free).isSome_iff.1 hsome
      rw [isSettled_plainForm_set_iff hsome, plainKeptSets, plainKeptSetsOfItems_eq_flatMap, List.forall_mem_cons,
        List.forall_mem_flatMap, isUniform_iff hparts]
      exact and_congr_right fun _ => forall₂_congr fun x hx => ih x hx (hparts x hx)
    | table entries =>
      rw [plainKeptSets, plainKeptSetsOfEntries_eq_flatMap]
      refine isSettled_whole_iff (fun _ => rearranged_table_iff) (gathers_plainForm_table free) tellsParts_tableForm
        rearrangedUnder_same hsome fun e he hsome => ?_
      rw [entryForm, Option.isSome_map] at hsome
      rw [entryForm_eq_iff, ih e.2 (List.mem_map_of_mem he) hsome]
    | record model fields =>
      rw [plainKeptSets, plainKeptSetsOfFields_eq_flatMap]
      refine isSettled_whole_iff (fun _ => rearranged_record_iff)
        (gathers_plainForm_record free model) tellsParts_fields
        rearrangedUnder_same hsome fun e he hsome => ?_
      rw [fieldForm, Option.isSome_map] at hsome
      rw [fieldForm_eq_iff, ih e.2 (List.mem_map_of_mem he) hsome]
    | reply holder response =>
      refine iff_of_true (fun w hw => ?_) fun _ hs => absurd hs List.not_mem_nil
      cases hw <;> rfl
    | _ =>
      refine iff_of_true (fun w hw => ?_) fun _ hs => absurd hs List.not_mem_nil
      cases hw
      rfl

theorem isSome_form_iff {v w : Value} (h : v.Rearranged w) : w.form.isSome ↔ v.form.isSome := by
  induction v using induction generalizing w with
  | step v ih =>
    cases v with
    | list items =>
      obtain ⟨others, rfl, hothers⟩ := rearranged_list_iff.1 h
      exact isSome_of_rearranged_parts gathers_form_list hothers fun x hx y hxy => ih x hx hxy
    | tuple items =>
      obtain ⟨others, rfl, hothers⟩ := rearranged_tuple_iff.1 h
      exact isSome_of_rearranged_parts gathers_form_tuple hothers fun x hx y hxy => ih x hx hxy
    | table entries =>
      obtain ⟨others, rfl, hothers⟩ := rearranged_table_iff.1 h
      refine isSome_of_rearranged_parts gathers_form_table hothers fun e he e' hee' => ?_
      rw [entryForm, entryForm, Option.isSome_map, Option.isSome_map]
      exact ih e.2 (List.mem_map_of_mem he) hee'.2
    | set items =>
      -- a set can be written in order if it can be written as it is
      have hplain : ∀ items, (set items).form.isSome ↔ (plainForm false (set items)).isSome := fun items => by
        rw [gathers_form_set.isSome_iff, (gathers_plainForm_set false).isSome_iff]
      obtain ⟨turned, others, -, rfl, -⟩ := rearranged_set_iff.1 h
      rw [hplain, hplain]
      exact isSome_plainForm_iff h false
    | record model fields =>
      obtain ⟨others, rfl, -⟩ := rearranged_record_iff.1 h
      exact isSome_plainForm_iff h false
    | reply holder response => cases h <;> rfl
    | _ =>
      cases h
      rfl

/-- A set on its own is settled exactly if its items are. -/
theorem isSettled_form_set_iff {items : List Value} (hsome : (set items).form.isSome) :
    IsSettled form (set items) ↔ ∀ v ∈ items, IsSettled (plainForm false) v := by
  constructor
  · intro h
    refine (whole_eq_iff gathers_form_set tellsParts_sorted Rearranged.same hsome).1 fun others hothers => ?_
    exact h _ (rearranged_set_iff.2 ⟨items, others, .rfl, rfl, hothers⟩)
  · intro hsettled w hw
    obtain ⟨turned, others, hturned, rfl, hothers⟩ := rearranged_set_iff.1 hw
    refine gathers_form_set.eq_of_perm (fun _ _ hperm => by rw [inTextOrder_eq_of_perm hperm]) ?_
    rw [map_part_eq hothers fun x hx => hsettled x (hturned.mem_iff.2 hx)]
    exact hturned.symm.map _

theorem isSettled_form_iff {v : Value} (hsome : v.form.isSome) :
    IsSettled form v ↔ ∀ s ∈ v.keptSets, s.IsUniform := by
  induction v using induction with
  | step v ih =>
    cases v with
    | list items =>
      rw [keptSets, keptSetsOfItems_eq_flatMap]
      exact isSettled_whole_iff (fun _ => rearranged_list_iff) gathers_form_list tellsParts_list Rearranged.same hsome
        fun x hx hx' => ih x hx hx'
    | tuple items =>
      rw [keptSets, keptSetsOfItems_eq_flatMap]
      exact isSettled_whole_iff (fun _ => rearranged_tuple_iff) gathers_form_tuple tellsParts_list
        Rearranged.same hsome
        fun x hx hx' => ih x hx hx'
    | table entries =>
      rw [keptSets, keptSetsOfEntries_eq_flatMap]
      refine isSettled_whole_iff (fun _ => rearranged_table_iff) gathers_form_table tellsParts_tableForm
        rearrangedUnder_same hsome fun e he hsome => ?_
      rw [entryForm, Option.isSome_map] at hsome
      rw [entryForm_eq_iff, ih e.2 (List.mem_map_of_mem he) hsome]
    | set items =>
      have hparts := gathers_form_set.isSome_iff.1 hsome
      rw [isSettled_form_set_iff hsome, keptSets, plainKeptSetsOfItems_eq_flatMap, List.forall_mem_flatMap]
      exact forall₂_congr fun x hx => isSettled_plainForm_iff (hparts x hx)
    | record model fields =>
      have hplain : IsSettled form (record model fields) ↔ IsSettled (plainForm false) (record model fields) := by
        refine forall₂_congr fun w hw => ?_
        obtain ⟨others, rfl, -⟩ := rearranged_record_iff.1 hw
        exact Iff.rfl
      exact hplain.trans (isSettled_plainForm_iff hsome)
    | reply holder response =>
      refine iff_of_true (fun w hw => ?_) fun _ hs => absurd hs List.not_mem_nil
      cases hw <;> rfl
    | _ =>
      refine iff_of_true (fun w hw => ?_) fun _ hs => absurd hs List.not_mem_nil
      cases hw
      rfl

/-! ### Canonical texts -/

theorem exists_canonicalText_iff {v : Value} : (∃ t, v.canonicalText = .ok t) ↔ v.form.isSome := by
  rw [Option.isSome_iff_exists]
  constructor
  · rintro ⟨t, ht⟩
    obtain ⟨o, ho, -⟩ := canonicalText_eq_ok_iff.1 ht
    exact ⟨o, ho⟩
  · rintro ⟨o, ho⟩
    exact ⟨_, canonicalText_eq_ok_iff.2 ⟨o, ho, rfl⟩⟩

theorem isSettled_iff_canonicalText {v : Value} {t : String} (ht : v.canonicalText = .ok t) :
    IsSettled form v ↔ ∀ w, v.Rearranged w → w.canonicalText = .ok t := by
  obtain ⟨o, ho, htext⟩ := canonicalText_eq_ok_iff.1 ht
  constructor
  · intro h w hw
    exact canonicalText_eq_ok_iff.2 ⟨o, (h w hw).trans ho, htext⟩
  · intro h w hw
    exact form_eq_of_canonicalText_eq (h w hw) ht

/-- In every arrangement of its sets a value has a canonical text, or in none.  The text is always the same exactly if
in each set that keeps its order all items have one text; the hash of a call's inputs is then the same, too. -/
theorem canonicalText_rearranged_iff (v : Value) :
    (∀ w, v.Rearranged w → ((∃ t, w.canonicalText = .ok t) ↔ ∃ t, v.canonicalText = .ok t)) ∧
      (∀ t, v.canonicalText = .ok t →
        ((∀ w, v.Rearranged w → w.canonicalText = .ok t) ↔ ∀ s ∈ v.keptSets, s.IsUniform)) ∧
      ∀ inputs others hash, v = .table inputs → v.Rearranged (.table others) → (∀ s ∈ v.keptSets, s.IsUniform) →
        hashInputs inputs = .ok hash → hashInputs others = .ok hash := by
  have htexts : ∀ t, v.canonicalText = .ok t →
      ((∀ w, v.Rearranged w → w.canonicalText = .ok t) ↔ ∀ s ∈ v.keptSets, s.IsUniform) := by
    intro t ht
    rw [← isSettled_iff_canonicalText ht, isSettled_form_iff (exists_canonicalText_iff.1 ⟨t, ht⟩)]
  refine ⟨fun w hw => ?_, htexts, ?_⟩
  · rw [exists_canonicalText_iff, exists_canonicalText_iff, isSome_form_iff hw]
  · rintro inputs others hash rfl hothers huniform hhash
    rw [hashInputs] at hhash ⊢
    cases htext : (table inputs).canonicalText with
    | error m =>
      rw [htext] at hhash
      cases hhash
    | ok t => rwa [(htexts t htext).2 huniform _ hothers, ← htext]

/-- A set in a list of a table is put in order, a set in a tuple of another set is not. -/
example : (table [("a", list [set [.int 2, .int 1]]), ("b", set [tuple [set [.int 2, .int 1]]])]).keptSets =
    [⟨false, [.int 2, .int 1]⟩] :=
  rfl

/-- The report of a failure, with details of any kind. -/
def report (details : Value) : Value :=
  .record "ErrorWireFormat" [(⟨"details", "details", true⟩, details), (⟨"message", "message", false⟩, .text "m"),
    (⟨"status", "status", false⟩, .text "INTERNAL")]

private theorem form_report {m n : Int} (hm : m.natAbs < Number.longInteger) (hn : n.natAbs < Number.longInteger) :
    (report (.set [.int m, .int n])).form = some (tableForm [("details", .list [.word (.ofInt m), .word (.ofInt n)]),
      ("message", .text "m"), ("status", .text "INTERNAL")]) := by
  have hint : ∀ k : Int, k.natAbs < Number.longInteger → plainForm true (.int k) = some (.word (.ofInt k)) := by
    intro k hk
    rw [plainForm, formOf, usable_eq_some_iff]
    refine ⟨.int k, rfl, ?_, rfl⟩
    exact Number.isLong_eq_false_iff.2 hk
  have hset : plainForm true (.set [.int m, .int n]) = some (.list [.word (.ofInt m), .word (.ofInt n)]) := by
    refine (gathers_plainForm_set true _ _).2 ⟨_, ?_, rfl⟩
    rw [List.map_cons, List.map_cons, hint m hm, hint n hn]
    rfl
  have hfields : (report (.set [.int m, .int n])).form = plainForm false (report (.set [.int m, .int n])) := rfl
  rw [hfields, report, gathers_plainForm_record]
  refine ⟨[some ("details", _), some ("message", _), some ("status", _)], ?_, rfl⟩
  rw [List.map_cons, fieldForm, hset]
  rfl

/-- A set among the details of a failure keeps its order, so one report has two canonical texts. -/
theorem texts_differ_of_turned_details :
    (report (.set [.int 8, .int 0])).Rearranged (report (.set [.int 0, .int 8])) ∧
      ∃ s t, (report (.set [.int 8, .int 0])).canonicalText = .ok s ∧
        (report (.set [.int 0, .int 8])).canonicalText = .ok t ∧ s ≠ t := by
  have height := Number.lt_longInteger_of_lt_hundred (n := (8 : Int).natAbs) (by decide)
  have hzero := Number.lt_longInteger_of_lt_hundred (n := (0 : Int).natAbs) (by decide)
  refine ⟨?_, _, _, canonicalText_eq_ok_iff.2 ⟨_, form_report height hzero, rfl⟩,
    canonicalText_eq_ok_iff.2 ⟨_, form_report hzero height, rfl⟩, fun htexts => ?_⟩
  · refine rearranged_record_iff.2 ⟨_, rfl, .cons ⟨rfl, ?_⟩ (.cons ⟨rfl, .same _⟩ (.cons ⟨rfl, .same _⟩ .nil))⟩
    exact rearranged_set_iff.2 ⟨_, _, .swap _ _ _, rfl, forall₂_rearranged_same _⟩
  · have hforms := perm_of_tableForm_eq (Outline.write_inj (String.ofList_inj.1 htexts))
    have hdetails := hforms.mem_iff.1 List.mem_cons_self
    have hwords : Json.Word.ofInt 8 = .ofInt 0 := by
      simp only [List.mem_cons, List.not_mem_nil, Prod.mk.injEq, Outline.list.injEq, List.cons.injEq,
        Outline.word.injEq, reduceCtorEq, and_false, or_false] at hdetails
      exact hdetails.2.1
    exact absurd (Json.Word.ofInt_inj hwords) (by decide)

end Value
end Promptbook
