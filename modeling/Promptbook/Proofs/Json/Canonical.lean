import Promptbook.Proofs.Entries
import Promptbook.Proofs.Json.Trees
import Promptbook.Proofs.Json.UniqueReading
import Promptbook.Telemetry.Observe

/-!
# Canonical texts

Putting keys in order makes two trees equal exactly if they are equal up to the order of entries
(`sortKeys_eq_iff_alike`), and a compact text belongs to one tree.  So two values made of plain data share their
canonical text exactly if they hold the same (`canonicalText_eq_iff_alike`), and the text that is hashed of a call's
inputs stands for these inputs alone.
-/

namespace Promptbook

/-- Is the value made of nothing, Booleans, integers that are not too long, texts, lists and tables with distinct
keys? -/
inductive Value.IsData : Value → Prop
  | null : IsData .null
  | bool (b : Bool) : IsData (.bool b)
  | int {n : Int} (hshort : n.natAbs < Number.longInteger) : IsData (.int n)
  | text (s : String) : IsData (.text s)
  | list {items : List Value} (hitems : ∀ v ∈ items, IsData v) : IsData (.list items)
  | table {entries : Entries Value} (hkeys : entries.keys.Nodup) (hentries : ∀ e ∈ entries, IsData e.2) :
    IsData (.table entries)

/-- Are two values equal up to the order of the entries of their tables? -/
inductive Value.Alike : Value → Value → Prop
  | null : Alike .null .null
  | bool (b : Bool) : Alike (.bool b) (.bool b)
  | int (n : Int) : Alike (.int n) (.int n)
  | text (s : String) : Alike (.text s) (.text s)
  | list {items others : List Value} (hlength : items.length = others.length)
    (hitems : ∀ p ∈ items.zip others, Alike p.1 p.2) : Alike (.list items) (.list others)
  | table {entries others : Entries Value} (hkeys : entries.keys.Perm others.keys)
    (hentries : ∀ e ∈ entries, ∀ f ∈ others, e.1 = f.1 → Alike e.2 f.2) : Alike (.table entries) (.table others)

namespace Value

theorem alike_list_iff {items others : List Value} :
    (Value.list items).Alike (.list others) ↔ List.Forall₂ Alike items others := by
  rw [List.forall₂_iff_zip]
  constructor
  · intro h
    cases h with
    | list hlength hitems => exact ⟨hlength, fun hp => hitems _ hp⟩
  · rintro ⟨hlength, hitems⟩
    exact .list hlength fun p hp => hitems hp

theorem alike_table_iff {entries others : Entries Value} :
    (Value.table entries).Alike (.table others) ↔
      entries.keys.Perm others.keys ∧ ∀ e ∈ entries, ∀ f ∈ others, e.1 = f.1 → e.2.Alike f.2 := by
  constructor
  · intro h
    cases h with
    | table hkeys hentries => exact ⟨hkeys, hentries⟩
  · rintro ⟨hkeys, hentries⟩
    exact .table hkeys hentries

/-- Plain data is a plain tree as a value. -/
theorem IsData.exists_tree {v : Value} (h : v.IsData) : ∃ j : Json, j.IsPlain ∧ j.toValue = v := by
  induction h with
  | null => exact ⟨.null, .null, rfl⟩
  | bool b => exact ⟨.bool b, .bool b, rfl⟩
  | @int n hshort => exact ⟨.int n, .int hshort, rfl⟩
  | text s => exact ⟨.text s, .text s, rfl⟩
  | @list items hitems ih =>
    choose! tree hplain hvalue using ih
    have hvalues : (items.map tree).map Json.toValue = items := by
      rw [List.map_map]
      exact (List.map_congr_left hvalue).trans (List.map_id _)
    refine ⟨.list (items.map tree), .list (by simpa using hplain), ?_⟩
    rw [Json.toValue, itemsToValues_eq_map, hvalues]
  | @table entries hkeys hentries ih =>
    choose! tree hplain hvalue using ih
    have hentry : ∀ e ∈ entries, (e.1, (tree e).toValue) = e := fun e he => Prod.ext rfl (hvalue e he)
    have hvalues : (entries.map fun e => (e.1, tree e)).map (fun e => (e.1, e.2.toValue)) = entries := by
      rw [List.map_map]
      exact (List.map_congr_left hentry).trans (List.map_id _)
    refine ⟨.table (entries.map fun e => (e.1, tree e)), .table ?_ ?_, ?_⟩
    · rwa [Entries.keys_map]
    · intro e he
      obtain ⟨e', he', rfl⟩ := List.mem_map.1 he
      exact hplain e' he'
    · rw [Json.toValue, entriesToValues_eq_map, hvalues]

end Value

/-! ### Trees with their keys in order -/

namespace Json

theorem IsPlain.holdsLongInteger {j : Json} (h : j.IsPlain) : j.holdsLongInteger = false := by
  induction h with
  | null | bool _ | text _ => rfl
  | int hshort =>
    exact Number.isLong_eq_false_iff.2 hshort
  | list hitems ih =>
    rw [Json.holdsLongInteger, itemsHoldLongInteger_eq_any, List.any_eq_false]
    exact fun j hj => by simp [ih j hj]
  | table hkeys hentries ih =>
    rw [Json.holdsLongInteger, entriesHoldLongInteger_eq_any, List.any_eq_false]
    exact fun e he => by simp [ih e he]

theorem IsPlain.sortKeys {j : Json} (h : j.IsPlain) : j.sortKeys.IsPlain := by
  induction h with
  | null => exact .null
  | bool b => exact .bool b
  | int hshort => exact .int hshort
  | text s => exact .text s
  | list hitems ih =>
    rw [Json.sortKeys, sortKeysItems_eq_map]
    exact .list (by simpa using ih)
  | @table entries hkeys hentries ih =>
    rw [Json.sortKeys, sortKeysEntries_eq_map]
    have hperm := Entries.sorted_perm (entries.map fun e => (e.1, e.2.sortKeys))
    refine .table ?_ fun e he => ?_
    · have hnodup : (Entries.keys (entries.map fun e => (e.1, e.2.sortKeys))).Nodup := by rwa [Entries.keys_map]
      exact (hperm.map Prod.fst).nodup_iff.2 hnodup
    · obtain ⟨e', he', rfl⟩ := List.mem_map.1 (hperm.mem_iff.1 he)
      exact ih e' he'

private theorem forall₂_iff {α β : Type} {R S : α → β → Prop} {xs : List α} {ys : List β}
    (h : ∀ x ∈ xs, ∀ y ∈ ys, (R x y ↔ S x y)) : List.Forall₂ R xs ys ↔ List.Forall₂ S xs ys := by
  rw [List.forall₂_iff_zip, List.forall₂_iff_zip]
  refine and_congr_right fun _ => ⟨fun hR x y hxy => ?_, fun hS x y hxy => ?_⟩
  · obtain ⟨hx, hy⟩ := List.of_mem_zip hxy
    exact (h x hx y hy).1 (hR hxy)
  · obtain ⟨hx, hy⟩ := List.of_mem_zip hxy
    exact (h x hx y hy).2 (hS hxy)

/-- In order, plain trees are equal if they are equal up to the order of entries. -/
theorem sortKeys_eq_iff_alike {j k : Json} (hj : j.IsPlain) (hk : k.IsPlain) :
    j.sortKeys = k.sortKeys ↔ j.toValue.Alike k.toValue := by
  induction hj generalizing k with
  | null =>
    cases hk with
    | null => exact iff_of_true rfl .null
    | _ => exact iff_of_false nofun nofun
  | bool b =>
    cases hk with
    | bool c => exact ⟨fun h => by cases h; exact .bool b, fun h => by cases h; rfl⟩
    | _ => exact iff_of_false nofun nofun
  | int hshort =>
    cases hk with
    | int hshort' => exact ⟨fun h => by cases h; exact .int _, fun h => by cases h; rfl⟩
    | _ => exact iff_of_false nofun nofun
  | text s =>
    cases hk with
    | text t => exact ⟨fun h => by cases h; exact .text s, fun h => by cases h; rfl⟩
    | _ => exact iff_of_false nofun nofun
  | @list items hitems ih =>
    cases hk with
    | @list others hothers =>
      rw [Json.sortKeys, Json.sortKeys, list.injEq, sortKeysItems_eq_map, sortKeysItems_eq_map,
        ← List.forall₂_eq_eq_eq, List.forall₂_map_left_iff, List.forall₂_map_right_iff, Json.toValue, Json.toValue,
        Value.alike_list_iff, itemsToValues_eq_map, itemsToValues_eq_map, List.forall₂_map_left_iff,
        List.forall₂_map_right_iff]
      exact forall₂_iff fun x hx y hy => ih x hx (hothers y hy)
    | _ => exact iff_of_false nofun nofun
  | @table entries hkeys hentries ih =>
    cases hk with
    | @table others hkeys' hothers =>
      have hnodup : (Entries.keys (entries.map fun e => (e.1, e.2.sortKeys))).Nodup := by rwa [Entries.keys_map]
      have hnodup' : (Entries.keys (others.map fun e => (e.1, e.2.sortKeys))).Nodup := by rwa [Entries.keys_map]
      rw [Json.sortKeys, Json.sortKeys, table.injEq, sortKeysEntries_eq_map, sortKeysEntries_eq_map,
        Entries.sorted_eq_iff hnodup, Entries.perm_iff hnodup hnodup', Entries.keys_map, Entries.keys_map,
        Json.toValue, Json.toValue, Value.alike_table_iff, entriesToValues_eq_map, entriesToValues_eq_map,
        Entries.keys_map, Entries.keys_map]
      refine and_congr_right fun _ => ?_
      simp only [List.forall_mem_map]
      exact forall₂_congr fun e he => forall₂_congr fun f hf => imp_congr_right fun _ => ih e he (hothers f hf)
    | _ => exact iff_of_false nofun nofun

end Json

/-! ### Canonical texts -/

namespace Value

theorem IsData.alike_self {v : Value} (h : v.IsData) : v.Alike v := by
  obtain ⟨j, hj, rfl⟩ := h.exists_tree
  exact (Json.sortKeys_eq_iff_alike hj hj).1 rfl

/-- Plain data has a canonical text, and two pieces of it share their text exactly if they are equal up to the order
of entries.  For a table it is the text that is hashed as that of a call's inputs. -/
theorem canonicalText_eq_iff_alike {a b : Value} (ha : a.IsData) (hb : b.IsData) :
    ∃ s t, a.canonicalText = .ok s ∧ b.canonicalText = .ok t ∧ (s = t ↔ a.Alike b) ∧
      ∀ inputs, a = .table inputs → hashInputs inputs = .ok (Hash.sha256 s) := by
  obtain ⟨j, hj, rfl⟩ := ha.exists_tree
  obtain ⟨k, hk, rfl⟩ := hb.exists_tree
  have htext := canonicalText_toValue hj.holdsLongInteger
  refine ⟨_, _, htext, canonicalText_toValue hk.holdsLongInteger, ?_, ?_⟩
  · rw [← Json.sortKeys_eq_iff_alike hj hk]
    exact ⟨fun h => Json.toText_compact_inj hj.sortKeys hk.sortKeys h, fun h => by rw [h]⟩
  · intro inputs hinputs
    rw [hashInputs, ← hinputs, htext]
    rfl

/-- Two entries, not in the order of their keys, one of them with a list. -/
def sampleEntries (flag : Value) : Entries Value :=
  [("b", flag), ("a", .list [.null, .text "\"\n😀"])]

/-- The same entries in another order have one text; one and true do not. -/
theorem canonicalText_eq_iff_alike_sample :
    let ones := sampleEntries (.int 1)
    let trues := sampleEntries (.bool true)
    (∀ entries ∈ [ones, ones.reverse, trues], (Value.table entries).IsData) ∧
      (Value.table ones).canonicalText = (Value.table ones.reverse).canonicalText ∧
      (Value.table ones).canonicalText ≠ (Value.table trues).canonicalText := by
  intro ones trues
  have hone : (Value.int 1).IsData := .int (Number.lt_longInteger_of_lt_hundred (by decide))
  have hdata : ∀ flag : Value, flag.IsData → ∀ e ∈ sampleEntries flag, e.2.IsData := by
    intro flag hflag e he
    simp only [sampleEntries, List.mem_cons, List.not_mem_nil, or_false] at he
    rcases he with rfl | rfl
    · exact hflag
    · refine .list fun v hv => ?_
      simp only [List.mem_cons, List.not_mem_nil, or_false] at hv
      rcases hv with rfl | rfl
      · exact .null
      · exact .text _
  have hkeys : ∀ flag : Value, (sampleEntries flag).keys.Nodup := by
    intro flag
    show ["b", "a"].Nodup
    decide +kernel
  have hones : (Value.table ones).IsData := .table (hkeys _) (hdata _ hone)
  have htrues : (Value.table trues).IsData := .table (hkeys _) (hdata _ (.bool true))
  have hturned : ones.reverse.Perm ones := List.reverse_perm ones
  have hreversed : (Value.table ones.reverse).IsData :=
    .table ((hturned.map Prod.fst).nodup_iff.2 (hkeys _)) fun e he => hdata _ hone e (hturned.mem_iff.1 he)
  refine ⟨?_, ?_, ?_⟩
  · simpa using ⟨hones, hreversed, htrues⟩
  · obtain ⟨s, t, hs, ht, hiff, -⟩ := canonicalText_eq_iff_alike hones hreversed
    have halike : (Value.table ones).Alike (.table ones.reverse) := by
      refine .table (hturned.symm.map _) fun e he f hf hkey => ?_
      obtain rfl := Entries.eq_of_key_eq (hkeys _) he (hturned.mem_iff.1 hf) hkey
      exact (hdata _ hone e he).alike_self
    rw [hs, ht, hiff.2 halike]
  · obtain ⟨s, t, hs, ht, hiff, -⟩ := canonicalText_eq_iff_alike hones htrues
    have hunlike : ¬(Value.table ones).Alike (.table trues) := by
      intro h
      have hflags := (alike_table_iff.1 h).2 ("b", .int 1) List.mem_cons_self ("b", .bool true) List.mem_cons_self rfl
      cases hflags
    rw [hs, ht]
    exact fun h => hunlike (hiff.1 (Except.ok.inj h))

end Value

end Promptbook
