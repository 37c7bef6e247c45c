import Mathlib
import Promptbook.Entries

/-!
# Tables that are put together

What a lookup finds in a table that other entries were put into (`get?_putAll`), in two tables one after the
other (`get?_append`) and in a table whose values were changed (`get?_map`).  Entries with new and distinct keys
are put at the end, in order (`putAll_of_nodup`); in general an entry with a present key keeps its place
(`putAll_eq_append`), and the order of the pairs counts only for the new keys (`ofPairs_perm`).  A table made of
pairs has each key once, in the order in which the keys first come (`keys_ofPairs`), and its values are what lookups
of these keys find (`map_get?_keys`).
-/

namespace Promptbook.Entries

variable {α β : Type}

/-- After several entries were put, the last one with the key counts. -/
theorem get?_putAll (t : Entries α) (pairs : List (String × α)) (key : String) :
    (t.putAll pairs).get? key = (((pairs.filter fun e => e.1 = key).getLast?).map (·.2)).or (t.get? key) := by
  induction pairs generalizing t with
  | nil => simp [putAll]
  | cons e pairs ih =>
    have hstep : t.putAll (e :: pairs) = (t.put e.1 e.2).putAll pairs := rfl
    rw [hstep, ih]
    by_cases h : e.1 = key
    · rw [← h, get?_put_self, List.filter_cons_of_pos (by simp), List.getLast?_cons]
      cases ((pairs.filter fun e' => e'.1 = e.1).getLast?) <;> simp
    · rw [get?_put_of_ne _ _ (Ne.symm h), List.filter_cons_of_neg (by simpa using h)]

theorem get?_append (t u : Entries α) (key : String) : get? (t ++ u) key = (t.get? key).or (u.get? key) := by
  induction t with
  | nil => rfl
  | cons e t ih =>
    rw [List.cons_append, get?, get?, ih]
    split <;> rfl

theorem get?_map (t : Entries α) (f : α → β) (key : String) :
    get? (t.map fun e => (e.1, f e.2)) key = (t.get? key).map f := by
  induction t with
  | nil => rfl
  | cons e t ih =>
    rw [List.map_cons, get?, get?, ih]
    split <;> rfl

theorem keys_map (t : Entries α) (f : String × α → β) : keys (t.map fun e => (e.1, f e)) = t.keys := by
  rw [keys, List.map_map]
  rfl

theorem mem_values_of_get? {t : Entries α} {key : String} {value : α} (h : t.get? key = some value) :
    value ∈ t.values := by
  induction t with
  | nil => cases h
  | cons e t ih =>
    rw [get?] at h
    split at h
    · rw [← Option.some.inj h]
      exact List.mem_cons_self
    · exact List.mem_cons_of_mem _ (ih h)

/-- In a table with distinct keys every entry is found under its key. -/
theorem get?_of_mem {t : Entries α} (h : t.keys.Nodup) {e : String × α} (he : e ∈ t) : t.get? e.1 = some e.2 := by
  induction t with
  | nil => cases he
  | cons e' t ih =>
    simp only [keys, List.map_cons, List.nodup_cons] at h
    rw [get?]
    rcases List.mem_cons.1 he with rfl | he
    · rw [if_pos rfl]
    · have hne : e'.1 ≠ e.1 := fun heq => h.1 (heq ▸ List.mem_map_of_mem he)
      rw [if_neg hne, ih h.2 he]

/-- What stands in a table after a value was set stood there before or is the new entry. -/
theorem mem_put {t : Entries α} {key : String} {value : α} {e : String × α} (he : e ∈ t.put key value) :
    e ∈ t ∨ e = (key, value) := by
  induction t with
  | nil => exact .inr (List.mem_singleton.1 he)
  | cons e' t ih =>
    rw [put] at he
    split at he
    · next hkey =>
      rcases List.mem_cons.1 he with rfl | he
      · exact .inr (by rw [hkey])
      · exact .inl (List.mem_cons_of_mem _ he)
    · rcases List.mem_cons.1 he with rfl | he
      · exact .inl List.mem_cons_self
      · exact (ih he).imp_left (List.mem_cons_of_mem _)

theorem put_of_notMem {t : Entries α} {key : String} (h : key ∉ t.keys) (value : α) :
    t.put key value = t ++ [(key, value)] := by
  induction t with
  | nil => rfl
  | cons e t ih =>
    simp only [keys, List.map_cons, List.mem_cons, not_or] at h
    rw [put, if_neg (Ne.symm h.1), ih h.2]
    rfl

/-- Entries with new and distinct keys come last. -/
theorem putAll_of_nodup {t u : Entries α} (h : (t.keys ++ u.keys).Nodup) : t.putAll u = t ++ u := by
  induction u generalizing t with
  | nil => exact (List.append_nil t).symm
  | cons e u ih =>
    have hkeys : t.keys ++ keys (e :: u) = keys (t ++ [e]) ++ keys u := by simp [keys]
    rw [hkeys] at h
    have hnew : e.1 ∉ t.keys := by
      have hfirst := (List.nodup_append.1 h).1
      rw [keys, List.map_append, List.nodup_append] at hfirst
      intro hmem
      exact hfirst.2.2 e.1 hmem e.1 (by simp) rfl
    have hstep : t.putAll (e :: u) = (t.put e.1 e.2).putAll u := rfl
    rw [hstep, put_of_notMem hnew, ih h, List.append_assoc]
    rfl

theorem putAll_nil_of_nodup {u : Entries α} (h : u.keys.Nodup) : putAll [] u = u :=
  putAll_of_nodup h

theorem ofPairs_append (pairs : List (String × α)) (key : String) (value : α) :
    ofPairs (pairs ++ [(key, value)]) = (ofPairs pairs).put key value := by
  simp [ofPairs, putAll, List.foldl_append]

theorem has_eq_true_iff (t : Entries α) (key : String) : t.has key = true ↔ key ∈ t.keys := by
  induction t with
  | nil => simp [has, get?, keys]
  | cons e t ih =>
    simp only [has, keys] at ih
    by_cases h : e.1 = key
    · simp [has, get?, keys, h]
    · simp [has, get?, keys, h, Ne.symm h, ih]

/-- Setting a key makes the table longer by one entry exactly if the key is new. -/
theorem length_put (t : Entries α) (key : String) (value : α) :
    (t.put key value).length = if t.has key then t.length else t.length + 1 := by
  have hlength : ∀ u : Entries α, u.length = u.keys.length := fun u => (List.length_map _).symm
  rw [hlength, keys_put, hlength]
  by_cases h : key ∈ t.keys
  · rw [if_pos h, if_pos ((has_eq_true_iff t key).2 h)]
  · rw [if_neg h, if_neg (mt (has_eq_true_iff t key).1 h), List.length_append, List.length_singleton]

theorem get?_eq_none_iff (t : Entries α) (key : String) : t.get? key = none ↔ key ∉ t.keys := by
  rw [← has_eq_true_iff, has]
  cases t.get? key <;> simp

theorem mem_keys_without {t : Entries α} {key other : String} :
    other ∈ (t.without key).keys ↔ other ∈ t.keys ∧ other ≠ key := by
  simp [keys, without]

theorem without_of_notMem {t : Entries α} {key : String} (h : key ∉ t.keys) : t.without key = t := by
  refine List.filter_eq_self.2 fun e he => ?_
  have hne : e.1 ≠ key := fun heq => h (heq ▸ List.mem_map_of_mem he)
  simpa using hne

/-- Dropping entries with other keys does not change what a lookup finds. -/
theorem get?_filter (t : Entries α) (keep : String → Bool) {key : String} (h : keep key = true) :
    get? (t.filter fun e => keep e.1) key = t.get? key := by
  induction t with
  | nil => rfl
  | cons e t ih =>
    by_cases hkeep : keep e.1 = true
    · rw [List.filter_cons, if_pos hkeep, get?, get?, ih]
    · have he : e.1 ≠ key := fun heq => hkeep (heq ▸ h)
      rw [List.filter_cons, if_neg hkeep, ih, get?, if_neg he]

theorem get?_without_of_ne (t : Entries α) {key other : String} (h : other ≠ key) :
    (t.without key).get? other = t.get? other :=
  get?_filter t (· != key) (by simpa using h)

theorem nodup_keys_filter {t : Entries α} (h : t.keys.Nodup) (p : String × α → Bool) : keys (t.filter p) |>.Nodup :=
  h.sublist (List.filter_sublist.map _)

/-! ### Keys in the order in which they first come -/

theorem eraseDups_concat {β : Type} [BEq β] [LawfulBEq β] [DecidableEq β] (l : List β) (b : β) :
    (l ++ [b]).eraseDups = if b ∈ l then l.eraseDups else l.eraseDups ++ [b] := by
  rw [List.eraseDups_append]
  by_cases h : b ∈ l
  · simp [List.removeAll, h]
  · simp [List.removeAll, h, List.eraseDups_cons]

/-- Values that differ where they come from different ones are distinct in the same places. -/
theorem length_eraseDups_map {β γ : Type} [BEq β] [LawfulBEq β] [DecidableEq β] [BEq γ] [LawfulBEq γ]
    [DecidableEq γ] {f : β → γ} (hf : Function.Injective f) (l : List β) :
    (l.map f).eraseDups.length = l.eraseDups.length := by
  induction l using List.reverseRecOn with
  | nil => rfl
  | append_singleton l b ih =>
    rw [List.map_append, List.map_singleton, eraseDups_concat, eraseDups_concat]
    by_cases h : b ∈ l
    · rw [if_pos h, if_pos (List.mem_map_of_mem h), ih]
    · rw [if_neg h, if_neg (by rwa [List.mem_map_of_injective hf]), List.length_append, List.length_append, ih]
      rfl

theorem nodup_eraseDups {β : Type} [BEq β] [LawfulBEq β] [DecidableEq β] (l : List β) : l.eraseDups.Nodup := by
  induction l using List.reverseRecOn with
  | nil => exact List.nodup_nil
  | append_singleton l b ih =>
    rw [eraseDups_concat]
    split
    · exact ih
    · next hnew =>
      rw [← List.concat_eq_append]
      exact ih.concat (by rwa [List.mem_eraseDups])

theorem eraseDups_perm {β : Type} [BEq β] [LawfulBEq β] [DecidableEq β] {l l' : List β} (h : l.Perm l') :
    l.eraseDups.Perm l'.eraseDups := by
  rw [List.perm_ext_iff_of_nodup (nodup_eraseDups l) (nodup_eraseDups l')]
  intro b
  rw [List.mem_eraseDups, List.mem_eraseDups, h.mem_iff]

/-- The occurrences of all different elements together are the length of a list. -/
theorem sum_count_eraseDups {β : Type} [hbeq : BEq β] [LawfulBEq β] [DecidableEq β] (l : List β) :
    (l.eraseDups.map fun b => l.count b).sum = l.length := by
  obtain rfl : hbeq = instBEqOfDecidableEq := lawful_beq_subsingleton _ _
  have hperm : l.eraseDups.Perm l.dedup := by
    rw [List.perm_ext_iff_of_nodup (nodup_eraseDups l) l.nodup_dedup]
    intro b
    rw [List.mem_eraseDups, List.mem_dedup]
  rw [(hperm.map _).sum_eq]
  exact List.sum_map_count_dedup_eq_length l

/-- A table made of pairs has each key once, where it first comes. -/
theorem keys_ofPairs (pairs : List (String × α)) : (ofPairs pairs).keys = (pairs.map (·.1)).eraseDups := by
  induction pairs using List.reverseRecOn with
  | nil => rfl
  | append_singleton pairs e ih =>
    rw [ofPairs_append, keys_put, ih, List.map_append, List.map_singleton, eraseDups_concat]
    simp only [List.mem_eraseDups]

theorem nodup_keys_ofPairs (pairs : List (String × α)) : (ofPairs pairs).keys.Nodup := by
  induction pairs using List.reverseRecOn with
  | nil => exact List.nodup_nil
  | append_singleton pairs e ih =>
    rw [ofPairs_append]
    exact nodup_keys_put ih e.1 e.2

/-- The values of a table whose keys are distinct are found under the keys, in order. -/
theorem map_get?_keys {t : Entries α} (h : t.keys.Nodup) : t.keys.map t.get? = t.values.map some := by
  induction t with
  | nil => rfl
  | cons e t ih =>
    simp only [keys, List.map_cons, List.nodup_cons] at h
    have hrest : (keys t).map (get? (e :: t)) = (keys t).map (get? t) := by
      apply List.map_congr_left
      intro key hkey
      have hne : e.1 ≠ key := fun heq => h.1 (heq ▸ hkey)
      rw [get?, if_neg hne]
    have hfirst : get? (e :: t) e.1 = some e.2 := by rw [get?, if_pos rfl]
    show get? (e :: t) e.1 :: (keys t).map (get? (e :: t)) = some e.2 :: (values t).map some
    rw [hfirst, hrest, ih h.2]

/-! ### Order -/

theorem nodup_of_nodup_keys {t : Entries α} (h : t.keys.Nodup) : t.Nodup :=
  List.Nodup.of_map _ h

/-- In a table with distinct keys an entry is known by its key. -/
theorem eq_of_key_eq {t : Entries α} (h : t.keys.Nodup) {e f : String × α} (he : e ∈ t) (hf : f ∈ t)
    (hkey : e.1 = f.1) : e = f :=
  List.inj_on_of_nodup_map h he hf hkey

/-- Two tables with distinct keys have the same entries, if they have the same keys with the same values. -/
theorem perm_iff {t u : Entries α} (ht : t.keys.Nodup) (hu : u.keys.Nodup) :
    t.Perm u ↔ t.keys.Perm u.keys ∧ ∀ e ∈ t, ∀ f ∈ u, e.1 = f.1 → e.2 = f.2 := by
  constructor
  · intro h
    refine ⟨h.map _, fun e he f hf hkey => ?_⟩
    rw [eq_of_key_eq hu (h.mem_iff.1 he) hf hkey]
  · rintro ⟨hkeys, hvalues⟩
    rw [List.perm_ext_iff_of_nodup (nodup_of_nodup_keys ht) (nodup_of_nodup_keys hu)]
    intro e
    constructor
    · intro he
      obtain ⟨f, hf, hkey⟩ := List.mem_map.1 (hkeys.mem_iff.1 (List.mem_map_of_mem he))
      rwa [show e = f from Prod.ext hkey.symm (hvalues e he f hf hkey.symm)]
    · intro he
      obtain ⟨f, hf, hkey⟩ := List.mem_map.1 (hkeys.mem_iff.2 (List.mem_map_of_mem he))
      rwa [show e = f from Prod.ext hkey.symm (hvalues f hf e he hkey).symm]

theorem sorted_perm (t : Entries α) : t.sorted.Perm t :=
  List.mergeSort_perm t _

/-- Sorting by texts puts the texts in order. -/
theorem pairwise_mergeSort_text (text : β → String) (xs : List β) :
    (xs.mergeSort fun a b => text a ≤ text b).Pairwise fun a b => text a ≤ text b := by
  have hsorted := @List.pairwise_mergeSort β (fun a b => decide (text a ≤ text b))
    (fun a b c hab hbc => decide_eq_true (le_trans (of_decide_eq_true hab) (of_decide_eq_true hbc)))
    (fun a b => by simpa using le_total (text a) (text b)) xs
  exact hsorted.imp of_decide_eq_true

theorem pairwise_sorted (t : Entries α) : t.sorted.Pairwise fun a b => a.1 ≤ b.1 :=
  pairwise_mergeSort_text Prod.fst t

/-- In order, tables with distinct keys are equal if they have the same entries. -/
theorem sorted_eq_iff {t u : Entries α} (ht : t.keys.Nodup) : t.sorted = u.sorted ↔ t.Perm u := by
  constructor
  · intro h
    exact t.sorted_perm.symm.trans (h ▸ u.sorted_perm)
  · intro h
    have hperm : t.sorted.Perm u.sorted := (t.sorted_perm.trans h).trans u.sorted_perm.symm
    refine hperm.eq_of_pairwise (fun a b ha hb hab hba => ?_) t.pairwise_sorted u.pairwise_sorted
    have hb' : b ∈ t := t.sorted_perm.mem_iff.1 (hperm.mem_iff.2 hb)
    exact eq_of_key_eq ht (t.sorted_perm.mem_iff.1 ha) hb' (le_antisymm hab hba)

/-- In a table with distinct keys the entries are what lookups find. -/
theorem mem_iff_get? {t : Entries α} (h : t.keys.Nodup) {e : String × α} : e ∈ t ↔ t.get? e.1 = some e.2 := by
  refine ⟨get?_of_mem h, fun hget => ?_⟩
  have hkey : e.1 ∈ t.keys := by
    rw [← has_eq_true_iff, has, hget]
    rfl
  obtain ⟨f, hf, hfkey⟩ := List.mem_map.1 hkey
  have hvalue := get?_of_mem h hf
  rw [hfkey, hget] at hvalue
  rwa [show e = f from Prod.ext hfkey.symm (Option.some.inj hvalue)]

/-- Two tables with distinct keys have the same entries exactly if lookups find the same in them. -/
theorem perm_iff_get? {t u : Entries α} (ht : t.keys.Nodup) (hu : u.keys.Nodup) :
    t.Perm u ↔ ∀ key, t.get? key = u.get? key := by
  rw [List.perm_ext_iff_of_nodup (nodup_of_nodup_keys ht) (nodup_of_nodup_keys hu)]
  constructor
  · intro h key
    ext value
    rw [← mem_iff_get? ht (e := (key, value)), ← mem_iff_get? hu (e := (key, value))]
    exact h (key, value)
  · intro h e
    rw [mem_iff_get? ht, mem_iff_get? hu, h]

/-- Tables with the same distinct keys in the same order and the same values are equal. -/
theorem ext_get? {t u : Entries α} (h : t.keys.Nodup) (hkeys : t.keys = u.keys)
    (hget : ∀ key, t.get? key = u.get? key) : t = u := by
  have hvalues : t.values.map some = u.values.map some := by
    rw [← map_get?_keys h, ← map_get?_keys (hkeys ▸ h), hkeys]
    exact List.map_congr_left fun key _ => hget key
  have hzip : ∀ t : Entries α, t = t.keys.zip t.values := fun t => List.zip_of_prod rfl rfl
  rw [hzip t, hzip u, hkeys, List.map_injective_iff.2 (Option.some_injective α) hvalues]

/-! ### Setting several values -/

/-- Setting values adds the new keys, in the order in which they first come. -/
theorem keys_putAll (t : Entries α) (pairs : List (String × α)) :
    (t.putAll pairs).keys = t.keys ++ (ofPairs pairs).keys.filter fun key => key ∉ t.keys := by
  induction pairs using List.reverseRecOn with
  | nil => simp [putAll, ofPairs, keys]
  | append_singleton pairs e ih =>
    have hput : t.putAll (pairs ++ [e]) = (t.putAll pairs).put e.1 e.2 := by simp [putAll, List.foldl_append]
    rw [hput, keys_put, ih, ofPairs_append, keys_put]
    by_cases ht : e.1 ∈ t.keys <;> by_cases hp : e.1 ∈ (ofPairs pairs).keys <;> simp [ht, hp]

theorem get?_putAll_ofPairs (t : Entries α) (pairs : List (String × α)) (key : String) :
    (t.putAll pairs).get? key = ((ofPairs pairs).get? key).or (t.get? key) := by
  rw [ofPairs, get?_putAll, get?_putAll, get?, Option.or_none]

theorem nodup_keys_putAll {t : Entries α} (h : t.keys.Nodup) (pairs : List (String × α)) :
    (t.putAll pairs).keys.Nodup := by
  induction pairs generalizing t with
  | nil => exact h
  | cons e pairs ih => exact ih (nodup_keys_put h e.1 e.2)

/-- The entries of a table with the values that a second table has for their keys. -/
def updated (t u : Entries α) : Entries α :=
  t.map fun e => (e.1, (u.get? e.1).getD e.2)

/-- The entries of a table whose keys a second table does not have. -/
def beyond (u t : Entries α) : Entries α :=
  u.filter fun e => e.1 ∉ t.keys

theorem get?_updated (t u : Entries α) (key : String) :
    (t.updated u).get? key = (t.get? key).map fun value => (u.get? key).getD value := by
  induction t with
  | nil => rfl
  | cons e t ih =>
    rw [updated, List.map_cons, get?, get?]
    by_cases hkey : e.1 = key
    · rw [if_pos hkey, if_pos hkey, ← hkey]
      rfl
    · rw [if_neg hkey, if_neg hkey]
      exact ih

theorem get?_beyond (u t : Entries α) (key : String) :
    (u.beyond t).get? key = if key ∈ t.keys then none else u.get? key := by
  induction u with
  | nil => simp [beyond, get?]
  | cons e u ih =>
    rw [beyond] at ih ⊢
    by_cases he : e.1 ∈ t.keys
    · rw [List.filter_cons_of_neg (by simpa using he), ih]
      by_cases hkey : e.1 = key
      · rw [← hkey, if_pos he, if_pos he]
      · rw [get?, if_neg hkey]
    · rw [List.filter_cons_of_pos (by simpa using he), get?, ih, get?]
      by_cases hkey : e.1 = key
      · rw [if_pos hkey, if_pos hkey, if_neg (hkey ▸ he)]
      · rw [if_neg hkey, if_neg hkey]

/-- Setting values changes the entries at their places and puts the new entries at the end. -/
theorem putAll_eq_append {t : Entries α} (h : t.keys.Nodup) (pairs : List (String × α)) :
    t.putAll pairs = t.updated (ofPairs pairs) ++ (ofPairs pairs).beyond t := by
  refine ext_get? (nodup_keys_putAll h pairs) ?_ ?_
  · have hupdated : (t.updated (ofPairs pairs)).keys = t.keys := keys_map t _
    have hbeyond : ((ofPairs pairs).beyond t).keys = (ofPairs pairs).keys.filter fun key => key ∉ t.keys := by
      simp only [beyond, keys, List.filter_map, Function.comp_def]
    have happend : (t.updated (ofPairs pairs) ++ (ofPairs pairs).beyond t).keys =
        (t.updated (ofPairs pairs)).keys ++ ((ofPairs pairs).beyond t).keys := List.map_append
    rw [keys_putAll, happend, hupdated, hbeyond]
  · intro key
    rw [get?_putAll_ofPairs, get?_append, get?_updated, get?_beyond]
    by_cases hkey : key ∈ t.keys
    · obtain ⟨value, hvalue⟩ := Option.ne_none_iff_exists'.1 (mt (get?_eq_none_iff t key).1 (not_not.2 hkey))
      rw [hvalue]
      cases (ofPairs pairs).get? key <;> rfl
    · rw [(get?_eq_none_iff t key).2 hkey, if_neg hkey, Option.or_none]
      rfl

theorem mem_of_mem_ofPairs {pairs : List (String × α)} {e : String × α} (he : e ∈ ofPairs pairs) : e ∈ pairs := by
  induction pairs using List.reverseRecOn with
  | nil => exact he
  | append_singleton pairs f ih =>
    rw [ofPairs_append] at he
    rw [List.mem_append, List.mem_singleton]
    exact (mem_put he).imp_left ih

/-- Pairs of which those with one key are equal stand in their table. -/
theorem mem_ofPairs {pairs : List (String × α)} (h : ∀ e ∈ pairs, ∀ f ∈ pairs, e.1 = f.1 → e = f) {e : String × α} :
    e ∈ ofPairs pairs ↔ e ∈ pairs := by
  refine ⟨mem_of_mem_ofPairs, fun he => ?_⟩
  have hkey : e.1 ∈ (ofPairs pairs).keys := by
    rw [keys_ofPairs, List.mem_eraseDups]
    exact List.mem_map_of_mem he
  obtain ⟨f, hf, hfe⟩ := List.mem_map.1 hkey
  rwa [h e he f (mem_of_mem_ofPairs hf) hfe.symm]

/-- Such pairs in another order and with repetitions make a table with the same entries. -/
theorem ofPairs_perm {pairs more : List (String × α)} (h : ∀ e ∈ pairs, ∀ f ∈ pairs, e.1 = f.1 → e = f)
    (hmem : ∀ e, e ∈ more ↔ e ∈ pairs) : (ofPairs pairs).Perm (ofPairs more) := by
  have hmore : ∀ e ∈ more, ∀ f ∈ more, e.1 = f.1 → e = f := by
    intro e he f hf
    exact h e ((hmem e).1 he) f ((hmem f).1 hf)
  rw [List.perm_ext_iff_of_nodup (nodup_of_nodup_keys (nodup_keys_ofPairs _))
    (nodup_of_nodup_keys (nodup_keys_ofPairs _))]
  intro e
  rw [mem_ofPairs h, mem_ofPairs hmore, hmem]

/-- Setting such pairs in another order and with repetitions changes the same entries and adds the same new ones,
which may then stand in another order. -/
theorem putAll_of_same_pairs {t : Entries α} (ht : t.keys.Nodup) {pairs more : List (String × α)}
    (h : ∀ e ∈ pairs, ∀ f ∈ pairs, e.1 = f.1 → e = f) (hmem : ∀ e, e ∈ more ↔ e ∈ pairs) :
    ∃ kept new new' : Entries α, t.putAll pairs = kept ++ new ∧ t.putAll more = kept ++ new' ∧ new.Perm new' ∧
      ∀ e ∈ new, e ∈ pairs := by
  have hperm := ofPairs_perm h hmem
  have hget := (perm_iff_get? (nodup_keys_ofPairs pairs) (nodup_keys_ofPairs more)).1 hperm
  have hupdated : t.updated (ofPairs pairs) = t.updated (ofPairs more) :=
    List.map_congr_left fun e _ => by rw [hget]
  refine ⟨t.updated (ofPairs pairs), (ofPairs pairs).beyond t, (ofPairs more).beyond t, putAll_eq_append ht pairs, ?_,
    hperm.filter _, ?_⟩
  · rw [hupdated]
    exact putAll_eq_append ht more
  · intro e he
    exact mem_of_mem_ofPairs (List.mem_of_mem_filter he)

theorem get?_putAll_of_mem {pairs : List (String × α)} (h : ∀ e ∈ pairs, ∀ f ∈ pairs, e.1 = f.1 → e = f)
    (t : Entries α) {e : String × α} (he : e ∈ pairs) : (t.putAll pairs).get? e.1 = some e.2 := by
  have hget : (ofPairs pairs).get? e.1 = some e.2 := get?_of_mem (nodup_keys_ofPairs pairs) ((mem_ofPairs h).2 he)
  rw [get?_putAll_ofPairs, hget, Option.some_or]

theorem put_eq_self {t : Entries α} {key : String} {value : α} (h : t.get? key = some value) :
    t.put key value = t := by
  induction t with
  | nil => cases h
  | cons e t ih =>
    rw [get?] at h
    rw [put]
    by_cases hkey : e.1 = key
    · rw [if_pos hkey] at h ⊢
      rw [← Option.some.inj h]
    · rw [if_neg hkey] at h ⊢
      rw [ih h]

/-- Setting values that are there changes nothing. -/
theorem putAll_eq_self {t : Entries α} {pairs : List (String × α)} (h : ∀ e ∈ pairs, t.get? e.1 = some e.2) :
    t.putAll pairs = t := by
  induction pairs with
  | nil => rfl
  | cons e pairs ih =>
    rw [List.forall_mem_cons] at h
    have hcons : t.putAll (e :: pairs) = (t.put e.1 e.2).putAll pairs := rfl
    rw [hcons, put_eq_self h.1, ih h.2]

end Promptbook.Entries

namespace Promptbook.Table

variable {α : Type}

theorem perm_iff_get? {t u : Table α} : t.entries.Perm u.entries ↔ ∀ key, t.get? key = u.get? key :=
  Entries.perm_iff_get? t.nodup u.nodup

theorem get?_of_perm {t u : Table α} (h : t.entries.Perm u.entries) (key : String) : t.get? key = u.get? key :=
  perm_iff_get?.1 h key

end Promptbook.Table
