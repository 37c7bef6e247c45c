import Promptbook.Proofs.Entries
import Promptbook.Telemetry.Log

/-!
# Attributes of spans

An attribute that is set comes last, and a span that has no room left drops its oldest one for it.  So the attributes
that were set last are found in a span whatever was set before them (`EndsWith.get?_eq`), as long as they are no more
than a span can have (`EndsWith.setAll`).
-/

namespace Promptbook.Span

/-- The value of an attribute. -/
def get? (s : Span) (key : String) : Option Value :=
  s.attributes.get? (attributeOrigin ++ key)

@[simp] theorem name_set (s : Span) (key : String) (value : Value) : (s.set key value).name = s.name := by
  rw [set]
  split <;> rfl

@[simp] theorem events_set (s : Span) (key : String) (value : Value) : (s.set key value).events = s.events := by
  rw [set]
  split <;> rfl

/-- The entries that can be attributes, as attributes. -/
def shown (entries : Entries Value) : Entries Value :=
  entries.filterMap fun e => (attribute? e.2).map fun v => (e.1, v)

/-- Attributes under their full keys. -/
def named (attributes : Entries Value) : Entries Value :=
  attributes.map fun e => (attributeOrigin ++ e.1, e.2)

theorem mem_keys_named {attributes : Entries Value} {key : String} :
    attributeOrigin ++ key ∈ (named attributes).keys ↔ key ∈ attributes.keys := by
  simp [named, Entries.keys]

theorem get?_named (attributes : Entries Value) (key : String) :
    (named attributes).get? (attributeOrigin ++ key) = attributes.get? key := by
  induction attributes with
  | nil => rfl
  | cons e attributes ih =>
    have hcons : named (e :: attributes) = (attributeOrigin ++ e.1, e.2) :: named attributes := rfl
    rw [hcons, Entries.get?, Entries.get?, ih]
    simp only [String.append_right_inj]

/-- Were certain attributes set last in a span, so that no earlier one shares a key with them? -/
def EndsWith (s : Span) (last : Entries Value) : Prop :=
  ∃ earlier : Entries Value, s.attributes = earlier ++ named last ∧
    ∀ key ∈ last.keys, attributeOrigin ++ key ∉ earlier.keys

theorem endsWith_nil (s : Span) : s.EndsWith [] :=
  ⟨s.attributes, (List.append_nil s.attributes).symm, nofun⟩

/-- The attributes that were set last are found. -/
theorem EndsWith.get?_eq {s : Span} {last : Entries Value} (h : s.EndsWith last) {key : String}
    (hkey : key ∈ last.keys) : s.get? key = last.get? key := by
  obtain ⟨earlier, hattributes, hnew⟩ := h
  rw [get?, hattributes, Entries.get?_append, (Entries.get?_eq_none_iff _ _).2 (hnew key hkey), Option.none_or,
    get?_named]

/-- A new attribute comes last.  Only one that was set before the others makes room for it. -/
theorem EndsWith.set {s : Span} {last : Entries Value} (h : s.EndsWith last) {key : String} {value v : Value}
    (hvalue : attribute? value = some v) (hkey : key ∉ last.keys) (hroom : last.length < attributeLimit) :
    (s.set key value).EndsWith (last ++ [(key, v)]) := by
  obtain ⟨earlier, hattributes, hnew⟩ := h
  have hothers : s.attributes.without (attributeOrigin ++ key) =
      earlier.without (attributeOrigin ++ key) ++ named last := by
    rw [hattributes, Entries.without, List.filter_append]
    exact congrArg (earlier.without (attributeOrigin ++ key) ++ ·)
      (Entries.without_of_notMem (mt mem_keys_named.1 hkey))
  -- whatever is kept of the earlier attributes has neither the new key nor one of the last keys
  have hkept : ∀ kept : Entries Value, kept.Sublist (earlier.without (attributeOrigin ++ key)) →
      ∀ k ∈ Entries.keys (last ++ [(key, v)]), attributeOrigin ++ k ∉ kept.keys := by
    intro kept hsub k hk hmem
    have hearlier := Entries.mem_keys_without.1 ((hsub.map _).subset hmem)
    rw [Entries.keys, List.map_append, List.mem_append] at hk
    rcases hk with hk | hk
    · exact hnew k hk hearlier.1
    · exact hearlier.2 ((String.append_right_inj _).2 (by simpa using hk))
  have hlast : ∀ kept : Entries Value,
      kept ++ named last ++ [(attributeOrigin ++ key, v)] = kept ++ named (last ++ [(key, v)]) := by
    intro kept
    simp [named]
  rw [Span.set, hvalue]
  simp only [withAttribute, hothers]
  split
  · exact ⟨earlier.without (attributeOrigin ++ key), hlast _, hkept _ (List.Sublist.refl _)⟩
  · next hfull =>
    have hfirst : 1 ≤ (earlier.without (attributeOrigin ++ key)).length := by
      rw [List.length_append, named, List.length_map] at hfull
      omega
    rw [List.drop_append_of_le_length hfirst]
    exact ⟨(earlier.without (attributeOrigin ++ key)).drop 1, hlast _, hkept _ (List.drop_sublist _ _)⟩

/-- Further attributes with new and distinct keys come last, in order. -/
theorem EndsWith.setAll {s : Span} {last : Entries Value} (h : s.EndsWith last) {entries attributes : Entries Value}
    (hshown : shown entries = attributes) (hkeys : (Entries.keys (last ++ attributes)).Nodup)
    (hroom : (last ++ attributes).length ≤ attributeLimit) :
    (s.setAll entries).EndsWith (last ++ attributes) := by
  subst hshown
  induction entries generalizing s last with
  | nil => rwa [show last ++ shown [] = last from List.append_nil last]
  | cons e entries ih =>
    have hstep : s.setAll (e :: entries) = (s.set e.1 e.2).setAll entries := rfl
    rw [hstep]
    cases hvalue : attribute? e.2 with
    | none =>
      have hset : s.set e.1 e.2 = s := by rw [Span.set, hvalue]
      have hshown : shown (e :: entries) = shown entries := by simp [shown, hvalue]
      rw [hshown] at hkeys hroom ⊢
      rw [hset]
      exact ih h hkeys hroom
    | some v =>
      have hshown : last ++ shown (e :: entries) = (last ++ [(e.1, v)]) ++ shown entries := by simp [shown, hvalue]
      rw [hshown] at hkeys hroom ⊢
      refine ih (h.set hvalue ?_ ?_) hkeys hroom
      · intro hmem
        rw [Entries.keys, List.map_append, List.map_append, List.append_assoc, List.nodup_append] at hkeys
        exact hkeys.2.2 e.1 hmem e.1 (by simp) rfl
      · simp only [List.length_append, List.length_singleton] at hroom
        omega

theorem get?_set_self (s : Span) (key : String) {value v : Value} (hvalue : attribute? value = some v) :
    (s.set key value).get? key = some v := by
  rw [((endsWith_nil s).set hvalue nofun (by decide)).get?_eq (by simp [Entries.keys])]
  simp [Entries.get?]

theorem length_attributes_set_le (s : Span) (key : String) (value : Value) :
    (s.set key value).attributes.length ≤ s.attributes.length + 1 := by
  have hothers : (s.attributes.without (attributeOrigin ++ key)).length ≤ s.attributes.length :=
    List.length_filter_le _ _
  rw [Span.set]
  split
  · simp only [withAttribute]
    split <;> simp only [List.length_append, List.length_drop, List.length_singleton] <;> omega
  · exact Nat.le_succ _

theorem length_attributes_setAll_le (s : Span) (entries : Entries Value) :
    (s.setAll entries).attributes.length ≤ s.attributes.length + (shown entries).length := by
  induction entries generalizing s with
  | nil => exact Nat.le_refl _
  | cons e entries ih =>
    have hstep : s.setAll (e :: entries) = (s.set e.1 e.2).setAll entries := rfl
    have hrest := ih (s.set e.1 e.2)
    rw [hstep]
    cases hvalue : attribute? e.2 with
    | none =>
      have hset : s.set e.1 e.2 = s := by rw [Span.set, hvalue]
      have hshown : shown (e :: entries) = shown entries := by simp [shown, hvalue]
      rw [hset] at hrest ⊢
      rwa [hshown]
    | some v =>
      have hset := s.length_attributes_set_le e.1 e.2
      have hshown : shown (e :: entries) = (e.1, v) :: shown entries := by simp [shown, hvalue]
      rw [hshown, List.length_cons]
      omega

/-- If the attributes that were set last are all there are, a span has no others. -/
theorem EndsWith.get?_of_length_le {s : Span} {last : Entries Value} (h : s.EndsWith last)
    (hlength : s.attributes.length ≤ last.length) (key : String) : s.get? key = last.get? key := by
  obtain ⟨earlier, hattributes, -⟩ := h
  have hnone : earlier = [] := by
    rw [hattributes, List.length_append, named, List.length_map] at hlength
    exact List.length_eq_zero_iff.1 (by omega)
  rw [get?, hattributes, hnone, List.nil_append, get?_named]

/-- As long as there is room, an attribute that is set changes no other one. -/
theorem get?_set_of_ne (s : Span) {key other : String} (h : other ≠ key)
    (hroom : s.attributes.length < attributeLimit) (value : Value) : (s.set key value).get? other = s.get? other := by
  have hne : attributeOrigin ++ other ≠ attributeOrigin ++ key := mt (String.append_right_inj _).1 h
  have hothers : (s.attributes.without (attributeOrigin ++ key)).length < attributeLimit :=
    Nat.lt_of_le_of_lt (List.length_filter_le _ _) hroom
  rw [Span.set]
  split
  · simp only [get?, withAttribute, if_pos hothers]
    rw [Entries.get?_append, Entries.get?_without_of_ne _ hne, Entries.get?, if_neg (Ne.symm hne), Entries.get?,
      Option.or_none]
  · rfl

theorem get?_fail (s : Span) (kind message key : String) :
    (s.fail kind message).get? key = (s.set "status" (.text "error")).get? key := rfl

end Promptbook.Span
