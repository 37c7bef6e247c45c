import Promptbook.Proofs.Number.IntegerText
import Promptbook.Proofs.Registry.Runs

/-!
# Keys and identities

A prompt is known by its id, version and variant, and stored under a key that joins them with `@` and `:`.  Ids
and variants may hold these characters, so a key does not determine the identity: `text_eq_text_iff` says that the
keys of two identities have one text exactly if they are equal or one `Borrows` from the other, its variant being the
end of the other's id with what follows it.  Hence a lookup finds the last prompt registered with the identity exactly
if the version fits in a key and no prompt with a clashing identity was registered after it
(`lookup_keeps_identity_iff`).
-/

namespace Promptbook

open Promptbook.Number

namespace Key

/-- The first identity has a variant that reads like the end of an id with a version and perhaps a variant, and
the second has the first one's id and version, a colon and that end of an id for its id, and the same version and
variant. -/
def Borrows (a b : Parts) : Prop :=
  ∃ idEnd, a.variant = some (text idEnd b.version b.variant) ∧ b.id = text a.id a.version none ++ ":" ++ idEnd

/-- The text of the key of parts. -/
def Parts.text (p : Parts) : String :=
  Key.text p.id p.version p.variant

/-- The text of a key after the sign `@` that follows its id. -/
private def afterId (p : Parts) : List Char :=
  intText p.version ++ match p.variant with
    | some name => ':' :: name.toList
    | none => []

private theorem at_notMem_intText (n : Int) : '@' ∉ intText n :=
  notMem_intText (by decide) (by decide) n

private theorem colon_notMem_intText (n : Int) : ':' ∉ intText n :=
  notMem_intText (by decide) (by decide) n

theorem variantOf_of_ne {name : Option String} (h : name ≠ some "") : variantOf name = name := by
  cases name with
  | none => rfl
  | some s =>
    have : s ≠ "" := fun hs => h (by rw [hs])
    simp [variantOf, this]

theorem variantOf_ne (name : Option String) : variantOf name ≠ some "" := by
  intro h
  have := Option.filter_eq_some_iff.1 h
  simp at this

private theorem toList_text_none (id : String) (version : Int) :
    (text id version none).toList = id.toList ++ '@' :: intText version := by
  simp [text, join, variantOf]

private theorem toList_parts {p : Parts} (h : p.variant ≠ some "") :
    p.text.toList = p.id.toList ++ '@' :: afterId p := by
  rw [Parts.text, text, join, variantOf_of_ne h, afterId]
  cases p.variant <;> simp

private theorem toList_text {id : String} {p : Parts} (h : p.variant ≠ some "") :
    (text id p.version p.variant).toList = id.toList ++ '@' :: afterId p :=
  toList_parts (p := ⟨id, p.version, p.variant⟩) h

/-- A text without a character, before that character or at the end, is fixed by the whole. -/
private theorem split_unique {α : Type} {x : α} {as bs cs ds : List α} (ha : x ∉ as) (hb : x ∉ bs)
    (hc : cs = [] ∨ cs.head? = some x) (hd : ds = [] ∨ ds.head? = some x) (h : as ++ cs = bs ++ ds) :
    as = bs ∧ cs = ds := by
  induction as generalizing bs with
  | nil =>
    cases bs with
    | nil => exact ⟨rfl, h⟩
    | cons b bs =>
      rcases hc with rfl | hc
      · simp at h
      · rw [List.nil_append] at h
        rw [h] at hc
        simp only [List.cons_append, List.head?_cons, Option.some.injEq] at hc
        exact absurd (hc ▸ List.mem_cons_self) hb
  | cons a as ih =>
    cases bs with
    | nil =>
      rcases hd with rfl | hd
      · simp at h
      · rw [List.nil_append] at h
        rw [← h] at hd
        simp only [List.cons_append, List.head?_cons, Option.some.injEq] at hd
        exact absurd (hd ▸ List.mem_cons_self) ha
    | cons b bs =>
      simp only [List.mem_cons, not_or] at ha hb
      simp only [List.cons_append, List.cons.injEq] at h
      obtain ⟨has, hcs⟩ := ih ha.2 hb.2 h.2
      exact ⟨by rw [h.1, has], hcs⟩

/-- Version and variant are fixed by the text after the id. -/
private theorem afterId_inj {a b : Parts} (h : afterId a = afterId b) :
    a.version = b.version ∧ a.variant = b.variant := by
  obtain ⟨hversion, hvariant⟩ := split_unique (colon_notMem_intText a.version) (colon_notMem_intText b.version)
    (by cases a.variant <;> simp) (by cases b.variant <;> simp) h
  refine ⟨intText_inj hversion, ?_⟩
  cases ha : a.variant <;> cases hb : b.variant <;> rw [ha, hb] at hvariant
  · simp at hvariant
  · simp at hvariant
  · simp only [List.cons.injEq, true_and] at hvariant
    rw [String.toList_injective hvariant]

/-- An `@` in the text after the id stands in the variant. -/
private theorem afterId_eq_append {p : Parts} {before after : List Char} (h : afterId p = before ++ '@' :: after) :
    ∃ idEnd, p.variant = some (String.ofList (idEnd ++ '@' :: after)) ∧
      before = intText p.version ++ ':' :: idEnd := by
  rw [afterId] at h
  cases hv : p.variant with
  | none =>
    rw [hv, List.append_nil] at h
    refine absurd ?_ (at_notMem_intText p.version)
    rw [h]
    simp
  | some name =>
    simp only [hv] at h
    rcases List.append_eq_append_iff.1 h with ⟨m, hbefore, hname⟩ | ⟨m, hversion, hafter⟩
    · cases m with
      | nil => simp at hname
      | cons c idEnd =>
        simp only [List.cons_append, List.cons.injEq] at hname
        refine ⟨idEnd, ?_, ?_⟩
        · rw [← hname.2, String.ofList_toList]
        · rw [hbefore, hname.1]
    · refine absurd ?_ (at_notMem_intText p.version)
      cases m with
      | nil => simp at hafter
      | cons c m =>
        simp only [List.cons_append, List.cons.injEq] at hafter
        rw [hversion, hafter.1]
        simp

private theorem borrows_of_text_eq {a b : Parts} (hb : b.variant ≠ some "")
    {idEnd : List Char} (hid : b.id.toList = a.id.toList ++ '@' :: idEnd)
    (hrest : afterId a = idEnd ++ '@' :: afterId b) : Borrows a b := by
  obtain ⟨inner, hvariant, hbefore⟩ := afterId_eq_append hrest
  refine ⟨String.ofList inner, ?_, ?_⟩
  · rw [hvariant, Option.some.injEq]
    apply String.toList_injective
    rw [String.toList_ofList, toList_text hb, String.toList_ofList]
  · apply String.toList_injective
    rw [hid, hbefore]
    simp [toList_text_none]

theorem text_eq_of_borrows {a b : Parts} (h : Borrows a b) : a.text = b.text := by
  obtain ⟨idEnd, hvariant, hid⟩ := h
  have hne : text idEnd b.version b.variant ≠ "" := by
    rw [text, join]
    intro h
    have := congrArg String.toList h
    split at this <;> simp at this
  rw [Parts.text, hvariant, text, join, variantOf_of_ne (by simpa using hne), Parts.text, hid, text, text, join]
  simp only [join, text, variantOf, Option.filter_none]
  split <;> simp [String.append_assoc]

private theorem eq_or_borrows_of_append {a b : Parts} (hb : b.variant ≠ some "")
    {m : List Char} (hid : b.id.toList = a.id.toList ++ m) (hrest : '@' :: afterId a = m ++ '@' :: afterId b) :
    a = b ∨ Borrows a b := by
  cases m with
  | nil =>
    simp only [List.append_nil, List.nil_append, List.cons.injEq, true_and] at hid hrest
    obtain ⟨hversion, hvariant⟩ := afterId_inj hrest
    left
    cases a
    cases b
    simp only [Parts.mk.injEq]
    exact ⟨(String.toList_injective hid).symm, hversion, hvariant⟩
  | cons c m =>
    simp only [List.cons_append, List.cons.injEq] at hrest
    exact .inr (borrows_of_text_eq hb (hrest.1 ▸ hid) hrest.2)

/-- The keys of two identities have one text exactly if they are equal or one borrows from the other. -/
theorem text_eq_text_iff {a b : Parts} (ha : a.variant ≠ some "") (hb : b.variant ≠ some "") :
    a.text = b.text ↔ a = b ∨ Borrows a b ∨ Borrows b a := by
  constructor
  · intro h
    have h' := congrArg String.toList h
    rw [toList_parts ha, toList_parts hb] at h'
    -- one of the two ids is the front of the other
    rcases List.append_eq_append_iff.1 h' with ⟨m, hid, hrest⟩ | ⟨m, hid, hrest⟩
    · exact (eq_or_borrows_of_append hb hid hrest).imp_right .inl
    · exact (eq_or_borrows_of_append ha hid hrest).imp Eq.symm .inr
  · rintro (rfl | h | h)
    · rfl
    · exact text_eq_of_borrows h
    · exact (text_eq_of_borrows h).symm

private theorem not_borrows_self (a : Parts) : ¬ Borrows a a := by
  rintro ⟨idEnd, -, hid⟩
  have := congrArg (fun s => s.toList.length) hid
  simp only [String.toList_append, List.length_append, toList_text_none, List.length_cons] at this
  omega

/-- One of two identities borrows from the other. -/
def Clash (a b : Parts) : Prop :=
  Borrows a b ∨ Borrows b a

/-- Identities clash exactly if they differ and their keys have one text. -/
theorem clash_iff {a b : Parts} (ha : a.variant ≠ some "") (hb : b.variant ≠ some "") :
    Clash a b ↔ a.text = b.text ∧ a ≠ b := by
  rw [text_eq_text_iff ha hb]
  constructor
  · intro h
    refine ⟨.inr h, ?_⟩
    rintro rfl
    exact h.elim (not_borrows_self a) (not_borrows_self a)
  · rintro ⟨rfl | h, hne⟩
    · exact absurd rfl hne
    · exact h

end Key

/-- What a prompt is known by; an empty variant counts as none. -/
def Prompt.identity (p : Prompt) : Key.Parts :=
  ⟨p.id, p.version, Key.variantOf p.variant⟩

namespace Registry

open Key

theorem text_variantOf (id : String) (version : Int) (variant : Option String) :
    text id version (variantOf variant) = text id version variant := by
  rw [text, join, variantOf_of_ne (variantOf_ne variant), text, join]

/-- An element of a list with one more at the end is that one or an element before. -/
private theorem split_append_singleton {ps before after : List Prompt} {p last : Prompt}
    (h : ps ++ [last] = before ++ p :: after) :
    (after = [] ∧ p = last) ∨ ∃ mid, after = mid ++ [last] ∧ ps = before ++ p :: mid := by
  rcases List.eq_nil_or_concat after with rfl | ⟨mid, x, rfl⟩
  · have := (List.append_inj' h rfl).2
    simp only [List.cons.injEq, and_true] at this
    exact .inl ⟨rfl, this.symm⟩
  · rw [List.concat_eq_append, ← List.cons_append, ← List.append_assoc] at h
    obtain ⟨hps, hx⟩ := List.append_inj' h rfl
    simp only [List.cons.injEq, and_true] at hx
    exact .inr ⟨mid, by rw [hx, List.concat_eq_append], hps⟩

/-- Reading off the last element with one property gives the last with a narrower one exactly if every element
with the first property alone is followed by one with the narrower property. -/
private theorem lastWith_eq_lastWith_iff {q q' : Prompt → Prop} [DecidablePred q] [DecidablePred q']
    (hsub : ∀ p, q' p → q p) (ps : List Prompt) :
    lastWith q ps = lastWith q' ps ↔
      ∀ before p after, ps = before ++ p :: after → q p → ¬ q' p → ∃ r ∈ after, q' r := by
  induction ps using List.reverseRecOn with
  | nil =>
    refine iff_of_true rfl ?_
    intro before p after h
    simp at h
  | append_singleton ps last ih =>
    by_cases hq' : q' last
    · -- both read off the last element
      refine iff_of_true (by simp [lastWith, hq', hsub last hq']) ?_
      intro before p after h _ hnot
      rcases split_append_singleton h with ⟨_, rfl⟩ | ⟨mid, rfl, _⟩
      · exact absurd hq' hnot
      · exact ⟨last, by simp, hq'⟩
    · by_cases hq : q last
      · -- the last element alone makes the difference
        refine iff_of_false ?_ ?_
        · intro h
          have hmem : lastWith q' (ps ++ [last]) = some last := by
            rw [← h]
            simp [lastWith, hq]
          have := List.mem_of_getLast? hmem
          simp only [List.mem_filter, decide_eq_true_eq] at this
          exact hq' this.2
        · intro h
          obtain ⟨r, hr, _⟩ := h ps last [] rfl hq hq'
          cases hr
      · have hskip : lastWith q (ps ++ [last]) = lastWith q ps ∧ lastWith q' (ps ++ [last]) = lastWith q' ps := by
          simp [lastWith, hq, hq']
        rw [hskip.1, hskip.2, ih]
        constructor
        · intro hall before p after h hp hp'
          rcases split_append_singleton h with ⟨_, rfl⟩ | ⟨mid, rfl, hps⟩
          · exact absurd hp hq
          · obtain ⟨r, hr, hr'⟩ := hall before p mid hps hp hp'
            exact ⟨r, by simp [hr], hr'⟩
        · intro hall before p after h hp hp'
          obtain ⟨r, hr, hr'⟩ := hall before p (after ++ [last]) (by simp [h]) hp hp'
          simp only [List.mem_append, List.mem_singleton] at hr
          rcases hr with hr | rfl
          · exact ⟨r, hr, hr'⟩
          · exact absurd hr' hq'

/-- Every prompt of the history whose identity clashes with the given one is followed by one that has the given
identity. -/
def Undisturbed (ps : List Prompt) (identity : Parts) : Prop :=
  ∀ before p after, ps = before ++ p :: after → Clash p.identity identity → ∃ r ∈ after, r.identity = identity

private theorem keyText_eq_iff_identity (p : Prompt) (id : String) (version : Int) (variant : Option String) :
    p.keyText = text id version variant ↔ p.identity.text = (Parts.mk id version (variantOf variant)).text := by
  rw [Prompt.keyText, Parts.text, Parts.text, Prompt.identity, text_variantOf, text_variantOf]

private theorem lookup_iff (actions : List Action) (id : String) (version : Int) (variant : Option String) :
    (empty.run actions).resolveExact id version variant =
        .ok (lastWith (fun p => p.identity = ⟨id, version, variantOf variant⟩) (history actions)) ↔
      isLong version = false ∧ Undisturbed (history actions) ⟨id, version, variantOf variant⟩ := by
  have hsub : ∀ p : Prompt, p.identity = ⟨id, version, variantOf variant⟩ → p.keyText = text id version variant := by
    intro p hp
    rw [keyText_eq_iff_identity, hp]
  have hclash : ∀ p : Prompt, Clash p.identity ⟨id, version, variantOf variant⟩ ↔
      p.keyText = text id version variant ∧ p.identity ≠ ⟨id, version, variantOf variant⟩ := by
    intro p
    rw [clash_iff (variantOf_ne p.variant) (variantOf_ne variant), keyText_eq_iff_identity]
  rw [resolveExact_run]
  cases hlong : isLong version with
  | true =>
    rw [build_of_long hlong]
    exact iff_of_false nofun fun h => Bool.noConfusion h.1
  | false =>
    rw [build_of_short hlong, Except.map, Except.ok.injEq, lastWith_eq_lastWith_iff hsub, Undisturbed]
    simp only [hclash, and_imp, ne_eq, true_and]

/-- After a run a lookup gives the last prompt that was registered with the identity since the last clear exactly
if the version fits in a key and every prompt registered with a clashing identity is followed by one with the identity
itself.  A lookup of a version that does not fit in a key fails. -/
theorem lookup_keeps_identity_iff (actions : List Action) (id : String) (version : Int) (variant : Option String) :
    ((empty.run actions).resolveExact id version variant =
        .ok (lastWith (fun p => p.identity = ⟨id, version, variantOf variant⟩) (history actions)) ↔
      isLong version = false ∧ Undisturbed (history actions) ⟨id, version, variantOf variant⟩) ∧
    ((empty.run actions).resolve id version =
        .ok (lastWith (fun p => p.identity = ⟨id, version, none⟩) (history actions)) ↔
      isLong version = false ∧ Undisturbed (history actions) ⟨id, version, none⟩) ∧
    (isLong version = true →
      (empty.run actions).resolveExact id version variant = .error .integerTooLongToWrite ∧
      (empty.run actions).resolve id version = .error .integerTooLongToWrite) :=
  ⟨lookup_iff actions id version variant, lookup_iff actions id version none,
    fun h => ⟨resolveExact_of_long h _ id variant, resolveExact_of_long h _ id none⟩⟩

/-- A prompt takes the place of one with another identity, and is found under that identity. -/
theorem lookup_finds_other_identity :
    let actions : List Action := [.register (.bare "a" 1 (some "b@2")), .register (.bare "a@1:b" 2 none)]
    ((empty.run actions).resolveExact "a" 1 (some "b@2")).map (Option.map Prompt.identity) =
        .ok (some ⟨"a@1:b", 2, none⟩) ∧
      (lastWith (fun p => p.identity = ⟨"a", 1, some "b@2"⟩) (history actions)).map Prompt.identity =
        some ⟨"a", 1, some "b@2"⟩ := by
  decide +kernel

end Registry
end Promptbook
