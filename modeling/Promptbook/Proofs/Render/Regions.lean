import Mathlib
import Promptbook.Render.Prompt

/-!
# Delimited regions

A region of a text starts at an opening marker and ends at the first closing marker after it; `outside` is what
is left of a text when all regions are deleted.  The key facts: deleting regions is compatible with appending to
a text that ends in a closing marker (`outside_append`), and a value between its markers is deleted as a whole
exactly if it is `Confined`, which is to say that every closing marker in it is followed at once by an opening
one (`outside_delimited_eq_nil_iff`).  Both rest on the fact that the two markers cannot overlap.
-/

namespace Promptbook.Render

/-- The characters of the marker before a value. -/
def opening : List Char := openMarker.toList

/-- The characters of the marker after a value. -/
def closing : List Char := closeMarker.toList

/-- Where a mark first stands in a text. -/
def position? (mark : List Char) : List Char → Option Nat
  | [] => if mark.isEmpty then some 0 else none
  | c :: rest => if mark.isPrefixOf (c :: rest) then some 0 else (position? mark rest).map (· + 1)

/-- The length of the region that a text starts with, markers included. -/
def regionLength? (cs : List Char) : Option Nat :=
  if opening.isPrefixOf cs then
    (position? closing (cs.drop opening.length)).map fun n => opening.length + n + closing.length
  else none

/-- Deletes regions, after as many characters as still belong to a region that came before. -/
def outsideFrom : Nat → List Char → List Char
  | _, [] => []
  | skip + 1, _ :: rest => outsideFrom skip rest
  | 0, c :: rest =>
    match regionLength? (c :: rest) with
    | some n => outsideFrom (n - 1) rest
    | none => c :: outsideFrom 0 rest

/-- The text outside the regions of a text. -/
def outside (cs : List Char) : List Char :=
  outsideFrom 0 cs

/-- Every closing marker in a value is followed at once by an opening marker. -/
def Confined (value : List Char) : Prop :=
  ∀ before after, value = before ++ closing ++ after → opening <+: after

/-! ### The markers -/

private theorem opening_eq :
    opening = ['<', '<', '<', 'U', 'S', 'E', 'R', '_', 'I', 'N', 'P', 'U', 'T', '>', '>', '>'] := by
  decide

private theorem closing_eq :
    closing = ['<', '<', '<', 'E', 'N', 'D', '_', 'U', 'S', 'E', 'R', '_', 'I', 'N', 'P', 'U', 'T',
      '>', '>', '>'] := by
  decide

private theorem length_opening : opening.length = 16 := by rw [opening_eq]; rfl

private theorem length_closing : closing.length = 20 := by rw [closing_eq]; rfl

/-- If two marks stand in a text and the second starts inside the first, they agree on what they share. -/
private theorem overlap {p q cs : List Char} {k : Nat} (hp : p <+: cs) (hq : q <+: cs.drop k) :
    p.drop k <+: q ∨ q <+: p.drop k :=
  List.prefix_or_prefix_of_prefix (hp.drop k) hq

private theorem closing_closing : ∀ k < 20, 0 < k →
    ¬ (closing.drop k <+: closing ∨ closing <+: closing.drop k) := by
  rw [closing_eq]; decide

private theorem opening_closing : ∀ k < 16, ¬ (opening.drop k <+: closing ∨ closing <+: opening.drop k) := by
  rw [opening_eq, closing_eq]; decide

private theorem closing_opening : ∀ k < 20, ¬ (closing.drop k <+: opening ∨ opening <+: closing.drop k) := by
  rw [opening_eq, closing_eq]; decide

/-- Two closing markers do not overlap. -/
private theorem closing_apart {cs : List Char} {i j : Nat} (hi : closing <+: cs.drop i)
    (hj : closing <+: cs.drop j) (hij : i < j) : i + 20 ≤ j := by
  by_contra hlt
  have hk : closing <+: (cs.drop i).drop (j - i) := by
    rw [List.drop_drop, show i + (j - i) = j by omega]
    exact hj
  exact closing_closing (j - i) (by omega) (by omega) (overlap hi hk)

/-- A closing marker starts after the end of an opening marker that starts before it. -/
private theorem opening_apart {cs : List Char} {i j : Nat} (hi : opening <+: cs.drop i)
    (hj : closing <+: cs.drop j) (hij : i ≤ j) : i + 16 ≤ j := by
  by_contra hlt
  have hk : closing <+: (cs.drop i).drop (j - i) := by
    rw [List.drop_drop, show i + (j - i) = j by omega]
    exact hj
  exact opening_closing (j - i) (by omega) (overlap hi hk)

/-! ### Finding a mark -/

/-- A mark is found exactly where it stands for the first time. -/
theorem position?_eq_some_iff {mark : List Char} (hm : mark ≠ []) {cs : List Char} {n : Nat} :
    position? mark cs = some n ↔ mark <+: cs.drop n ∧ ∀ i < n, ¬ mark <+: cs.drop i := by
  induction cs generalizing n with
  | nil => simp [position?, hm]
  | cons c rest ih =>
    by_cases hp : mark.isPrefixOf (c :: rest) = true
    · have hpre := List.isPrefixOf_iff_prefix.1 hp
      simp only [position?, hp, if_true, Option.some.injEq]
      constructor
      · rintro rfl
        exact ⟨hpre, by simp⟩
      · rintro ⟨_, hmin⟩
        by_contra hn
        exact hmin 0 (by omega) hpre
    · have hpre : ¬ mark <+: c :: rest := fun h => hp (List.isPrefixOf_iff_prefix.2 h)
      simp only [position?, hp, Bool.false_eq_true, if_false, Option.map_eq_some_iff]
      constructor
      · rintro ⟨m, hm', rfl⟩
        obtain ⟨hat, hmin⟩ := ih.1 hm'
        refine ⟨by simpa using hat, ?_⟩
        intro i hi
        cases i with
        | zero => exact hpre
        | succ i => simpa using hmin i (by omega)
      · rintro ⟨hat, hmin⟩
        cases n with
        | zero => exact absurd hat hpre
        | succ n =>
          refine ⟨n, ih.2 ⟨by simpa using hat, ?_⟩, rfl⟩
          intro i hi
          simpa using hmin (i + 1) (by omega)

/-- A mark that stands somewhere in a text is found, there or before. -/
theorem exists_position? {mark : List Char} (hm : mark ≠ []) {cs : List Char} {n : Nat}
    (h : mark <+: cs.drop n) : ∃ m ≤ n, position? mark cs = some m := by
  induction n using Nat.strongRecOn with
  | ind n ih =>
    by_cases hmin : ∀ i < n, ¬ mark <+: cs.drop i
    · exact ⟨n, Nat.le_refl n, (position?_eq_some_iff hm).2 ⟨h, hmin⟩⟩
    · push Not at hmin
      obtain ⟨i, hi, hat⟩ := hmin
      obtain ⟨m, hmi, hpos⟩ := ih i hi hat
      exact ⟨m, by omega, hpos⟩

private theorem closing_ne_nil : closing ≠ [] := by rw [closing_eq]; simp

/-- What follows a text does not change where a mark is found in it. -/
private theorem position?_append {mark cs : List Char} (hm : mark ≠ []) {n : Nat}
    (h : position? mark cs = some n) (rest : List Char) : position? mark (cs ++ rest) = some n := by
  obtain ⟨hat, hmin⟩ := (position?_eq_some_iff hm).1 h
  have hlen : mark.length ≤ (cs.drop n).length := hat.length_le
  have hpos : 0 < mark.length := List.length_pos_iff.2 hm
  rw [List.length_drop] at hlen
  refine (position?_eq_some_iff hm).2 ⟨?_, ?_⟩
  · rw [List.drop_append_of_le_length (by omega)]
    exact hat.trans (List.prefix_append _ _)
  · intro i hi hp
    rw [List.drop_append_of_le_length (by omega)] at hp
    refine hmin i hi (List.prefix_of_prefix_length_le hp (List.prefix_append _ _) ?_)
    rw [List.length_drop]
    omega

/-! ### Deleting regions -/

private theorem outsideFrom_eq_drop (skip : Nat) (cs : List Char) :
    outsideFrom skip cs = outside (cs.drop skip) := by
  induction skip generalizing cs with
  | zero => rfl
  | succ skip ih =>
    cases cs with
    | nil => rfl
    | cons c rest => simpa [outsideFrom] using ih rest

theorem regionLength?_eq_some_iff {cs : List Char} {n : Nat} :
    regionLength? cs = some n ↔
      opening <+: cs ∧ ∃ m, position? closing (cs.drop 16) = some m ∧ n = m + 36 := by
  unfold regionLength?
  split
  · next h =>
    rw [List.isPrefixOf_iff_prefix] at h
    simp only [h, true_and, length_opening, length_closing, Option.map_eq_some_iff]
    constructor
    · rintro ⟨m, hm, rfl⟩
      exact ⟨m, hm, by omega⟩
    · rintro ⟨m, hm, rfl⟩
      exact ⟨m, hm, by omega⟩
  · next h =>
    rw [List.isPrefixOf_iff_prefix] at h
    simp [h]

/-- A region at the front of a text is deleted. -/
theorem outside_of_region {cs : List Char} {n : Nat} (h : regionLength? cs = some n) :
    outside cs = outside (cs.drop n) := by
  cases cs with
  | nil =>
    simp only [outside, List.drop_nil]
  | cons c rest =>
    obtain ⟨_, m, _, hn⟩ := regionLength?_eq_some_iff.1 h
    have hdrop : (c :: rest).drop n = rest.drop (n - 1) := by
      rw [show n = n - 1 + 1 by omega, List.drop_succ_cons, Nat.add_sub_cancel]
    rw [hdrop, ← outsideFrom_eq_drop]
    simp only [outside, outsideFrom, h]

/-- A character at which no region starts is kept. -/
theorem outside_of_no_region {c : Char} {rest : List Char} (h : regionLength? (c :: rest) = none) :
    outside (c :: rest) = c :: outside rest := by
  simp only [outside, outsideFrom, h]

/-- The tails of a closing marker, and the texts that end in one. -/
private def Ending (cs : List Char) : Prop := cs <:+ closing ∨ closing <:+ cs

private theorem Ending.of_suffix {cs ds : List Char} (h : Ending cs) (hs : ds <:+ cs) : Ending ds := by
  rcases h with h | h
  · exact .inl (hs.trans h)
  · exact List.suffix_or_suffix_of_suffix hs h

/-- At the front of a proper tail of a closing marker no opening marker can start, whatever follows. -/
private theorem not_opening_of_tail {cs rest : List Char} (h : cs <:+ closing) (hne : cs ≠ []) :
    ¬ opening <+: cs ++ rest := by
  intro hp
  obtain ⟨pre, hpre⟩ := h
  have hlen := congrArg List.length hpre
  rw [List.length_append, length_closing] at hlen
  have hpos : 0 < cs.length := List.length_pos_iff.2 hne
  have hcs : cs = closing.drop pre.length := by rw [← hpre, List.drop_left]
  refine closing_opening pre.length (by omega) ?_
  rw [← hcs]
  exact List.prefix_or_prefix_of_prefix (List.prefix_append cs rest) hp

/-- In a text that ends in a closing marker, every opening marker starts a region. -/
private theorem regionLength?_of_ending {cs : List Char} (h : closing <:+ cs) (ho : opening <+: cs) :
    ∃ n, regionLength? cs = some n := by
  obtain ⟨pre, rfl⟩ := h
  have hat : closing <+: (pre ++ closing).drop pre.length := by rw [List.drop_left]
  have hfar := opening_apart (i := 0) (by simpa using ho) hat (by omega)
  have hat' : closing <+: ((pre ++ closing).drop 16).drop (pre.length - 16) := by
    rw [List.drop_drop, show 16 + (pre.length - 16) = pre.length by omega]
    exact hat
  obtain ⟨m, _, hm⟩ := exists_position? closing_ne_nil hat'
  exact ⟨m + 36, regionLength?_eq_some_iff.2 ⟨ho, m, hm, rfl⟩⟩

private theorem regionLength?_append {cs : List Char} {n : Nat} (h : regionLength? cs = some n)
    (rest : List Char) : regionLength? (cs ++ rest) = some n ∧ n ≤ cs.length := by
  obtain ⟨ho, m, hm, rfl⟩ := regionLength?_eq_some_iff.1 h
  have hlen : 16 ≤ cs.length := length_opening ▸ ho.length_le
  have hclose := ((position?_eq_some_iff closing_ne_nil).1 hm).1.length_le
  rw [length_closing, List.drop_drop, List.length_drop] at hclose
  refine ⟨regionLength?_eq_some_iff.2 ⟨ho.trans (List.prefix_append _ _), m, ?_, rfl⟩, by omega⟩
  rw [List.drop_append_of_le_length hlen]
  exact position?_append closing_ne_nil hm rest

private theorem outside_append_of_ending (cs rest : List Char) (h : Ending cs) :
    outside (cs ++ rest) = outside cs ++ outside rest := by
  induction hn : cs.length using Nat.strongRecOn generalizing cs with
  | ind k ih =>
    cases cs with
    | nil => rfl
    | cons c tail =>
      cases hr : regionLength? (c :: tail) with
      | some n =>
        -- a region at the front is the same one with or without the rest
        obtain ⟨hr', hle⟩ := regionLength?_append hr rest
        obtain ⟨_, m, _, hm⟩ := regionLength?_eq_some_iff.1 hr
        rw [outside_of_region hr', outside_of_region hr, List.drop_append_of_le_length hle]
        refine ih _ ?_ _ (h.of_suffix (List.drop_suffix _ _)) rfl
        rw [List.length_drop]
        omega
      | none =>
        have hno : regionLength? (c :: tail ++ rest) = none := by
          by_contra hsome
          obtain ⟨n, hn'⟩ := Option.ne_none_iff_exists'.1 hsome
          have ho := (regionLength?_eq_some_iff.1 hn').1
          rcases h with h | h
          · exact not_opening_of_tail h (by simp) ho
          · have hlen : opening.length ≤ (c :: tail).length := by
              have := h.length_le
              rw [length_closing] at this
              rw [length_opening]
              omega
            have ho' := List.prefix_of_prefix_length_le ho (List.prefix_append _ _) hlen
            obtain ⟨n', hn''⟩ := regionLength?_of_ending h ho'
            rw [hr] at hn''
            cases hn''
        rw [List.cons_append] at hno ⊢
        rw [outside_of_no_region hno, outside_of_no_region hr, List.cons_append]
        congr 1
        exact ih tail.length (by rw [← hn]; simp) tail (h.of_suffix (List.suffix_cons c tail)) rfl

/-- Deleting regions is compatible with appending to a text that ends in a closing marker. -/
theorem outside_append {cs : List Char} (h : closing <:+ cs) (rest : List Char) :
    outside (cs ++ rest) = outside cs ++ outside rest :=
  outside_append_of_ending cs rest (.inr h)

/-- A text without the first character of an opening marker is kept as it is. -/
theorem outside_append_of_plain {cs : List Char} (h : '<' ∉ cs) (rest : List Char) :
    outside (cs ++ rest) = cs ++ outside rest := by
  induction cs with
  | nil => rfl
  | cons c tail ih =>
    simp only [List.mem_cons, not_or] at h
    have hno : regionLength? (c :: (tail ++ rest)) = none := by
      by_contra hsome
      obtain ⟨n, hn⟩ := Option.ne_none_iff_exists'.1 hsome
      have ho := (regionLength?_eq_some_iff.1 hn).1
      rw [opening_eq, List.cons_prefix_cons] at ho
      exact h.1 ho.1
    rw [List.cons_append, outside_of_no_region hno, ih h.2, List.cons_append]

/-! ### Confined values -/

/-- `Confined` in terms of places in the value. -/
private theorem confined_iff {value : List Char} :
    Confined value ↔ ∀ i, closing <+: value.drop i → opening <+: value.drop (i + 20) := by
  constructor
  · rintro h i ⟨after, hafter⟩
    have hsplit : value = value.take i ++ closing ++ after := by
      rw [List.append_assoc, hafter, List.take_append_drop]
    have hdrop : value.drop (i + 20) = after := by
      rw [← List.drop_drop, ← hafter, ← length_closing, List.drop_left]
    rw [hdrop]
    exact h _ _ hsplit
  · rintro h before after rfl
    have := h before.length (by rw [List.append_assoc, List.drop_left]; exact List.prefix_append _ _)
    rwa [← List.drop_drop, List.append_assoc, List.drop_left, ← length_closing, List.drop_left] at this

/-- A value is confined if its first closing marker is followed by an opening one and what comes then is
confined. -/
private theorem confined_iff_of_reopened {value : List Char} {n : Nat} (hc : closing <+: value.drop n)
    (hmin : ∀ i < n, ¬ closing <+: value.drop i) (ho : opening <+: value.drop (n + 20)) :
    Confined value ↔ Confined (value.drop (n + 36)) := by
  rw [confined_iff, confined_iff]
  constructor
  · intro h i hi
    rw [List.drop_drop] at hi ⊢
    exact h (n + 36 + i) hi
  · intro h i hi
    have hle : n ≤ i := Nat.le_of_not_lt fun hlt => hmin i hlt hi
    rcases Nat.eq_or_lt_of_le hle with rfl | hlt
    · exact ho
    · have h20 := closing_apart hc hi hlt
      have h36 := opening_apart ho hi h20
      have := h (i - (n + 36)) (by rwa [List.drop_drop, show n + 36 + (i - (n + 36)) = i by omega])
      rwa [List.drop_drop, show n + 36 + (i - (n + 36) + 20) = i + 20 by omega] at this

private theorem outside_delimited {value : List Char} {n : Nat}
    (h : position? closing (value ++ closing) = some n) :
    outside (opening ++ value ++ closing) = outside ((value ++ closing).drop (n + 20)) := by
  have hr : regionLength? (opening ++ value ++ closing) = some (n + 36) := by
    refine regionLength?_eq_some_iff.2 ⟨?_, n, ?_, rfl⟩
    · rw [List.append_assoc]
      exact List.prefix_append _ _
    · rw [List.append_assoc, ← length_opening, List.drop_left]
      exact h
  rw [outside_of_region hr, List.append_assoc, show n + 36 = 16 + (n + 20) by omega, ← List.drop_drop,
    ← length_opening, List.drop_left]

/-- A value without a closing marker is confined. -/
theorem Confined.of_not_closing {value : List Char} (h : ¬ closing <:+: value) : Confined value := by
  rintro before after rfl
  exact absurd ⟨before, after, rfl⟩ h

/-- A closing marker put after a text does not complete an opening one that the text starts with. -/
private theorem not_opening_append_closing {cs : List Char} (h : ¬ opening <+: cs) : ¬ opening <+: cs ++ closing := by
  intro hp
  by_cases hlong : 16 ≤ cs.length
  · rw [← length_opening] at hlong
    exact h (List.prefix_of_prefix_length_le hp (List.prefix_append _ _) hlong)
  · -- the opening marker would reach into the closing marker
    refine opening_closing cs.length (by omega) (overlap hp ?_)
    rw [List.drop_left]

private theorem outside_append_closing_ne_nil {cs : List Char} (h : ¬ opening <+: cs) :
    outside (cs ++ closing) ≠ [] := by
  have hno : regionLength? (cs ++ closing) = none := by
    by_contra hsome
    obtain ⟨m, hm⟩ := Option.ne_none_iff_exists'.1 hsome
    exact not_opening_append_closing h (regionLength?_eq_some_iff.1 hm).1
  obtain ⟨c, tail, htail⟩ := List.exists_cons_of_ne_nil (List.append_ne_nil_of_right_ne_nil cs closing_ne_nil)
  rw [htail] at hno ⊢
  rw [outside_of_no_region hno]
  exact List.cons_ne_nil _ _

/-- A value between its markers leaves nothing outside regions exactly if it is confined. -/
theorem outside_delimited_eq_nil_iff (value : List Char) :
    outside (opening ++ value ++ closing) = [] ↔ Confined value := by
  induction hk : value.length using Nat.strongRecOn generalizing value with
  | ind k ih =>
    have hend : closing <+: (value ++ closing).drop value.length := by rw [List.drop_left]
    obtain ⟨n, hle, hn⟩ := exists_position? closing_ne_nil hend
    obtain ⟨hat, hmin⟩ := (position?_eq_some_iff closing_ne_nil).1 hn
    have hmin' : ∀ i < n, ¬ closing <+: value.drop i := by
      intro i hi hp
      refine hmin i hi ?_
      rw [List.drop_append_of_le_length (by omega)]
      exact hp.trans (List.prefix_append _ _)
    rw [outside_delimited hn]
    rcases Nat.eq_or_lt_of_le hle with rfl | hlt
    · -- the first closing marker is the one that was put after the value
      have hdrop : (value ++ closing).drop (value.length + 20) = [] := by
        rw [List.drop_eq_nil_iff, List.length_append, length_closing]
      have hnone : ¬ closing <:+: value := by
        rintro ⟨before, after, rfl⟩
        refine hmin' before.length ?_ ?_
        · simp only [List.length_append, length_closing]
          omega
        · rw [List.append_assoc, List.drop_left]
          exact List.prefix_append _ _
      rw [hdrop]
      exact iff_of_true rfl (.of_not_closing hnone)
    · have hroom := closing_apart hat hend hlt
      have hc : closing <+: value.drop n := by
        rw [List.drop_append_of_le_length hle] at hat
        refine List.prefix_of_prefix_length_le hat (List.prefix_append _ _) ?_
        rw [length_closing, List.length_drop]
        omega
      rw [List.drop_append_of_le_length hroom]
      by_cases ho : opening <+: value.drop (n + 20)
      · -- the value reopens a region, and the rest of it is a shorter value
        obtain ⟨rest, hrest⟩ := ho
        have hrest' : value.drop (n + 36) = rest := by
          rw [show n + 36 = n + 20 + 16 by omega, ← List.drop_drop, ← hrest, ← length_opening, List.drop_left]
        rw [confined_iff_of_reopened hc hmin' ⟨rest, hrest⟩, ← hrest, hrest']
        refine ih rest.length ?_ rest rfl
        have := congrArg List.length hrest'
        rw [List.length_drop] at this
        omega
      · have hspill : ¬ Confined value := fun h => ho (confined_iff.1 h n hc)
        exact iff_of_false (outside_append_closing_ne_nil ho) hspill

end Promptbook.Render
