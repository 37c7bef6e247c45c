import Promptbook.Metadata.Block
import Promptbook.Proofs.Metadata.Literals

/-!
# Blocks that cannot be read

A metadata block has no syntax errors: reading one fails only if a scalar in it is an integer literal with too
many digits, and then for this reason (`parse_refusedIf`).  The texts that are read as scalars are listed without
reading them: `itemTexts` for a value, `Section.scalarTexts` for an entry.
-/

namespace Promptbook.Metadata

open Promptbook.Number Promptbook.Text

/-! ### Results -/

section Results

variable {ε α β : Type} {r : Except ε α} {e : ε} {b : β}

theorem map_eq_error_iff {f : α → β} : r.map f = .error e ↔ r = .error e := by
  cases r <;> simp [Except.map]

theorem map_eq_ok_iff {f : α → β} : r.map f = .ok b ↔ ∃ a, r = .ok a ∧ f a = b := by
  cases r <;> simp [Except.map]

theorem bind_eq_error_iff {f : α → Except ε β} :
    r >>= f = .error e ↔ r = .error e ∨ ∃ a, r = .ok a ∧ f a = .error e := by
  cases r <;> simp [Bind.bind, Except.bind]

theorem bind_eq_ok_iff {f : α → Except ε β} : r >>= f = .ok b ↔ ∃ a, r = .ok a ∧ f a = .ok b := by
  cases r <;> simp [Bind.bind, Except.bind]

end Results

/-! ### Refusals -/

/-- The reader refuses an integer with too many digits if the condition holds, and gives a result otherwise. -/
structure RefusedIf {α : Type} (condition : Prop) (r : Except Misuse α) : Prop where
  refused : condition → ∃ digits, digitLimit < digits ∧ r = .error (.integerTooLong digits)
  read : ¬condition → ∃ x, r = .ok x

namespace RefusedIf

variable {α β : Type} {p q : Prop} {r : Except Misuse α}

theorem congr (h : RefusedIf p r) (hpq : p ↔ q) : RefusedIf q r :=
  ⟨fun hq => h.refused (hpq.2 hq), fun hq => h.read (mt hpq.1 hq)⟩

theorem ok (x : α) : RefusedIf False (.ok x : Except Misuse α) :=
  ⟨False.elim, fun _ => ⟨x, rfl⟩⟩

theorem map (h : RefusedIf p r) (f : α → β) : RefusedIf p (r.map f) := by
  constructor
  · intro hp
    obtain ⟨digits, hlimit, rfl⟩ := h.refused hp
    exact ⟨digits, hlimit, rfl⟩
  · intro hp
    obtain ⟨x, rfl⟩ := h.read hp
    exact ⟨f x, rfl⟩

theorem bind (h : RefusedIf p r) {f : α → Except Misuse β} (hf : ∀ x, RefusedIf q (f x)) :
    RefusedIf (p ∨ q) (r >>= f) := by
  by_cases hp : p
  · obtain ⟨digits, hlimit, rfl⟩ := h.refused hp
    exact ⟨fun _ => ⟨digits, hlimit, rfl⟩, fun hnot => absurd (.inl hp) hnot⟩
  · obtain ⟨x, rfl⟩ := h.read hp
    exact (hf x).congr (by simp [hp])

/-- Reading a list fails if reading one of its items does. -/
theorem mapM {γ : Type} {f : γ → Except Misuse α} {condition : γ → Prop} (hf : ∀ x, RefusedIf (condition x) (f x))
    (xs : List γ) : RefusedIf (∃ x ∈ xs, condition x) (xs.mapM f) := by
  induction xs with
  | nil => exact (ok []).congr (by simp)
  | cons x xs ih =>
    rw [List.mapM_cons]
    refine ((hf x).bind fun y => (ih.bind fun ys => ok (y :: ys))).congr ?_
    simp

end RefusedIf

/-! ### Scalars -/

/-- Is the text an integer literal with more digits than an integer may have? -/
def IsLongInteger (cs : List Char) : Prop :=
  isIntegerLiteral (dropFinalNewline cs) = true ∧ digitLimit < (splitSign (dropFinalNewline cs)).2.length

instance (cs : List Char) : Decidable (IsLongInteger cs) :=
  inferInstanceAs (Decidable (_ ∧ _))

private theorem parseScalar_of_not_integerLiteral {cs : List Char}
    (h : isIntegerLiteral (dropFinalNewline cs) = false) : ∃ s, parseScalar cs = .ok s := by
  simp only [parseScalar, h, Bool.false_eq_true, if_false]
  split
  · exact ⟨_, rfl⟩
  · split
    · exact ⟨_, rfl⟩
    · split
      · exact ⟨_, rfl⟩
      · split
        · exact ⟨_, rfl⟩
        · split <;> exact ⟨_, rfl⟩

theorem parseScalar_refusedIf (cs : List Char) : RefusedIf (IsLongInteger cs) (parseScalar cs) := by
  by_cases hliteral : isIntegerLiteral (dropFinalNewline cs) = true
  · rw [parseScalar_of_isIntegerLiteral rfl hliteral]
    by_cases hlimit : digitLimit < (splitSign (dropFinalNewline cs)).2.length
    · rw [if_pos hlimit]
      exact ⟨fun _ => ⟨_, hlimit, rfl⟩, fun hnot => absurd ⟨hliteral, hlimit⟩ hnot⟩
    · rw [if_neg hlimit]
      exact (RefusedIf.ok _).congr (by simp [IsLongInteger, hlimit])
  · have hfalse : isIntegerLiteral (dropFinalNewline cs) = false := by simpa using hliteral
    exact ⟨fun hlong => absurd hlong.1 hliteral, fun _ => parseScalar_of_not_integerLiteral hfalse⟩

/-! ### Entries -/

/-- The texts that a value is read from, scalar by scalar. -/
def itemTexts (cs : List Char) : List (List Char) :=
  if cs.isEmpty then []
  else if isBracketed cs then elementTexts (cs.drop 1).dropLast
  else [cs]

/-- The texts of the scalars of an entry. -/
def Section.scalarTexts (s : Section) : List (List Char) :=
  if s.value.isEmpty then
    match s.children with
    | [] => []
    | child :: children =>
      if (bullet? child).isSome then (child :: children).filterMap bullet?
      else ((child :: children).filterMap readKey?).flatMap fun e => itemTexts e.2
  else itemTexts s.value

theorem parseItem_refusedIf (cs : List Char) : RefusedIf (∃ t ∈ itemTexts cs, IsLongInteger t) (parseItem cs) := by
  unfold parseItem itemTexts
  split
  · exact (RefusedIf.ok _).congr (by simp)
  · split
    · exact (RefusedIf.mapM parseScalar_refusedIf _).map _
    · exact ((parseScalar_refusedIf cs).map _).congr (by simp)

theorem parseMapping_refusedIf (items : Entries Item) (children : List (List Char)) :
    RefusedIf (∃ t ∈ (children.filterMap readKey?).flatMap fun e => itemTexts e.2, IsLongInteger t)
      (parseMapping items children) := by
  induction children generalizing items with
  | nil => exact (RefusedIf.ok _).congr (by simp)
  | cons child children ih =>
    unfold parseMapping
    cases hkey : readKey? child with
    | none => simpa [hkey] using ih items
    | some e =>
      refine ((parseItem_refusedIf e.2).bind fun item => ih (items.put e.1 item)).congr ?_
      simp only [List.filterMap_cons_some hkey, List.flatMap_cons, List.mem_append, or_and_right, exists_or]

theorem Section.entry_refusedIf (s : Section) : RefusedIf (∃ t ∈ s.scalarTexts, IsLongInteger t) s.entry := by
  unfold Section.entry Section.scalarTexts
  split
  · cases s.children with
    | nil => exact (RefusedIf.ok _).congr (by simp)
    | cons child children =>
      simp only
      split
      · exact (RefusedIf.mapM parseScalar_refusedIf _).map _
      · exact (parseMapping_refusedIf [] (child :: children)).map _
  · exact (parseItem_refusedIf s.value).map _

/-! ### Blocks -/

/-- Does a scalar of the block have more digits than an integer may have? -/
def HoldsLongInteger (cs : List Char) : Prop :=
  ∃ s ∈ sections (splitLines cs), ∃ t ∈ s.scalarTexts, IsLongInteger t

private theorem readSections_refusedIf (block : Block) (ss : List Section) :
    RefusedIf (∃ s ∈ ss, ∃ t ∈ s.scalarTexts, IsLongInteger t) (readSections block ss) := by
  induction ss generalizing block with
  | nil => exact (RefusedIf.ok _).congr (by simp)
  | cons s rest ih =>
    refine (s.entry_refusedIf.bind fun entry => ih (block.put s.key entry)).congr ?_
    simp

/-- A block is read unless an integer in it has too many digits. -/
theorem parse_refusedIf (cs : List Char) : RefusedIf (HoldsLongInteger cs) (parse cs) :=
  readSections_refusedIf [] (sections (splitLines cs))

/-- Whatever is refused in a block is an integer with too many digits. -/
theorem parse_eq_error_iff (cs : List Char) :
    (∃ m, parse cs = .error m) ↔ ∃ digits, digitLimit < digits ∧ parse cs = .error (.integerTooLong digits) := by
  constructor
  · rintro ⟨m, hm⟩
    refine (parse_refusedIf cs).refused ?_
    by_contra hread
    obtain ⟨block, hblock⟩ := (parse_refusedIf cs).read hread
    rw [hblock] at hm
    cases hm
  · rintro ⟨digits, -, hrefused⟩
    exact ⟨_, hrefused⟩

end Promptbook.Metadata
