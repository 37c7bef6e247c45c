import Promptbook.Document.Parse
import Promptbook.Proofs.Metadata.Refusals
import Promptbook.Proofs.Number.Rounding

/-!
# Outcomes of reading a document

A document that is read gives a complete prompt, with defaults for what it leaves out (`Complete`).  Otherwise
the failure should be one of the four kinds by which documents are refused.  Two conversions break this: an
integer with too many digits, and an integer beyond all floating point numbers in a field that is a number.
`Oversized` says when one of them is met, and `parseDocument_closed_iff` that nothing else lets a failure escape.
-/

namespace Promptbook.Document

open Promptbook.Number Promptbook.Text Promptbook.Metadata

/-! ### Escapes -/

/-- The kinds of failures by which a document is refused. -/
def reportedKinds : List String :=
  ["FrontmatterParseError", "MissingFieldError", "InvalidFieldError", "MissingSectionError"]

/-- Is the failure one by which a document is refused? -/
def IsReported (failure : Failure) : Prop :=
  failure.isDocumentFailure = true ∧ failure.kindName ∈ reportedKinds

/-- The kinds of failures that escape. -/
def escapingKinds : List String :=
  ["ValueError", "OverflowError"]

/-- A failure escapes from the reader if the condition holds, and otherwise the document is read or refused. -/
structure EscapesIf {α : Type} (condition : Prop) (r : Except Failure α) : Prop where
  escaped : condition → ∃ m, r = .error (.misuse m) ∧ m.kindName ∈ escapingKinds
  contained : ¬condition → (∃ x, r = .ok x) ∨ ∃ failure, r = .error failure ∧ IsReported failure

namespace EscapesIf

variable {α β : Type} {p : Prop} {r : Except Failure α}

theorem congr {q : Prop} (h : EscapesIf p r) (hpq : p ↔ q) : EscapesIf q r :=
  ⟨fun hq => h.escaped (hpq.2 hq), fun hq => h.contained (mt hpq.1 hq)⟩

theorem ok (x : α) : EscapesIf False (.ok x : Except Failure α) :=
  ⟨False.elim, fun _ => .inl ⟨x, rfl⟩⟩

theorem reported {failure : Failure} (h : IsReported failure) : EscapesIf False (.error failure : Except Failure α) :=
  ⟨False.elim, fun _ => .inr ⟨failure, rfl, h⟩⟩

/-- A later reader lets a failure escape only if the earlier one gives a result. -/
theorem bind {q : α → Prop} (h : EscapesIf p r) {f : α → Except Failure β} (hf : ∀ x, EscapesIf (q x) (f x)) :
    EscapesIf (p ∨ ∃ x, r = .ok x ∧ q x) (r >>= f) := by
  by_cases hp : p
  · obtain ⟨m, rfl, hm⟩ := h.escaped hp
    exact ⟨fun _ => ⟨m, rfl, hm⟩, fun hnot => absurd (.inl hp) hnot⟩
  · rcases h.contained hp with ⟨x, rfl⟩ | ⟨failure, rfl, hfailure⟩
    · exact (hf x).congr (by simp [hp])
    · exact (reported hfailure).congr (by simp [hp])

end EscapesIf

private theorem isReported_missingField (field : String) : IsReported (.missingField field) := by
  refine ⟨rfl, ?_⟩
  simp [Failure.kindName, reportedKinds]

private theorem isReported_invalidField (field reason : String) : IsReported (.invalidField field reason) := by
  refine ⟨rfl, ?_⟩
  simp [Failure.kindName, reportedKinds]

private theorem isReported_missingSection (name : String) : IsReported (.missingSection name) := by
  refine ⟨rfl, ?_⟩
  simp [Failure.kindName, reportedKinds]

private theorem isReported_badFrontmatter (message : String) (details : Value) :
    IsReported (.badFrontmatter message details) := by
  refine ⟨rfl, ?_⟩
  simp [Failure.kindName, reportedKinds]

/-! ### Numbers in fields -/

/-- The integer that a value denotes, if it denotes one. -/
def integerOf? : Entry → Option Int
  | .item (.scalar (.int n)) => some n
  | .item (.scalar (.text s)) => (readInt (strip s.toList)).toOption
  | _ => none

/-- Is there a value, and does it denote an integer that no finite number is nearest to? -/
def IsHuge (e : Option Entry) : Prop :=
  ∃ n, e.bind integerOf? = some n ∧ overflowBound ≤ n.natAbs

private theorem integerQuantity_eq (n : Int) :
    integerQuantity n = if n.natAbs < overflowBound then .ok (some (.int n)) else .error .integerTooLarge := by
  rw [integerQuantity]
  by_cases h : n.natAbs < overflowBound
  · rw [if_pos h, if_pos ((isFinite_ofInt n).2 h)]
  · rw [if_neg h, if_neg (mt (isFinite_ofInt n).1 h)]

private theorem quantity_of_integer {e : Entry} {n : Int} (h : integerOf? e = some n) :
    quantity e = integerQuantity n := by
  unfold integerOf? at h
  split at h
  · obtain rfl := Option.some.inj h
    rfl
  · next s =>
    cases hread : readInt (strip s.toList) with
    | ok m =>
      rw [hread] at h
      obtain rfl := Option.some.inj h
      simp only [quantity, textQuantity, hread]
    | error fault =>
      rw [hread] at h
      cases h
  · cases h

private theorem quantity_of_no_integer {e : Entry} (h : integerOf? e = none) : ∃ q, quantity e = .ok q := by
  unfold quantity
  split
  · cases h
  · exact ⟨_, rfl⟩
  · next s =>
    rw [textQuantity]
    cases hread : readInt (strip s.toList) with
    | ok m => simp [integerOf?, hread, Except.toOption] at h
    | error fault => exact ⟨_, rfl⟩
  · exact ⟨_, rfl⟩

theorem requireQuantity_escapesIf (field : String) (e : Entry) :
    EscapesIf (IsHuge (some e)) (requireQuantity field e) := by
  have hread : ∀ q, quantity e = .ok q → EscapesIf False (requireQuantity field e) := by
    intro q hq
    cases q with
    | none =>
      rw [requireQuantity, hq]
      exact .reported (isReported_invalidField _ _)
    | some q =>
      rw [requireQuantity, hq]
      exact .ok q
  cases hint : integerOf? e with
  | none =>
    obtain ⟨q, hq⟩ := quantity_of_no_integer hint
    exact (hread q hq).congr (by simp [IsHuge, hint])
  | some n =>
    have hquantity := (quantity_of_integer hint).trans (integerQuantity_eq n)
    by_cases hn : n.natAbs < overflowBound
    · rw [if_pos hn] at hquantity
      exact (hread _ hquantity).congr (by simp [IsHuge, hint, hn])
    · rw [if_neg hn] at hquantity
      have hhuge : IsHuge (some e) := ⟨n, hint, not_lt.1 hn⟩
      rw [requireQuantity, hquantity]
      exact ⟨fun _ => ⟨_, rfl, by simp [Misuse.kindName, escapingKinds]⟩, fun hnot => absurd hhuge hnot⟩

/-! ### Fields -/

private theorem requireText_escapesIf (block : Block) (field : String) :
    EscapesIf False (requireText block field) := by
  unfold requireText
  split
  · exact .reported (isReported_missingField field)
  · exact .ok _

private theorem requireVersion_escapesIf (block : Block) :
    EscapesIf (IsHuge (present? block "version")) (requireVersion block) := by
  unfold requireVersion
  cases present? block "version" with
  | none => exact (EscapesIf.reported (isReported_missingField _)).congr (by simp [IsHuge])
  | some e =>
    have hquantity := requireQuantity_escapesIf "version" e
    simp only
    cases hread : requireQuantity "version" e with
    | error failure =>
      rw [hread] at hquantity
      refine ⟨fun hhuge => ?_, fun hhuge => ?_⟩
      · obtain ⟨m, hm, hkind⟩ := hquantity.escaped hhuge
        exact ⟨m, congrArg Except.error (Except.error.inj hm), hkind⟩
      · rcases hquantity.contained hhuge with ⟨q, hq⟩ | ⟨f, hf, hreported⟩
        · cases hq
        · exact .inr ⟨f, congrArg Except.error (Except.error.inj hf), hreported⟩
    | ok q =>
      -- what was read was not too large, so the tests that follow only refuse
      have hnot : ¬IsHuge (some e) := fun hhuge => by
        obtain ⟨m, hm, -⟩ := hquantity.escaped hhuge
        rw [hread] at hm
        cases hm
      simp only
      split
      · exact (EscapesIf.reported (isReported_invalidField _ _)).congr (by simp [hnot])
      · split
        · exact (EscapesIf.reported (isReported_invalidField _ _)).congr (by simp [hnot])
        · exact (EscapesIf.ok _).congr (by simp [hnot])

private theorem optionalQuantity_escapesIf (field : String) (e : Option Entry) :
    EscapesIf (IsHuge e) (optionalQuantity field e) := by
  cases e with
  | none => exact (EscapesIf.ok none).congr (by simp [IsHuge])
  | some e => exact ((requireQuantity_escapesIf field e).bind fun q => .ok (some q)).congr (by simp)

private theorem outputFormat_escapesIf (e : Option Entry) : EscapesIf False (outputFormat e) := by
  unfold outputFormat
  split
  · exact .ok _
  · split
    · exact .ok _
    · exact .reported (isReported_invalidField _ _)

/-- The fields of a block are read in order: is a number that no finite number is nearest to met before any
field that is refused? -/
def MeetsHugeField (block : Block) : Prop :=
  let params := mappingOf (block.get? "params")
  (∃ id, requireText block "id" = .ok id) ∧
    (IsHuge (present? block "version") ∨
      (∃ version, requireVersion block = .ok version) ∧
        (IsHuge (present? params "temperature") ∨
          (∃ q, optionalQuantity "params.temperature" (present? params "temperature") = .ok q) ∧
            IsHuge (present? params "max_tokens")))

theorem promptOf_escapesIf (block : Block) (templates : Templates) :
    EscapesIf (MeetsHugeField block) (promptOf block templates) := by
  refine ((requireText_escapesIf block "id").bind fun _ => (requireVersion_escapesIf block).bind fun _ =>
    (optionalQuantity_escapesIf "params.temperature" _).bind fun _ =>
      (optionalQuantity_escapesIf "params.max_tokens" _).bind fun _ =>
        (outputFormat_escapesIf _).bind fun _ => .ok _).congr ?_
  simp only [MeetsHugeField, false_or, and_false, exists_false, or_false, exists_and_right]

/-! ### Documents -/

private theorem splitFrontmatter_escapesIf (cs : List Char) : EscapesIf False (splitFrontmatter cs) := by
  unfold splitFrontmatter
  split
  · exact .reported (isReported_badFrontmatter _ _)
  · split
    · exact .reported (isReported_badFrontmatter _ _)
    · exact .ok _

private theorem splitTemplates_escapesIf (body : List Char) : EscapesIf False (splitTemplates body) := by
  unfold splitTemplates
  split
  · exact .reported (isReported_missingSection _)
  · split
    · exact .reported (isReported_missingSection _)
    · exact .ok _

/-- Does reading the document come to an integer with too many digits, or to an integer that no finite number is
nearest to in a field that is a number? -/
def Oversized (raw : String) : Prop :=
  ∃ frontmatter, splitFrontmatter raw.toList = .ok frontmatter ∧
    (HoldsLongInteger frontmatter.block ∨
      ∃ block, parse frontmatter.block = .ok block ∧
        ∃ templates, splitTemplates frontmatter.body = .ok templates ∧ MeetsHugeField block)

private theorem readBlock_eq_ok {cs : List Char} {block : Block} :
    readBlock cs = .ok block ↔ parse cs = .ok block := by
  unfold readBlock
  cases parse cs <;> simp

private theorem readBlock_escapesIf (cs : List Char) : EscapesIf (HoldsLongInteger cs) (readBlock cs) := by
  have hparse := parse_refusedIf cs
  unfold readBlock
  constructor
  · intro hlong
    obtain ⟨digits, -, hread⟩ := hparse.refused hlong
    rw [hread]
    exact ⟨_, rfl, by simp [Misuse.kindName, escapingKinds]⟩
  · intro hlong
    obtain ⟨block, hread⟩ := hparse.read hlong
    rw [hread]
    exact .inl ⟨block, rfl⟩

/-- A document is read in four steps. -/
theorem parseDocument_eq (raw : String) :
    parseDocument raw = (splitFrontmatter raw.toList >>= fun frontmatter =>
      readBlock frontmatter.block >>= fun block =>
        splitTemplates frontmatter.body >>= fun templates => promptOf block templates) := by
  unfold parseDocument readPrompt readParts
  simp only [bind_assoc, pure_bind]

theorem parseDocument_escapesIf (raw : String) : EscapesIf (Oversized raw) (parseDocument raw) := by
  rw [parseDocument_eq]
  refine ((splitFrontmatter_escapesIf raw.toList).bind fun frontmatter =>
    (readBlock_escapesIf frontmatter.block).bind fun block =>
      (splitTemplates_escapesIf frontmatter.body).bind fun templates => promptOf_escapesIf block templates).congr ?_
  simp only [Oversized, false_or, readBlock_eq_ok]

/-! ### Complete prompts -/

/-- A prompt with a version from one on, and with the defaults for what its block leaves out. -/
structure Complete (block : Block) (p : Prompt) : Prop where
  version_pos : 1 ≤ p.version
  variant : present? block "variant" = none → p.variant = none
  description : block.get? "description" = none → p.description = ""
  models : block.get? "models" = none → p.models = []
  temperature : present? (mappingOf (block.get? "params")) "temperature" = none →
    p.params.temperature = Params.defaultTemperature
  maxTokens : present? (mappingOf (block.get? "params")) "max_tokens" = none →
    p.params.maxTokens = Params.defaultMaxTokens
  required : (mappingOf (block.get? "inputs")).get? "required" = none → p.inputs.required = []
  optional : (mappingOf (block.get? "inputs")).get? "optional" = none → p.inputs.optional = []
  format : present? (mappingOf (block.get? "outputs")) "format" = none → p.outputs.format = .text
  schema : present? (mappingOf (block.get? "outputs")) "schema" = none → p.outputs.schema = none
  notes : block.get? "notes" = none → p.notes = []

theorem version_pos_of_requireVersion {block : Block} {n : Int} (h : requireVersion block = .ok n) : 1 ≤ n := by
  unfold requireVersion at h
  split at h
  · cases h
  · split at h
    · cases h
    · split at h
      · cases h
      · split at h
        · cases h
        · next hpos =>
          obtain rfl := Except.ok.inj h
          omega

/-- What is read from a block is complete. -/
theorem complete_of_promptOf {block : Block} {templates : Templates} {p : Prompt}
    (h : promptOf block templates = .ok p) : Complete block p := by
  obtain ⟨id, -, h⟩ := bind_eq_ok_iff.1 h
  obtain ⟨version, hversion, h⟩ := bind_eq_ok_iff.1 h
  obtain ⟨temperature, htemperature, h⟩ := bind_eq_ok_iff.1 h
  obtain ⟨maxTokens, hmaxTokens, h⟩ := bind_eq_ok_iff.1 h
  obtain ⟨format, hformat, h⟩ := bind_eq_ok_iff.1 h
  obtain rfl := Except.ok.inj h
  constructor
  · exact version_pos_of_requireVersion hversion
  · intro hnone
    simp [hnone, Key.variantOf]
  · intro hnone
    simp [hnone]
  · intro hnone
    simp [hnone, textList]
  · intro hnone
    rw [hnone, optionalQuantity, Except.ok.injEq] at htemperature
    simp [← htemperature]
  · intro hnone
    rw [hnone, optionalQuantity, Except.ok.injEq] at hmaxTokens
    simp [← hmaxTokens]
  · intro hnone
    simp [hnone, textList]
  · intro hnone
    simp [hnone, textList]
  · intro hnone
    rw [hnone] at hformat
    exact (Except.ok.inj hformat).symm
  · intro hnone
    simp [hnone]
  · intro hnone
    simp [hnone, mappingOf]

/-- A document that is read gives a complete prompt. -/
theorem complete_of_parseDocument {raw : String} {p : Prompt} (h : parseDocument raw = .ok p) :
    ∃ frontmatter block, splitFrontmatter raw.toList = .ok frontmatter ∧ parse frontmatter.block = .ok block ∧
      Complete block p := by
  rw [parseDocument_eq] at h
  obtain ⟨frontmatter, hfrontmatter, h⟩ := bind_eq_ok_iff.1 h
  obtain ⟨block, hblock, h⟩ := bind_eq_ok_iff.1 h
  obtain ⟨templates, -, h⟩ := bind_eq_ok_iff.1 h
  exact ⟨frontmatter, block, hfrontmatter, readBlock_eq_ok.1 hblock, complete_of_promptOf h⟩

/-- A document is read into a complete prompt or refused, exactly if it is not oversized; otherwise a failure of
another kind escapes. -/
theorem parseDocument_closed_iff (raw : String) :
    ((∃ p frontmatter block, parseDocument raw = .ok p ∧ splitFrontmatter raw.toList = .ok frontmatter ∧
          parse frontmatter.block = .ok block ∧ Complete block p) ∨
        (∃ failure, parseDocument raw = .error failure ∧ IsReported failure) ↔ ¬Oversized raw) ∧
      (Oversized raw → ∃ m, parseDocument raw = .error (.misuse m) ∧ m.kindName ∈ escapingKinds) := by
  have houtcome := parseDocument_escapesIf raw
  refine ⟨⟨?_, fun hsize => ?_⟩, houtcome.escaped⟩
  · intro hclosed hsize
    obtain ⟨m, hm, -⟩ := houtcome.escaped hsize
    rcases hclosed with ⟨p, _, _, hp, -⟩ | ⟨failure, hfailure, hreported⟩
    · rw [hm] at hp
      cases hp
    · rw [hm] at hfailure
      obtain rfl := Except.error.inj hfailure
      cases hreported.1
  · rcases houtcome.contained hsize with ⟨p, hp⟩ | hreported
    · obtain ⟨frontmatter, block, hcomplete⟩ := complete_of_parseDocument hp
      exact .inl ⟨p, frontmatter, block, hp, hcomplete⟩
    · exact .inr hreported

/-- A version beyond all floating point numbers lets a failure of another kind escape. -/
theorem overflow_escapes_of_huge_version :
    parseDocument (String.ofList ("---\nid: a\nversion: 1".toList ++ List.replicate 309 '0' ++
        "\n---\n\n# System\ns\n\n# User\nu".toList)) = .error (.misuse .integerTooLarge) ∧
      ¬IsReported (.misuse .integerTooLarge) := by
  refine ⟨?_, fun hreported => Bool.false_ne_true hreported.1⟩
  have hoverflow : (match (do
      let frontmatter ← splitFrontmatter ("---\nid: a\nversion: 1".toList ++ List.replicate 309 '0' ++
        "\n---\n\n# System\ns\n\n# User\nu".toList)
      let block ← readBlock frontmatter.block
      let templates ← splitTemplates frontmatter.body
      promptOf block templates) with
      | .error (.misuse m) => m == .integerTooLarge
      | _ => false) = true := by
    decide +kernel
  rw [parseDocument_eq, String.toList_ofList]
  revert hoverflow
  split
  · next m heq =>
    intro hm
    rw [beq_iff_eq] at hm
    rw [← hm]
    exact heq
  · intro h
    cases h

end Promptbook.Document
