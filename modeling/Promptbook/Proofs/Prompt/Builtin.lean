import Mathlib
import Promptbook.Prompt.Catalog
import Promptbook.Proofs.Metadata.Refusals
import Promptbook.Proofs.Render.Outcome

/-!
# The built-in prompts are read

The documents of the built-in prompts are long.  Lines and their characters are put side by side once (`Spells`), and
then the reader is run on the characters.  What is seen of the prompts in this way is what they are known by, the
inputs that they declare and the placeholders in their templates (`exists_interfaces`).
-/

namespace Promptbook

namespace Document

/-- The templates of a document become those of its prompt. -/
theorem templates_of_promptOf {block : Metadata.Block} {templates : Templates} {p : Prompt}
    (h : promptOf block templates = .ok p) :
    p.system = String.ofList templates.system ∧ p.user = String.ofList templates.user := by
  obtain ⟨id, -, h⟩ := Metadata.bind_eq_ok_iff.1 h
  obtain ⟨version, -, h⟩ := Metadata.bind_eq_ok_iff.1 h
  obtain ⟨temperature, -, h⟩ := Metadata.bind_eq_ok_iff.1 h
  obtain ⟨maxTokens, -, h⟩ := Metadata.bind_eq_ok_iff.1 h
  obtain ⟨format, -, h⟩ := Metadata.bind_eq_ok_iff.1 h
  obtain rfl := Except.ok.inj h
  exact ⟨rfl, rfl⟩

end Document

namespace Catalog

open Promptbook.Document

/-- The characters of each line of a document. -/
inductive Spells : List (List Char) → List String → Prop
  | nil : Spells [] []
  | cons {cs : List Char} {line : String} {css : List (List Char)} {lines : List String} :
    String.ofList cs = line → Spells css lines → Spells (cs :: css) (line :: lines)

/-- The characters of a document with these characters in its lines. -/
def documentChars (css : List (List Char)) : List Char :=
  css.flatMap fun cs => cs ++ ['\n']

theorem Spells.toList_documentText {css : List (List Char)} {lines : List String} (h : Spells css lines) :
    (documentText lines).toList = documentChars css := by
  induction h with
  | nil => rfl
  | cons hline h ih =>
    subst hline
    rw [documentText] at ih ⊢
    rw [List.map_cons, documentChars, List.flatMap_cons]
    simp [String.join_cons, ih, documentChars]

theorem Spells.parseDocument_eq {css : List (List Char)} {lines : List String} (h : Spells css lines) :
    parseDocument (documentText lines) = readPrompt (documentChars css) := by
  rw [parseDocument, h.toList_documentText]

theorem mapM_parseDocument_eq {texts : List (List (List Char))} {docs : List (List String)}
    (h : List.Forall₂ Spells texts docs) :
    (docs.mapM fun lines => parseDocument (documentText lines)) = (texts.map documentChars).mapM readPrompt := by
  induction h with
  | nil => rfl
  | cons hspells _ ih => rw [List.map_cons, List.mapM_cons, List.mapM_cons, hspells.parseDocument_eq, ih]

/-- What a prompt is known by. -/
def partsOf (p : Prompt) : Key.Parts :=
  ⟨p.id, p.version, p.variant⟩

/-- What the built-in prompts are known by. -/
def builtinParts : List Key.Parts :=
  [⟨"research_business", 2, none⟩, ⟨"generate_site", 2, none⟩, ⟨"score_quality", 2, none⟩, ⟨"site_copy", 3, none⟩,
    ⟨"site_copy", 3, some "b"⟩]

/-- What callers see of a prompt: what it is known by, the inputs that it declares, and the placeholders in its
templates. -/
structure Interface where
  parts : Key.Parts
  inputs : InputNames
  placeholders : List String
deriving Repr, DecidableEq

/-- What callers see of a prompt. -/
def interfaceOf (p : Prompt) : Interface :=
  ⟨partsOf p, p.inputs, p.usedPlaceholders⟩

/-- The placeholders of two templates. -/
def placeholdersIn (templates : Templates) : List String :=
  (Template.pieces templates.system).filterMap Template.Piece.name? ++
    (Template.pieces templates.user).filterMap Template.Piece.name?

theorem usedPlaceholders_eq {p : Prompt} {templates : Templates} (hsystem : p.system = String.ofList templates.system)
    (huser : p.user = String.ofList templates.user) : p.usedPlaceholders = placeholdersIn templates := by
  rw [Prompt.usedPlaceholders, Template.names, Template.names, hsystem, huser, String.toList_ofList,
    String.toList_ofList, placeholdersIn]

/-- What callers see of marketing copy. -/
def siteCopyInterface (variant : Option String) : Interface :=
  ⟨⟨"site_copy", 3, variant⟩, ⟨["businessName", "city", "services", "tone"], []⟩,
    ["businessName", "city", "services", "tone"]⟩

/-- What callers see of the built-in prompts. -/
def builtinInterfaces : List Interface :=
  [⟨⟨"research_business", 2, none⟩,
      ⟨["business_name"], ["business_phone", "business_address", "google_place_id", "additional_context"]⟩,
      ["business_name", "business_phone", "business_address", "google_place_id", "additional_context"]⟩,
    ⟨⟨"generate_site", 2, none⟩, ⟨["research_data"], []⟩, ["research_data"]⟩,
    ⟨⟨"score_quality", 2, none⟩, ⟨["html_content"], []⟩, ["html_content"]⟩,
    siteCopyInterface none, siteCopyInterface (some "b")]

/-- Reads what callers see of a prompt from the characters of its document. -/
def readInterface (cs : List Char) : Except Failure Interface := do
  let parts ← readParts cs
  let p ← promptOf parts.block parts.templates
  return ⟨partsOf p, p.inputs, placeholdersIn parts.templates⟩

/-- The placeholders are those of the prompt, although they are looked up in the templates of its document. -/
theorem readInterface_eq (cs : List Char) : readInterface cs = (readPrompt cs).map interfaceOf := by
  rw [readInterface, readPrompt]
  cases readParts cs with
  | error failure => rfl
  | ok parts =>
    show (promptOf parts.block parts.templates >>= _) = (promptOf parts.block parts.templates).map interfaceOf
    cases hprompt : promptOf parts.block parts.templates with
    | error failure => rfl
    | ok p =>
      obtain ⟨hsystem, huser⟩ := templates_of_promptOf hprompt
      exact congrArg Except.ok (by rw [interfaceOf, usedPlaceholders_eq hsystem huser])

theorem mapM_readInterface_eq (texts : List (List Char)) :
    texts.mapM readInterface = (texts.mapM readPrompt).map (List.map interfaceOf) := by
  induction texts with
  | nil => rfl
  | cons cs texts ih =>
    rw [List.mapM_cons, List.mapM_cons, ih, readInterface_eq]
    cases readPrompt cs with
    | error failure => rfl
    | ok p => cases texts.mapM readPrompt <;> rfl

-- The kernel is quick on lists of characters but not on long texts, so the lines are spelt first and then read.
private theorem exists_spelt_documents : ∃ texts, List.Forall₂ Spells texts documents ∧
    ((texts.map documentChars).mapM readInterface).toOption = some builtinInterfaces := by
  constructor
  constructor
  · repeat' first | exact .nil | apply List.Forall₂.cons | (apply Spells.cons; · rfl)
  · decide +kernel

/-- All built-in documents are read. -/
theorem exists_interfaces : ∃ ps, prompts = .ok ps ∧ ps.map interfaceOf = builtinInterfaces := by
  obtain ⟨texts, hspells, hinterfaces⟩ := exists_spelt_documents
  rw [prompts, mapM_parseDocument_eq hspells]
  rw [mapM_readInterface_eq] at hinterfaces
  cases hread : (texts.map documentChars).mapM readPrompt with
  | error failure =>
    rw [hread] at hinterfaces
    cases hinterfaces
  | ok ps =>
    rw [hread] at hinterfaces
    exact ⟨ps, rfl, Option.some.inj hinterfaces⟩

section

variable {ps : List Prompt}

theorem interfaces_of_prompts (h : prompts = .ok ps) : ps.map interfaceOf = builtinInterfaces := by
  obtain ⟨qs, hqs, hinterfaces⟩ := exists_interfaces
  obtain rfl : ps = qs := Except.ok.inj (h.symm.trans hqs)
  exact hinterfaces

theorem parts_of_prompts (h : prompts = .ok ps) : ps.map partsOf = builtinParts := by
  have hparts := congrArg (List.map Interface.parts) (interfaces_of_prompts h)
  rwa [List.map_map] at hparts

/-- The versions of the built-in prompts have few digits. -/
theorem isLong_of_prompts (h : prompts = .ok ps) : ∀ p ∈ ps, Number.isLong p.version = false := by
  have hsmall : ∀ parts ∈ builtinParts, parts.version.natAbs < 100 := by decide
  intro p hp
  exact Number.isLong_of_lt_hundred (hsmall _ (parts_of_prompts h ▸ List.mem_map_of_mem hp))

end

end Catalog
end Promptbook
