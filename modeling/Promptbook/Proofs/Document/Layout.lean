import Promptbook.Document.Parse
import Promptbook.Proofs.Metadata.Writing
import Promptbook.Proofs.Number.Rounding

/-!
# Laying out a prompt

`layout` writes a prompt as a document: the fences, the entries of the block with every text in double quotes, the
models as a block list, the input names as inline arrays, and the two templates under their headings.  What is
empty is left out or written as a bare key.  `IsPlain` says which prompts can be laid out: no line break in a text
of the block, no double quote in an input name, templates without blanks at their ends, and numbers of moderate
size, of which the temperature is given by a literal.
-/

namespace Promptbook.Document

open Promptbook.Number Promptbook.Text Promptbook.Metadata

/-! ### Literals -/

/-- The magnitude that a literal denotes. -/
def literalMagnitude (t : List Char) : ℚ :=
  let n := numeralOf (splitSign t).2
  ofDigits (n.whole ++ n.fraction) * 10 ^ (n.exponent - n.fraction.length)

/-- The floating point number that a literal denotes: the one nearest to its integer or to its decimal. -/
def literalFloat (t : List Char) : Float :=
  let n := numeralOf (splitSign t).2
  if isIntegerLiteral t then ofInt (withSign (splitSign t).1 (ofDigits n.whole)) else n.toFloat (splitSign t).1

/-! ### Entries -/

/-- The choices that a document leaves. -/
structure Form where
  /-- Is the key written when there is nothing to write under it? -/
  bare : String → Bool
  /-- Does the output format stand in double quotes? -/
  quotesFormat : Bool

/-- The output format as it is written. -/
def Form.formatText (form : Form) (format : OutputFormat) : List Char :=
  if form.quotesFormat then doubleQuoted format.word.toList else format.word.toList

/-- A part that is written or left out. -/
def part {α : Type} (write : Bool) (x : α) : List α :=
  if write then [x] else []

/-- The lines below the key of the inputs. -/
def inputLines (form : Form) (names : InputNames) : List (List Char) :=
  part (form.bare "required" || !names.required.isEmpty)
      (keyLine "required".toList (inlineArray (names.required.map String.toList))) ++
    part (form.bare "optional" || !names.optional.isEmpty)
      (keyLine "optional".toList (inlineArray (names.optional.map String.toList)))

/-- The lines below the key of the outputs. -/
def outputLines (form : Form) (outputs : Outputs) : List (List Char) :=
  keyLine "format".toList (form.formatText outputs.format) ::
    part outputs.schema.isSome (keyLine "schema".toList (doubleQuoted (outputs.schema.getD "").toList))

/-- The entries of the block of a prompt whose temperature is given by a literal. -/
def layoutSections (form : Form) (t : List Char) (p : Prompt) : List Section :=
  [⟨"id", doubleQuoted p.id.toList, []⟩, ⟨"version", intText p.version, []⟩] ++
    part p.variant.isSome ⟨"variant", doubleQuoted (p.variant.getD "").toList, []⟩ ++
    part (form.bare "description" || !p.description.isEmpty) ⟨"description", doubleQuoted p.description.toList, []⟩ ++
    part (form.bare "models" || !p.models.isEmpty) ⟨"models", [], (p.models.map String.toList).map bulletLine⟩ ++
    [⟨"params", [], [keyLine "temperature".toList t, keyLine "max_tokens".toList (intText p.params.maxTokens)]⟩] ++
    part (form.bare "inputs" || !(inputLines form p.inputs).isEmpty) ⟨"inputs", [], inputLines form p.inputs⟩ ++
    [⟨"outputs", [], outputLines form p.outputs⟩] ++
    part (form.bare "notes" || !p.notes.isEmpty)
      ⟨"notes", [], p.notes.map fun n => keyLine n.1.toList (doubleQuoted n.2.toList)⟩

/-- The line above and below the block. -/
def fence : List Char :=
  "---".toList

/-- The line above the system template. -/
def systemHeading : List Char :=
  "# System".toList

/-- The line above the user template. -/
def userHeading : List Char :=
  "# User".toList

/-- The lines of the block. -/
def blockLines (form : Form) (t : List Char) (p : Prompt) : List (List Char) :=
  (layoutSections form t p).flatMap Section.lines

/-- A prompt as a document. -/
def layout (form : Form) (t : List Char) (p : Prompt) : String :=
  String.ofList (unlines ([fence] ++ blockLines form t p ++
    [fence, [], systemHeading, p.system.toList, [], userHeading, p.user.toList, []]))

/-! ### Prompts that can be laid out -/

/-- Has the template no blanks at its ends and no carriage return? -/
def IsTrimmed (s : String) : Prop :=
  strip s.toList = s.toList ∧ '\r' ∉ s.toList

/-- Can the prompt be laid out, with its temperature written as the literal? -/
structure IsPlain (t : List Char) (p : Prompt) : Prop where
  id : OneLine p.id.toList
  version : 1 ≤ p.version ∧ p.version ≤ 10 ^ 308
  variant : ∀ v ∈ p.variant, v ≠ "" ∧ OneLine v.toList
  description : OneLine p.description.toList
  models : ∀ m ∈ p.models, OneLine m.toList
  literal : IsLiteral t ∧ literalMagnitude t ≤ 10 ^ 308
  temperature : p.params.temperature = literalFloat t
  maxTokens : p.params.maxTokens.natAbs ≤ 10 ^ 308
  required : ∀ n ∈ p.inputs.required, OneLine n.toList ∧ '"' ∉ n.toList
  optional : ∀ n ∈ p.inputs.optional, OneLine n.toList ∧ '"' ∉ n.toList
  schema : ∀ s ∈ p.outputs.schema, OneLine s.toList
  notes : ∀ n ∈ p.notes, IsName n.1.toList ∧ OneLine n.2.toList
  noteKeys : p.notes.keys.Nodup
  system : IsTrimmed p.system
  heading : ∀ line ∈ splitAtNewline p.system.toList, isHeading "User" line = false
  user : IsTrimmed p.user

end Promptbook.Document
