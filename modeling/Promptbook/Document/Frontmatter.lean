import Promptbook.Failure.Basic
import Promptbook.Text.Lines

/-!
# Frontmatter and body

A prompt document opens with a metadata block between two fences of three dashes.  `splitFrontmatter` gives
the text of the block and the text of the body after it.
-/

namespace Promptbook.Document

open Promptbook.Text

/-- The text after an opening fence. -/
def afterFence? : List Char → Option (List Char)
  | '-' :: '-' :: '-' :: rest => some rest
  | _ => none

/-- The text before the first line that starts with a fence, and the text after that fence. -/
def splitAtFence : List Char → Option (List Char × List Char)
  | [] => none
  | c :: rest =>
    match if c = '\n' then afterFence? rest else none with
    | some after => some ([], after)
    | none => (splitAtFence rest).map fun r => (c :: r.1, r.2)

/-- The metadata block and the body of a document. -/
structure Frontmatter where
  block : List Char
  body : List Char
deriving Repr, DecidableEq

/-- Splits a document into its metadata block and its body.  The character right after the opening fence
belongs to neither: it is taken for the end of the line. -/
def splitFrontmatter (cs : List Char) : Except Failure Frontmatter :=
  match afterFence? (strip (unifyNewlines cs)) with
  | none => .error (.badFrontmatter "Prompt document must start with frontmatter delimiter (---)" (.table []))
  | some rest =>
    match splitAtFence rest with
    | none => .error (.badFrontmatter "Prompt document has unclosed frontmatter" (.table []))
    | some (before, after) => .ok ⟨strip (before.drop 1), strip after⟩

end Promptbook.Document
