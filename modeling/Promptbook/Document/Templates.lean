import Promptbook.Failure.Basic
import Promptbook.Text.Lines

/-!
# The two templates of a body

The body of a prompt document holds two headings, each on a line of its own.  What stands between the first
system heading and the first user heading after it is the system template; what follows is the user template,
with all further headings.
-/

namespace Promptbook.Document

open Promptbook.Text

/-- A space or a tab. -/
def isGap (c : Char) : Bool :=
  c == ' ' || c == '\t'

theorem eq_of_isGap {c : Char} (h : isGap c = true) : c = ' ' ∨ c = '\t' := by
  simpa [isGap] using h

/-- The lower-case letter as which a character counts in a heading; the long s counts as an s. -/
def foldCase (c : Char) : Char :=
  if c == 'ſ' then 's' else c.toLower

/-- Drops a carriage return from the end. -/
def dropFinalReturn (cs : List Char) : List Char :=
  if cs.getLast? = some '\r' then cs.dropLast else cs

/-- Is the line a heading with the given word: a number sign, gaps, and the word in any case? -/
def isHeading (word : String) : List Char → Bool
  | '#' :: rest =>
    let title := dropEndWhile isGap (dropFinalReturn (rest.dropWhile isGap))
    (match rest with
      | [] => false
      | c :: _ => isGap c) && title.map foldCase == word.toList.map foldCase
  | _ => false

/-- The lines before and after the first line of a kind. -/
def splitAtLine (p : List Char → Bool) : List (List Char) → Option (List (List Char) × List (List Char))
  | [] => none
  | line :: lines =>
    if p line then some ([], lines) else (splitAtLine p lines).map fun r => (line :: r.1, r.2)

/-- The two templates. -/
structure Templates where
  system : List Char
  user : List Char
deriving Repr, DecidableEq

/-- Splits a body into its templates. -/
def splitTemplates (body : List Char) : Except Failure Templates :=
  match splitAtLine (isHeading "System") (splitAtNewline body) with
  | none => .error (.missingSection "System")
  | some (_, lines) =>
    match splitAtLine (isHeading "User") lines with
    | none => .error (.missingSection "User")
    | some (system, user) => .ok ⟨strip (unlines system), strip (unlines user)⟩

end Promptbook.Document
