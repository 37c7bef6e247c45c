import Promptbook.Text.Blank

/-!
# Lines

`splitLines` cuts a text at every line boundary and keeps no boundary; a carriage return and the line feed
after it are one boundary, and a boundary at the very end opens no further line.  `splitAtNewline` cuts at
line feeds only and always gives at least one line; `unlines` is its inverse.
-/

namespace Promptbook.Text

/-- The characters that end a line: line feed, vertical tab, form feed, carriage return, the file, group and
record separators, next line, and the line and paragraph separators. -/
def isLineBreak (c : Char) : Bool :=
  let n := c.toNat
  (10 ≤ n && n ≤ 13) || (28 ≤ n && n ≤ 30) || n == 133 || n == 8232 || n == 8233

/-- Cuts a text into lines; `current` holds the line being read, last character first. -/
def splitLinesFrom : List Char → List Char → List (List Char)
  | current, [] => if current.isEmpty then [] else [current.reverse]
  | current, '\r' :: '\n' :: rest => current.reverse :: splitLinesFrom [] rest
  | current, c :: rest =>
    if isLineBreak c then current.reverse :: splitLinesFrom [] rest else splitLinesFrom (c :: current) rest

/-- The lines of a text, without their boundaries. -/
def splitLines (cs : List Char) : List (List Char) :=
  splitLinesFrom [] cs

/-- The pieces between the line feeds of a text. -/
def splitAtNewline : List Char → List (List Char)
  | [] => [[]]
  | c :: rest =>
    if c = '\n' then
      [] :: splitAtNewline rest
    else
      match splitAtNewline rest with
      | [] => [[c]]
      | line :: lines => (c :: line) :: lines

/-- Joins lines with line feeds. -/
def unlines : List (List Char) → List Char
  | [] => []
  | [line] => line
  | line :: next :: lines => line ++ '\n' :: unlines (next :: lines)

theorem splitAtNewline_ne_nil (cs : List Char) : splitAtNewline cs ≠ [] := by
  induction cs with
  | nil => simp [splitAtNewline]
  | cons c rest ih =>
    by_cases h : c = '\n'
    · simp [splitAtNewline, h]
    · simp only [splitAtNewline, if_neg h]
      split <;> simp

/-- Cutting at line feeds loses nothing. -/
theorem unlines_splitAtNewline (cs : List Char) : unlines (splitAtNewline cs) = cs := by
  induction cs with
  | nil => rfl
  | cons c rest ih =>
    by_cases h : c = '\n'
    · rw [splitAtNewline, if_pos h]
      cases hr : splitAtNewline rest with
      | nil => exact absurd hr (splitAtNewline_ne_nil rest)
      | cons line lines => rw [unlines, ← hr, ih, h]; rfl
    · rw [splitAtNewline, if_neg h]
      cases hr : splitAtNewline rest with
      | nil => exact absurd hr (splitAtNewline_ne_nil rest)
      | cons line lines =>
        rw [hr] at ih
        cases lines with
        | nil => simpa [unlines] using ih
        | cons next more => simpa [unlines] using ih

/-- Turns every carriage return that a line feed follows into that line feed alone. -/
def unifyNewlines : List Char → List Char
  | [] => []
  | '\r' :: '\n' :: rest => '\n' :: unifyNewlines rest
  | c :: rest => c :: unifyNewlines rest

end Promptbook.Text
