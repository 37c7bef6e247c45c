import Promptbook.Entries
import Promptbook.Number.Reading
import Promptbook.Number.Shortest
import Promptbook.Text.Quoted

/-!
# JSON

A JSON tree and its text.  A `Style` fixes what the format leaves open: escapes, the form of floating point
numbers, and the space between the parts.  `Json.sortKeys` puts the keys of all tables in the order of their
code points.
-/

namespace Promptbook

open Promptbook.Number Promptbook.Text

/-- A JSON tree. -/
inductive Json
  | null
  | bool (b : Bool)
  | int (n : Int)
  | float (x : Float)
  | text (s : String)
  | list (items : List Json)
  | table (entries : List (String × Json))
deriving Repr, Inhabited

namespace Json

/-- What the format leaves open. -/
structure Style where
  escape : Char → List Char
  layout : Layout
  keyMark : List Char
  itemMark : List Char
  gap : Nat → List Char

/-- The characters with a two-character escape. -/
def shortEscape? (c : Char) : Option Char :=
  if c == '"' || c == '\\' then some c
  else if c == '\n' then some 'n'
  else if c == '\r' then some 'r'
  else if c == '\t' then some 't'
  else if c == '\x08' then some 'b'
  else if c == '\x0c' then some 'f'
  else none

/-- The escape of a 16-bit unit. -/
def escapeUnit (n : Nat) : List Char :=
  '\\' :: 'u' :: hexText 4 n

/-- The escape of a code point; one beyond 16 bits becomes a pair of surrogates. -/
def escapeUnits (n : Nat) : List Char :=
  if n < 65536 then escapeUnit n
  else escapeUnit (55296 + (n - 65536) / 1024) ++ escapeUnit (56320 + (n - 65536) % 1024)

/-- Escapes everything but printable ASCII. -/
def escapeToAscii (c : Char) : List Char :=
  match shortEscape? c with
  | some e => ['\\', e]
  | none => if 32 ≤ c.toNat && c.toNat ≤ 126 then [c] else escapeUnits c.toNat

/-- Escapes only what must not stand in a JSON text. -/
def escapeControls (c : Char) : List Char :=
  match shortEscape? c with
  | some e => ['\\', e]
  | none => if c.toNat < 32 then escapeUnit c.toNat else [c]

/-- A new line, indented to a depth in steps of a width. -/
def newLine (width depth : Nat) : List Char :=
  '\n' :: List.replicate (width * depth) ' '

namespace Style

/-- Everything on one line, with a space after commas and colons, in ASCII. -/
def spaced : Style :=
  ⟨escapeToAscii, Layout.json, [':', ' '], [',', ' '], fun _ => []⟩

/-- Everything on one line without spaces, in ASCII. -/
def compact : Style :=
  ⟨escapeToAscii, Layout.json, [':'], [','], fun _ => []⟩

/-- Everything on one line without spaces, beyond ASCII as it is. -/
def wire : Style :=
  ⟨escapeControls, Layout.wire, [':'], [','], fun _ => []⟩

/-- The style with one item per line. -/
def indented (style : Style) (width : Nat) : Style :=
  { style with keyMark := [':', ' '], itemMark := [','], gap := newLine width }

/-- The style with one item per line if a width is given; a negative width counts as zero. -/
def withIndent (style : Style) : Option Int → Style
  | none => style
  | some width => style.indented width.toNat

end Style

/-- A text between quotes. -/
def textLiteral (style : Style) (s : String) : List Char :=
  '"' :: s.toList.flatMap style.escape ++ ['"']

/-- The items of a list or table between brackets; without items the brackets stand side by side. -/
def bracketed (style : Style) (depth : Nat) (opening closing : Char) (items : List (List Char)) : List Char :=
  if items.isEmpty then [opening, closing]
  else
    opening :: style.gap (depth + 1) ++ joined (style.itemMark ++ style.gap (depth + 1)) items ++
      style.gap depth ++ [closing]

mutual

/-- The text of a tree that stands at a depth. -/
def write (style : Style) (depth : Nat) : Json → List Char
  | null => "null".toList
  | bool b => (if b then "true" else "false").toList
  | int n => intText n
  | float x => style.layout.text x
  | text s => textLiteral style s
  | list items => bracketed style depth '[' ']' (writeItems style (depth + 1) items)
  | table entries => bracketed style depth '\x7b' '\x7d' (writeEntries style (depth + 1) entries)

/-- The texts of items. -/
def writeItems (style : Style) (depth : Nat) : List Json → List (List Char)
  | [] => []
  | j :: js => write style depth j :: writeItems style depth js

/-- The texts of entries. -/
def writeEntries (style : Style) (depth : Nat) : List (String × Json) → List (List Char)
  | [] => []
  | (k, j) :: es =>
    (textLiteral style k ++ style.keyMark ++ write style depth j) :: writeEntries style depth es

end

/-- The text of a tree. -/
def toText (style : Style) (j : Json) : String :=
  String.ofList (write style 0 j)

mutual

/-- Does the tree hold an integer with more digits than a text may have? -/
def holdsLongInteger : Json → Bool
  | int n => isLong n
  | list items => itemsHoldLongInteger items
  | table entries => entriesHoldLongInteger entries
  | _ => false

/-- Does an item hold an integer that is too long? -/
def itemsHoldLongInteger : List Json → Bool
  | [] => false
  | j :: js => holdsLongInteger j || itemsHoldLongInteger js

/-- Does an entry hold an integer that is too long? -/
def entriesHoldLongInteger : List (String × Json) → Bool
  | [] => false
  | (_, j) :: es => holdsLongInteger j || entriesHoldLongInteger es

end

mutual

/-- The tree with the entries of all tables in the order of their keys. -/
def sortKeys : Json → Json
  | list items => list (sortKeysItems items)
  | table entries => table (Entries.sorted (sortKeysEntries entries))
  | j => j

/-- Items with the entries of all tables in order. -/
def sortKeysItems : List Json → List Json
  | [] => []
  | j :: js => sortKeys j :: sortKeysItems js

/-- Entries whose values have the entries of all tables in order. -/
def sortKeysEntries : List (String × Json) → List (String × Json)
  | [] => []
  | (k, j) :: es => (k, sortKeys j) :: sortKeysEntries es

end

@[simp] theorem writeItems_eq_map (style : Style) (depth : Nat) (items : List Json) :
    writeItems style depth items = items.map (write style depth) := by
  induction items with
  | nil => simp [writeItems]
  | cons j js ih => simp [writeItems, ih]

@[simp] theorem writeEntries_eq_map (style : Style) (depth : Nat) (entries : List (String × Json)) :
    writeEntries style depth entries =
      entries.map fun e => textLiteral style e.1 ++ style.keyMark ++ write style depth e.2 := by
  induction entries with
  | nil => simp [writeEntries]
  | cons e es ih => simp [writeEntries, ih]

@[simp] theorem sortKeysItems_eq_map (items : List Json) : sortKeysItems items = items.map sortKeys := by
  induction items with
  | nil => simp [sortKeysItems]
  | cons j js ih => simp [sortKeysItems, ih]

@[simp] theorem sortKeysEntries_eq_map (entries : List (String × Json)) :
    sortKeysEntries entries = entries.map fun e => (e.1, sortKeys e.2) := by
  induction entries with
  | nil => simp [sortKeysEntries]
  | cons e es ih => simp [sortKeysEntries, ih]

end Json
end Promptbook
