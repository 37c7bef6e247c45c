import Promptbook.Entries
import Promptbook.Metadata.Scalar

/-!
# Metadata blocks

A metadata block is read line by line.  A line that starts with a key opens an entry; its value stands behind
the colon or in the indented lines that follow, up to the next line that is not indented.  Blank lines and
lines that start with `#` after their indentation mean nothing by themselves, but such a line without
indentation also ends the children of the entry before it.

`sections` cuts the lines into entries, `Section.entry` reads one of them, and `parse` puts them in order.
-/

namespace Promptbook.Metadata

open Promptbook.Text

/-- A scalar or a flat list of scalars. -/
inductive Item
  | scalar (s : Scalar)
  | list (items : List Scalar)
deriving Repr

/-- The value of a key: an item, or one level of keys with items. -/
inductive Entry
  | item (i : Item)
  | mapping (items : Entries Item)
deriving Repr

/-- A block: keys with their values. -/
abbrev Block := Entries Entry

/-- The name that a text starts with, and the rest. -/
def splitName? : List Char → Option (List Char × List Char)
  | [] => none
  | c :: rest => if isNameStart c then some (c :: rest.takeWhile isWord, rest.dropWhile isWord) else none

/-- Reads a key with a colon off the front of a line: the key and the text behind the colon, without the
blanks around it. -/
def readKey? (line : List Char) : Option (String × List Char) := do
  let (name, rest) ← splitName? line
  match rest.dropWhile isBlank with
  | ':' :: value => some (String.ofList name, strip value)
  | _ => none

/-- Does the line hold something, from its first character on? -/
def isOutdented : List Char → Bool
  | [] => false
  | c :: _ => !isBlank c

/-- Does the line hold something other than a comment? -/
def isContent (line : List Char) : Bool :=
  match strip line with
  | [] => false
  | c :: _ => c != '#'

/-- An entry as it stands in the text: the key, the text behind the colon, and the indented lines below it. -/
structure Section where
  key : String
  value : List Char
  children : List (List Char)
deriving Repr, DecidableEq

/-- The indented lines before the first line that is not indented, and the entries from there on. -/
def gather : List (List Char) → List (List Char) × List Section
  | [] => ([], [])
  | line :: lines =>
    let r := gather lines
    if isOutdented line then
      match readKey? line with
      | some (key, value) => ([], ⟨key, value, r.1⟩ :: r.2)
      | none => ([], r.2)
    else if isContent line then (strip line :: r.1, r.2)
    else r

/-- The entries of some lines. -/
def sections (lines : List (List Char)) : List Section :=
  (gather lines).2

/-- Does the text stand between brackets? -/
def isBracketed (cs : List Char) : Bool :=
  cs.head? = some '[' && cs.getLast? = some ']'

/-- Reads the value behind a colon. -/
def parseItem (cs : List Char) : Except Misuse Item :=
  if cs.isEmpty then .ok (.scalar .null)
  else if isBracketed cs then (parseInlineArray cs).map .list
  else (parseScalar cs).map .scalar

/-- The text of a list item that a child line holds. -/
def bullet? : List Char → Option (List Char)
  | '-' :: ' ' :: rest => some (strip rest)
  | _ => none

/-- Reads child lines as keys with items; a line without a key means nothing. -/
def parseMapping : Entries Item → List (List Char) → Except Misuse (Entries Item)
  | items, [] => .ok items
  | items, child :: children =>
    match readKey? child with
    | none => parseMapping items children
    | some (key, value) => do
      let item ← parseItem value
      parseMapping (items.put key item) children

/-- Reads the value of an entry.  Children make a list if the first of them is a list item, and keys with
items otherwise. -/
def Section.entry (s : Section) : Except Misuse Entry :=
  if s.value.isEmpty then
    match s.children with
    | [] => .ok (.item (.scalar .null))
    | child :: children =>
      if (bullet? child).isSome then
        (((child :: children).filterMap bullet?).mapM parseScalar).map fun items => .item (.list items)
      else (parseMapping [] (child :: children)).map .mapping
  else (parseItem s.value).map .item

/-- Reads entries into a block. -/
def readSections : Block → List Section → Except Misuse Block
  | block, [] => .ok block
  | block, s :: rest => do
    let entry ← s.entry
    readSections (block.put s.key entry) rest

/-- Reads a metadata block. -/
def parse (cs : List Char) : Except Misuse Block :=
  readSections [] (sections (splitLines cs))

end Promptbook.Metadata
