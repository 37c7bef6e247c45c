import Promptbook.Number.Decimal
import Promptbook.Text.Printable

/-!
# Quoted text

How a text is shown inside another value: between single quotes, or between double quotes if it holds a single
quote and no double quote.  Backslashes and the closing quote are escaped, and so is every character that is
not printable.
-/

namespace Promptbook.Text

open Promptbook.Number

/-- The quote a text is shown between. -/
def quoteFor (cs : List Char) : Char :=
  if cs.contains '\'' && !cs.contains '"' then '"' else '\''

/-- The escape of a code point: two, four or eight hexadecimal digits. -/
def escapeCode (n : Nat) : List Char :=
  if n < 256 then '\\' :: 'x' :: hexText 2 n
  else if n < 65536 then '\\' :: 'u' :: hexText 4 n
  else '\\' :: 'U' :: hexText 8 n

/-- How one character stands between the given quotes. -/
def quoteChar (quote c : Char) : List Char :=
  if c == quote || c == '\\' then ['\\', c]
  else if c == '\n' then ['\\', 'n']
  else if c == '\r' then ['\\', 'r']
  else if c == '\t' then ['\\', 't']
  else if isPrintable c then [c]
  else escapeCode c.toNat

/-- A text between quotes. -/
def quoted (cs : List Char) : List Char :=
  let quote := quoteFor cs
  quote :: cs.flatMap (quoteChar quote) ++ [quote]

/-- Bytes between quotes, marked with a `b`; a byte beyond ASCII is escaped. -/
def quotedBytes (data : List UInt8) : List Char :=
  let cs := data.map fun b => Char.ofNat b.toNat
  let quote := quoteFor cs
  let show1 c := if c.toNat < 128 then quoteChar quote c else escapeCode c.toNat
  'b' :: quote :: cs.flatMap show1 ++ [quote]

/-- Texts one after the other with a separator between them. -/
def joined (separator : List Char) : List (List Char) → List Char
  | [] => []
  | [cs] => cs
  | cs :: next :: rest => cs ++ separator ++ joined separator (next :: rest)

/-- Joins texts with a comma and a space. -/
def commaJoined (texts : List (List Char)) : List Char :=
  joined [',', ' '] texts

end Promptbook.Text
