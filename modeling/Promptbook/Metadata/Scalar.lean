import Promptbook.Failure.Misuse
import Promptbook.Text.Lines
import Promptbook.Text.Word

/-!
# Scalars and inline arrays

The smallest parts of a metadata block.  A scalar is nothing, a truth value, a number or a text; an inline
array is a list of scalars between brackets, cut at the commas outside quotes.
-/

namespace Promptbook.Metadata

open Promptbook.Number Promptbook.Text

/-- A scalar. -/
inductive Scalar
  | null
  | bool (b : Bool)
  | int (n : Int)
  | float (x : Float)
  | text (s : String)
deriving Repr

/-- Drops a line feed from the end. -/
def dropFinalNewline (cs : List Char) : List Char :=
  if cs.getLast? = some '\n' then cs.dropLast else cs

/-- Is the text an integer literal: digits with or without a sign? -/
def isIntegerLiteral (cs : List Char) : Bool :=
  let ds := (splitSign cs).2
  !ds.isEmpty && ds.all isDigit

/-- Is the text an exponent part, or nothing at all? -/
def isExponentPart : List Char → Bool
  | [] => true
  | e :: rest => (e == 'e' || e == 'E') && isIntegerLiteral rest

/-- Is the text a decimal literal: digits with at most one point, a sign before and an exponent part after
them? -/
def isDecimalLiteral (cs : List Char) : Bool :=
  let unsigned := (splitSign cs).2
  let whole := unsigned.takeWhile isDigit
  match unsigned.dropWhile isDigit with
  | '.' :: rest =>
    (!whole.isEmpty || startsWithDigit rest) && isExponentPart (rest.dropWhile isDigit)
  | rest => !whole.isEmpty && isExponentPart rest

/-- Is the character a quote? -/
def isQuote (c : Char) : Bool :=
  c == '"' || c == '\''

/-- The text between two equal quotes. -/
def unquote? : List Char → Option (List Char)
  | [] => none
  | quote :: rest => if isQuote quote && rest.getLast? = some quote then some rest.dropLast else none

/-- The integer of an integer literal. -/
def integerScalar (cs : List Char) : Except Misuse Scalar :=
  match readInt cs with
  | .ok n => .ok (.int n)
  | .error (.tooLong digits) => .error (.integerTooLong digits)
  | .error .malformed => .ok (.text (String.ofList cs))

/-- The number of a decimal literal. -/
def decimalScalar (cs : List Char) : Scalar :=
  match readFloat? cs with
  | some x => .float x
  | none => .text (String.ofList cs)

/-- Reads a scalar.  A text that is no word for nothing or a truth value, stands in no quotes and is no number
is kept as it is; an integer with too many digits is refused. -/
def parseScalar (cs : List Char) : Except Misuse Scalar :=
  let word := String.ofList cs
  if word == "null" || word == "~" then .ok .null
  else if word == "true" then .ok (.bool true)
  else if word == "false" then .ok (.bool false)
  else
    match unquote? cs with
    | some inner => .ok (.text (String.ofList inner))
    | none =>
      let literal := dropFinalNewline cs
      if isIntegerLiteral literal then integerScalar cs
      else if isDecimalLiteral literal then .ok (decimalScalar cs)
      else .ok (.text word)

/-- The open quote after a character. -/
def nextQuote (openQuote : Option Char) (c : Char) : Option Char :=
  match openQuote with
  | none => if isQuote c then some c else none
  | some quote => if c = quote then none else some quote

/-- Cuts a text at the commas outside quotes, given the quote that is open at its start. -/
def splitElements (openQuote : Option Char) : List Char → List (List Char)
  | [] => [[]]
  | c :: rest =>
    if openQuote = none ∧ c = ',' then [] :: splitElements none rest
    else
      match splitElements (nextQuote openQuote c) rest with
      | [] => [[c]]
      | element :: elements => (c :: element) :: elements

/-- The list without an empty text at its end. -/
def dropEmptyLast (elements : List (List Char)) : List (List Char) :=
  if elements.getLast? = some [] then elements.dropLast else elements

/-- The element texts of what stands between the brackets of an inline array. -/
def elementTexts (inner : List Char) : List (List Char) :=
  dropEmptyLast ((splitElements none (strip inner)).map strip)

/-- Reads an inline array; the first and the last character are its brackets. -/
def parseInlineArray (cs : List Char) : Except Misuse (List Scalar) :=
  (elementTexts (cs.drop 1).dropLast).mapM parseScalar

end Promptbook.Metadata
