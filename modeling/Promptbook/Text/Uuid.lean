import Promptbook.Text.Blank
import Promptbook.Text.Digit
import Promptbook.Text.Quoted

/-!
# Universally unique identifiers

An identifier of 32 hexadecimal digits, shown in five groups with dashes.  It may be read with a name space in
front, in braces and with dashes anywhere; what is left must be a hexadecimal number of 32 characters.
-/

namespace Promptbook.Text

open Promptbook.Number

/-- Why a text is no identifier: it has another length, or it is no hexadecimal number. -/
inductive UuidFault
  | malformed
  | notHexadecimal (rest : List Char)
deriving Repr, DecidableEq

/-- The message of a fault. -/
def UuidFault.message : UuidFault → List Char
  | malformed => "badly formed hexadecimal UUID string".toList
  | notHexadecimal rest => "invalid literal for int() with base 16: ".toList ++ quoted rest

/-- The value of a hexadecimal digit: a decimal digit of any script, or a letter in either case. -/
def hexDigitValue? (c : Char) : Option Nat :=
  (digitValue? c).orElse fun _ =>
    if 'a' ≤ c.toLower && c.toLower ≤ 'f' then some (c.toLower.toNat - 'a'.toNat + 10) else none

theorem hexDigitValue?_lt {c : Char} {d : Nat} (h : hexDigitValue? c = some d) : d < 16 := by
  unfold hexDigitValue? at h
  cases hd : digitValue? c with
  | some e =>
    simp only [hd, Option.orElse_some, Option.some.injEq] at h
    have := digitValue?_lt hd
    omega
  | none =>
    simp only [hd, Option.orElse_none, Bool.and_eq_true, decide_eq_true_eq] at h
    split at h
    · rename_i hc
      simp only [Option.some.injEq] at h
      have : c.toLower.toNat ≤ 'f'.toNat := hc.2
      simp only [show 'f'.toNat = 102 from rfl, show 'a'.toNat = 97 from rfl] at *
      omega
    · simp at h

/-- Reads hexadecimal digits on top of a value; an underscore may stand between two of them. -/
def readHexDigits? (value : Nat) (afterDigit : Bool) : List Char → Option Nat
  | [] => if afterDigit then some value else none
  | c :: rest =>
    match hexDigitValue? c with
    | some d => readHexDigits? (16 * value + d) true rest
    | none => if afterDigit && c == '_' then readHexDigits? value false rest else none

/-- Drops a character from the front if it is there. -/
def skipChar (c : Char) : List Char → List Char
  | [] => []
  | d :: rest => if d == c then rest else d :: rest

/-- Reads a hexadecimal number, perhaps with white space around it, a plus and a mark of its base. -/
def readHex? (cs : List Char) : Option Nat :=
  match skipChar '+' (trim isSpace cs) with
  | '0' :: c :: rest =>
    if c == 'x' || c == 'X' then readHexDigits? 0 false (skipChar '_' rest)
    else readHexDigits? 0 false ('0' :: c :: rest)
  | digits => readHexDigits? 0 false digits

/-- Drops a word wherever it stands; `skip` characters of one are still to be dropped. -/
def withoutWordFrom (word : List Char) : Nat → List Char → List Char
  | _, [] => []
  | skip + 1, _ :: rest => withoutWordFrom word skip rest
  | 0, c :: rest =>
    if word.isPrefixOf (c :: rest) then withoutWordFrom word (word.length - 1) rest
    else c :: withoutWordFrom word 0 rest

/-- Drops a word wherever it stands. -/
def withoutWord (word : String) (cs : List Char) : List Char :=
  withoutWordFrom word.toList 0 cs

/-- The digits of an identifier in groups with dashes. -/
def uuidText (n : Nat) : List Char :=
  let ds := hexText 32 n
  ds.take 8 ++ '-' :: (ds.drop 8).take 4 ++ '-' :: (ds.drop 12).take 4 ++ '-' :: (ds.drop 16).take 4 ++
    '-' :: ds.drop 20

/-- Reads an identifier, as the text that shows it. -/
def readUuid (cs : List Char) : Except UuidFault (List Char) :=
  let named := withoutWord "uuid:" (withoutWord "urn:" cs)
  let hex := (trim (fun c => c == '\x7b' || c == '\x7d') named).filter (· != '-')
  if hex.length != 32 then .error .malformed
  else
    match readHex? hex with
    | some n => .ok (uuidText n)
    | none => .error (.notHexadecimal hex)

end Promptbook.Text
