import Promptbook.Failure.Basic
import Promptbook.Metadata.Scalar

/-!
# Prompt keys

A prompt is stored under the key `id@version`, a variant of it under `id@version:variant`.  `Key.build` writes
a key, which fails for a version with too many digits, and `Key.parse` reads one.
-/

namespace Promptbook.Key

open Promptbook.Number Promptbook.Text

/-- The parts of a key. -/
structure Parts where
  id : String
  version : Int
  variant : Option String
deriving Repr, DecidableEq

/-- The variant that a name stands for: the empty name stands for none. -/
def variantOf (name : Option String) : Option String :=
  name.filter fun s => !s.isEmpty

/-- The key of an id, the text of a version, and a variant. -/
def join (id version : String) (variant : Option String) : String :=
  match variantOf variant with
  | some name => id ++ "@" ++ version ++ ":" ++ name
  | none => id ++ "@" ++ version

/-- The text of the key of an identity. -/
def text (id : String) (version : Int) (variant : Option String) : String :=
  join id (String.ofList (intText version)) variant

/-- The key of an identity.  A version with too many digits cannot be written. -/
def build (id : String) (version : Int) (variant : Option String) : Except Misuse String :=
  (integerText version).map fun digits => join id digits variant

theorem build_of_short {version : Int} (h : isLong version = false) (id : String) (variant : Option String) :
    build id version variant = .ok (text id version variant) := by
  rw [build, integerText_of_short h]
  rfl

theorem build_of_long {version : Int} (h : isLong version = true) (id : String) (variant : Option String) :
    build id version variant = .error .integerTooLongToWrite := by
  rw [build, integerText_of_long h]
  rfl

theorem build_eq_ok_iff {id key : String} {version : Int} {variant : Option String} :
    build id version variant = .ok key ↔ isLong version = false ∧ key = text id version variant := by
  cases h : isLong version with
  | false => rw [build_of_short h, Except.ok.injEq, eq_comm, eq_self_iff_true, true_and]
  | true => simp [build_of_long h]

/-- The key of parts. -/
def Parts.key (p : Parts) : Except Misuse String :=
  build p.id p.version p.variant

/-- May the character stand in the id or the variant of a key that is read? -/
def isKeyChar (c : Char) : Bool :=
  c != '@' && c != ':' && !isBlank c

/-- What follows the version: nothing, or a colon and a variant. -/
def readVariant? : List Char → Option (Option String)
  | [] => some none
  | ':' :: name => if !name.isEmpty && name.all isKeyChar then some (some (String.ofList name)) else none
  | _ => none

/-- The id, the digits of the version and the variant of a text of the form of a key. -/
def split? (cs : List Char) : Option (List Char × List Char × Option String) :=
  match cs.dropWhile isKeyChar with
  | '@' :: rest =>
    let id := cs.takeWhile isKeyChar
    let version := rest.takeWhile isDigit
    if id.isEmpty || version.isEmpty then none
    else (readVariant? (rest.dropWhile isDigit)).map fun variant => (id, version, variant)
  | _ => none

/-- Reads a key; a line feed at its end is ignored. -/
def parse (key : String) : Except Failure Parts :=
  match split? (Metadata.dropFinalNewline key.toList) with
  | none => .error (.invalidKey key)
  | some (id, version, variant) =>
    match readInt version with
    | .ok n => .ok ⟨String.ofList id, n, variant⟩
    | .error (.tooLong digits) => .error (.misuse (.integerTooLong digits))
    | .error .malformed => .error (.invalidKey key)

end Promptbook.Key
