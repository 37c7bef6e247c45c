import Promptbook.Text.Utf8

/-!
# FNV-1a

The 32-bit FNV-1a hash: every byte is combined into the hash by exclusive or, and the hash is multiplied by a
prime.
-/

namespace Promptbook.Hash

open Promptbook.Text

/-- The hash of no bytes. -/
def fnvBasis : UInt32 := 2166136261

/-- The odd factor of every step. -/
def fnvPrime : UInt32 := 16777619

/-- Takes a byte into a hash. -/
def fnvStep (h : UInt32) (byte : UInt8) : UInt32 :=
  (h ^^^ byte.toUInt32) * fnvPrime

/-- The hash of bytes that follow what has the hash `h`. -/
def fnvFrom (h : UInt32) (data : List UInt8) : UInt32 :=
  data.foldl fnvStep h

/-- The hash of a text's UTF-8 encoding. -/
def fnv (s : String) : Nat :=
  (fnvFrom fnvBasis (utf8 s.toList)).toNat

theorem fnvFrom_append (h : UInt32) (xs ys : List UInt8) :
    fnvFrom h (xs ++ ys) = fnvFrom (fnvFrom h xs) ys := by
  simp [fnvFrom]

end Promptbook.Hash
