/-!
# UTF-8

A text is encoded character by character.  Reading bytes back either gives the text or says where the first
fault is and how many bytes it spans, which is open if the bytes end inside a character.
-/

namespace Promptbook.Text

/-- The UTF-8 encoding of a text. -/
def utf8 (cs : List Char) : List UInt8 :=
  cs.flatMap String.utf8EncodeChar

/-- Where bytes stop being UTF-8, the byte there, and the number of bytes that cannot be read if it is
known. -/
structure Utf8Fault where
  position : Nat
  byte : UInt8
  length : Option Nat
deriving Repr, DecidableEq

/-- How many bytes follow a leading byte, and the range its second byte must lie in. -/
def continuation? (lead : Nat) : Option (Nat × Nat × Nat) :=
  if lead < 128 then some (0, 128, 191)
  else if 194 ≤ lead && lead ≤ 223 then some (1, 128, 191)
  else if lead == 224 then some (2, 160, 191)
  else if lead == 237 then some (2, 128, 159)
  else if 225 ≤ lead && lead ≤ 239 then some (2, 128, 191)
  else if lead == 240 then some (3, 144, 191)
  else if 241 ≤ lead && lead ≤ 243 then some (3, 128, 191)
  else if lead == 244 then some (3, 128, 143)
  else none

/-- The payload of a leading byte that `more` bytes follow. -/
def leadPayload (lead more : Nat) : Nat :=
  if more == 0 then lead else lead % Nat.pow 2 (6 - more)

/-- What is being read: nothing, or a character that began at a position with a byte, has taken some bytes,
misses some more, and whose next byte must lie in a range. -/
structure PartialChar where
  lead : UInt8
  taken : Nat
  missing : Nat
  low : Nat
  high : Nat
  code : Nat

/-- Reads bytes from a position on. -/
def readUtf8From (position : Nat) : Option PartialChar → List UInt8 → Except Utf8Fault (List Char)
  | none, [] => .ok []
  | some p, [] => .error ⟨position - p.taken, p.lead, none⟩
  | none, b :: rest =>
    match continuation? b.toNat with
    | none => .error ⟨position, b, some 1⟩
    | some (0, _, _) => (readUtf8From (position + 1) none rest).map (Char.ofNat b.toNat :: ·)
    | some (more, low, high) =>
      readUtf8From (position + 1) (some ⟨b, 1, more, low, high, leadPayload b.toNat more⟩) rest
  | some p, b :: rest =>
    let n := b.toNat
    if n < p.low || p.high < n then .error ⟨position - p.taken, p.lead, some p.taken⟩
    else
      let code := p.code * 64 + n % 64
      if p.missing == 1 then (readUtf8From (position + 1) none rest).map (Char.ofNat code :: ·)
      else readUtf8From (position + 1) (some ⟨p.lead, p.taken + 1, p.missing - 1, 128, 191, code⟩) rest

/-- The text that bytes encode. -/
def readUtf8 (data : List UInt8) : Except Utf8Fault (List Char) :=
  readUtf8From 0 none data

end Promptbook.Text
