import Mathlib
import Promptbook.Number.Binary64

/-!
# Bit patterns of floating point numbers

A floating point number is its 64 bits, up to the payload of a NaN: packing what was unpacked from a pattern
that is no NaN gives the pattern back (`toBits_ofBits`).  Whether a number is finite can therefore be read off
the pattern that it was made of (`isFinite_ofMagnitudeBits`).
-/

namespace Promptbook.Number

open Float.Model Float.Model.UnpackedFloat

/-! ### The three fields -/

/-- The sign bit of a pattern. -/
def signField (b : BitVec 64) : BitVec 1 :=
  b.extractLsb' 63 1

/-- The exponent field of a pattern. -/
def exponentField (b : BitVec 64) : BitVec 11 :=
  b.extractLsb' 52 11

/-- The mantissa field of a pattern. -/
def mantissaField (b : BitVec 64) : BitVec 52 :=
  b.extractLsb' 0 52

private theorem fields_append (b : BitVec 64) : signField b ++ exponentField b ++ mantissaField b = b := by
  have upper : signField b ++ exponentField b = b.extractLsb' 52 12 :=
    BitVec.extractLsb'_append_extractLsb'_eq_extractLsb' rfl
  have whole : b.extractLsb' 52 12 ++ mantissaField b = b.extractLsb' 0 64 :=
    BitVec.extractLsb'_append_extractLsb'_eq_extractLsb' rfl
  rw [upper, whole]
  simp

private theorem toBitVec_ofBitVec (s : BitVec 1) : (Sign.ofBitVec s).toBitVec = s := by
  revert s
  decide

private theorem packComponents_fields {b : BitVec 64} {e : BitVec 11} {m : BitVec 52} (he : exponentField b = e)
    (hm : mantissaField b = m) : packComponents .binary64 (Sign.ofBitVec (signField b)) e m = b := by
  show (Sign.ofBitVec (signField b)).toBitVec ++ e ++ m = b
  rw [toBitVec_ofBitVec, ← he, ← hm]
  exact fields_append b

/-! ### Packing -/

private theorem log2_normal {f : Nat} (h : f < 2 ^ 52) : (2 ^ 52 + f).log2 = 52 := by
  have lower : 52 ≤ (2 ^ 52 + f).log2 := (Nat.le_log2 (by omega)).2 (by omega)
  have upper : (2 ^ 52 + f).log2 < 53 := (Nat.log2_lt (by omega)).2 (by omega)
  omega

/-- A mantissa below the implicit bit is packed under the exponent field zero. -/
private theorem pack_subnormal (s : Sign) {m : Nat} {x : Int} (pos : 0 < m) (hm : m < 2 ^ 52) (hx : x = -1074) :
    UnpackedFloat.pack .binary64 (.finite s m x pos) =
      packComponents .binary64 s 0#11 (BitVec.ofNat 52 m) := by
  have hlog : ¬m.log2 + 1 = Format.binary64.mantissaBits := by
    have := (Nat.log2_lt (by omega)).2 hm
    show ¬m.log2 + 1 = 53
    omega
  subst hx
  rw [UnpackedFloat.pack]
  simp only [if_neg hlog]
  rfl

/-- A mantissa with the implicit bit is packed under its exponent, without that bit. -/
private theorem pack_normal (s : Sign) {e f n : Nat} {x : Int} (pos : 0 < n) (he : e < 2047) (hf : f < 2 ^ 52)
    (hn : n = 2 ^ 52 + f) (hx : x = e - 1075) :
    UnpackedFloat.pack .binary64 (.finite s n x pos) =
      packComponents .binary64 s (BitVec.ofNat 11 e) (BitVec.ofNat 52 f) := by
  have hbiased : (x + (1023 : Nat) + (52 : Nat)).toNat = e := by omega
  have hmantissa : BitVec.ofNat 52 n = BitVec.ofNat 52 f := by
    apply BitVec.eq_of_toNat_eq
    simp only [BitVec.toNat_ofNat]
    omega
  have hlog : n.log2 + 1 = 53 := by
    rw [hn, log2_normal hf]
  show (if 2 ^ 11 ≤ (x + (1023 : Nat) + (52 : Nat)).toNat + 1 then packedInfinity .binary64 s
    else if n.log2 + 1 = 53 then
      packComponents .binary64 s (BitVec.ofNat 11 (x + (1023 : Nat) + (52 : Nat)).toNat) (BitVec.ofNat 52 n)
    else packComponents .binary64 s 0#11 (BitVec.ofNat 52 n)) = _
  rw [hbiased, if_neg (by omega), if_pos hlog, hmantissa]

/-- Packing undoes unpacking, unless the pattern is a NaN. -/
private theorem pack_unpack {b : BitVec 64} (h : exponentField b = -1#11 → mantissaField b = 0#52) :
    UnpackedFloat.pack .binary64 (UnpackedFloat.unpack .binary64 b) = b := by
  have hm := (mantissaField b).isLt
  have he := (exponentField b).isLt
  unfold UnpackedFloat.unpack
  show UnpackedFloat.pack .binary64
    (if exponentField b = -1#11 then
      if mantissaField b = 0#52 then .infinity (Sign.ofBitVec (signField b)) else .notANumber
    else if exponentField b = 0#11 then
      if hz : mantissaField b = 0#52 then .zero (Sign.ofBitVec (signField b))
      else .finite (Sign.ofBitVec (signField b)) (mantissaField b).toNat
        (((exponentField b).toNat : Int) - ((1023 : Nat) + (52 : Nat)) + 1) _
    else
      .finite (Sign.ofBitVec (signField b)) (1#1 ++ mantissaField b).toNat
        (((exponentField b).toNat : Int) - ((1023 : Nat) + (52 : Nat))) _) = b
  by_cases hones : exponentField b = -1#11
  · rw [if_pos hones, if_pos (h hones)]
    exact packComponents_fields hones (h hones)
  · rw [if_neg hones]
    by_cases hzero : exponentField b = 0#11
    · rw [if_pos hzero]
      by_cases hz : mantissaField b = 0#52
      · rw [dif_pos hz]
        exact packComponents_fields hzero hz
      · rw [dif_neg hz]
        exact (pack_subnormal _ _ hm (by rw [hzero]; rfl)).trans (packComponents_fields hzero (by simp))
    · rw [if_neg hzero]
      have hlt : (exponentField b).toNat < 2047 := by
        have : (exponentField b).toNat ≠ 2047 := fun heq => hones (BitVec.eq_of_toNat_eq (by rw [heq]; rfl))
        omega
      have happend : (1#1 ++ mantissaField b).toNat = 2 ^ 52 + (mantissaField b).toNat := by
        rw [BitVec.toNat_append, ← Nat.shiftLeft_add_eq_or_of_lt hm]
        rfl
      exact (pack_normal _ _ hlt hm happend (by omega)).trans (packComponents_fields (by simp) (by simp))

/-! ### Numbers made of bits -/

/-- A pattern without the exponent of the infinities and NaNs is kept, and so is an infinity. -/
theorem toBits_ofBits {b : UInt64} (h : b.toNat / 2 ^ 52 % 2 ^ 11 = 2047 → b.toNat % 2 ^ 52 = 0) :
    (Float.ofBits b).toBits = b := by
  have hfields : exponentField b.toBitVec = -1#11 → mantissaField b.toBitVec = 0#52 := by
    intro hones
    apply BitVec.eq_of_toNat_eq
    have hexponent : b.toNat / 2 ^ 52 % 2 ^ 11 = 2047 := by
      have := congrArg BitVec.toNat hones
      rwa [exponentField, BitVec.extractLsb'_toNat, Nat.shiftRight_eq_div_pow] at this
    rw [mantissaField, BitVec.extractLsb'_toNat]
    exact h hexponent
  show UInt64.ofBitVec (UnpackedFloat.pack .binary64 (UnpackedFloat.unpack .binary64 b.toBitVec)) = b
  rw [pack_unpack hfields]

private theorem isFinite_eq (x : Float) : isFinite x = (x.toBits.toNat / 2 ^ 52 % 2 ^ 11 != 2047) := by
  simp only [isFinite, decompose?, beq_iff_eq]
  generalize x.toBits.toNat / 2 ^ 52 % 2 ^ 11 = exponent
  by_cases hones : exponent = 2047
  · simp [hones]
  · by_cases hzero : exponent = 0
    · simp [hzero]
    · simp [hones, hzero]

/-- The magnitude bits of a finite number are below those of an infinity. -/
theorem isFinite_ofMagnitudeBits (negative : Bool) {bits : Nat} (h : bits ≤ 2047 * 2 ^ 52) :
    isFinite (ofMagnitudeBits negative bits) = decide (bits < 2047 * 2 ^ 52) := by
  have hsign : ∃ s, s < 2 ∧ (if negative then 2 ^ 63 else 0) = s * 2 ^ 63 := by
    cases negative
    · exact ⟨0, by decide, rfl⟩
    · exact ⟨1, by decide, rfl⟩
  obtain ⟨s, hs, hsign⟩ := hsign
  have hnat : (UInt64.ofNat (bits + s * 2 ^ 63)).toNat = bits + s * 2 ^ 63 := by
    rw [UInt64.toNat_ofNat']
    omega
  have hexponent : (bits + s * 2 ^ 63) / 2 ^ 52 % 2 ^ 11 = bits / 2 ^ 52 := by omega
  have hbits : (ofMagnitudeBits negative bits).toBits = UInt64.ofNat (bits + s * 2 ^ 63) := by
    rw [ofMagnitudeBits, Nat.pow_eq, hsign]
    apply toBits_ofBits
    rw [hnat, hexponent]
    omega
  rw [isFinite_eq, hbits, hnat, hexponent]
  by_cases hlt : bits < 2047 * 2 ^ 52
  · have hexponent : bits / 2 ^ 52 ≠ 2047 := by omega
    rw [decide_eq_true hlt, bne_iff_ne]
    exact hexponent
  · have hexponent : bits / 2 ^ 52 = 2047 := by omega
    rw [decide_eq_false hlt, hexponent, bne_self_eq_false]

theorem isFinite_infinity (negative : Bool) : isFinite (infinity negative) = false := by
  rw [infinity, Nat.pow_eq, isFinite_ofMagnitudeBits negative (Nat.le_refl _)]
  exact decide_eq_false (Nat.lt_irrefl _)

end Promptbook.Number
