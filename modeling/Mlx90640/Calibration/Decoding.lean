import Mlx90640.Lib.BitField
import Mlx90640.Calibration.Extract
import Mathlib.Data.Int.ModEq

/-!
# The fields of an EEPROM image

The extractors reach the fields of the image with masks, shifts and comparisons. Here each
of these readings is the number that the field spells, signed fields in two's complement,
and the offsets are decoded in full.
-/
namespace Mlx90640.Calibration.Decoding

open Mlx90640.Lib.BitField
open Mlx90640.Calibration.Extract

theorem toNat_bits {w mask shift : UInt16} (width : Nat) (hshift : shift.toNat < 16)
    (hmask : mask.toNat = (2 ^ width - 1) * 2 ^ shift.toNat) :
    (bits w mask shift).toNat = field w shift.toNat width :=
  toNat_and_shiftRight width hshift hmask

theorem toNat_bits_add {w mask shift : UInt16} (c : UInt16) (width : Nat)
    (hshift : shift.toNat < 16) (hmask : mask.toNat = (2 ^ width - 1) * 2 ^ shift.toNat)
    (hfits : 2 ^ width + c.toNat ≤ 2 ^ 16) :
    (bits w mask shift + c).toNat = field w shift.toNat width + c.toNat := by
  have hlt := field_lt w shift.toNat width
  rw [UInt16.toNat_add, toNat_bits width hshift hmask]
  omega

/-- `int16_t x = raw; if(x > 2^k - 1) x = x - 2^(k+1);` on a field of `k + 1` bits. -/
theorem signedInt16_field {raw w : UInt16} {low k : Nat} (hk : k < 15)
    (hraw : raw.toNat = field w low (k + 1)) :
    (signedInt16 raw (2 ^ k - 1) (2 ^ (k + 1))).toInt = signedField w low (k + 1) := by
  have hlt := field_lt w low (k + 1)
  have hpow : (2 : Nat) ^ (k + 1) ≤ 2 ^ 15 := Nat.pow_le_pow_right (by decide) hk
  have hbounds := signedField_bounds w low k
  have hraw' : (Int16.ofInt (field w low (k + 1))).toInt = field w low (k + 1) :=
    Int16.toInt_ofInt_of_le (by omega) (by omega)
  rw [signedField_eq_ite] at hbounds ⊢
  simp only [signedInt16, hraw, hraw']
  split_ifs with hsign
  · rw [if_pos hsign] at hbounds
    have hpow' : (2 : Int) ^ (k + 1) ≤ 2 ^ 15 := by exact_mod_cast hpow
    exact Int16.toInt_ofInt_of_le (by omega) (by omega)
  · exact hraw'

/-- On the whole word the conversion alone does it; the comparison is never true. -/
theorem signedInt16_word (w : UInt16) :
    (signedInt16 w 32767 65536).toInt = signedField w 0 16 := by
  have hlt : signedField w 0 16 < 2 ^ 15 := (signedField_bounds w 0 15).2
  have hword : (Int16.ofInt w.toNat).toInt = signedField w 0 16 := by
    rw [Int16.toInt_ofInt, signedField, field_word]
    rfl
  simp only [signedInt16, hword]
  rw [if_neg (by omega), hword]

theorem signedInt8_field {raw w : UInt16} {low k : Nat} (hk : k < 7)
    (hraw : raw.toNat = field w low (k + 1)) :
    (signedInt8 raw (2 ^ k - 1) (2 ^ (k + 1))).toInt = signedField w low (k + 1) := by
  have hlt := field_lt w low (k + 1)
  have hpow : (2 : Nat) ^ (k + 1) ≤ 2 ^ 7 := Nat.pow_le_pow_right (by decide) hk
  have hbounds := signedField_bounds w low k
  have hraw' : (Int8.ofInt (field w low (k + 1))).toInt = field w low (k + 1) :=
    Int8.toInt_ofInt_of_le (by omega) (by omega)
  rw [signedField_eq_ite] at hbounds ⊢
  simp only [signedInt8, hraw, hraw']
  split_ifs with hsign
  · rw [if_pos hsign] at hbounds
    have hpow' : (2 : Int) ^ (k + 1) ≤ 2 ^ 7 := by exact_mod_cast hpow
    exact Int8.toInt_ofInt_of_le (by omega) (by omega)
  · exact hraw'

theorem signedInt8_byte {raw w : UInt16} {low : Nat} (hraw : raw.toNat = field w low 8) :
    (signedInt8 raw 127 256).toInt = signedField w low 8 := by
  have hlt : signedField w low 8 < 2 ^ 7 := (signedField_bounds w low 7).2
  have hbyte : (Int8.ofInt raw.toNat).toInt = signedField w low 8 := by
    rw [Int8.toInt_ofInt, signedField, hraw]
    rfl
  simp only [signedInt8, hbyte]
  rw [if_neg (by omega), hbyte]

theorem nibble_toNat (w : UInt16) (k : Fin 4) : (nibble w k).toNat = field w (4 * k) 4 := by
  match k with
  | 0 => exact toNat_and 4 (by decide)
  | 1 | 2 | 3 => exact toNat_bits 4 (by decide) (by decide)

theorem nibbleAt_eq (eeData : EEPROM) (base k : Nat) :
    nibbleAt eeData base k = signedField (eeData (base + k / 4)) (4 * (k % 4)) 4 := by
  rw [nibbleAt, nibble_toNat, signedField_eq_ite, signedNibble]
  rfl

section Exact

variable {K : Type} [Field K] [LinearOrder K] [IsStrictOrderedRing K] [FloorRing K]

omit [IsStrictOrderedRing K] in
@[simp] theorem ofInt_exact (n : Int) : (ofInt n : K) = n := by simp [ofInt, lit]

omit [IsStrictOrderedRing K] in
@[simp] theorem pow2_exact (n : Nat) : (pow2 n : K) = 2 ^ n := rfl

/-- `float x = raw; if(x > 2^k - 1) x = x - 2^(k+1);` on a field of `k + 1` bits. -/
theorem signedFloat_field {raw w : UInt16} {low k : Nat} (hraw : raw.toNat = field w low (k + 1)) :
    (signedFloat raw (2 ^ k - 1) (2 ^ (k + 1)) : K) = signedField w low (k + 1) := by
  rw [signedField_eq_ite, signedFloat, foldSign, hraw]
  simp only [ofInt_exact, gt_iff_lt, Int.cast_lt]
  split
  · push_cast
    rfl
  · rfl

omit [IsStrictOrderedRing K] in
theorem toUInt16_floor {v : K} (h0 : 0 ≤ v) (h : ⌊v⌋₊ < 65536) : (toUInt16 v).toNat = ⌊v⌋₊ := by
  have hfloor : (⌊v⌋₊ : Int) = ⌊v⌋ := Int.natCast_floor_eq_floor h0
  change (UInt16.ofInt (truncate v)).toNat = _
  rw [truncate, if_pos h0, ← hfloor, UInt16.ofInt, UInt16.toNat_ofNat']
  change ((⌊v⌋₊ : Int) % 65536).toNat % 65536 = _
  omega

end Exact

/-- The offset of a pixel as the image encodes it, before it is narrowed to 16 bits. -/
def encodedOffset (eeData : EEPROM) (p : Nat) : Int :=
  let i := p / 32
  let j := p % 32
  signedField (eeData 17) 0 16 +
    signedField (eeData (18 + i / 4)) (4 * (i % 4)) 4 * 2 ^ field (eeData 16) 8 4 +
    signedField (eeData (24 + j / 4)) (4 * (j % 4)) 4 * 2 ^ field (eeData 16) 4 4 +
    signedField (eeData (64 + p)) 10 6 * 2 ^ field (eeData 16) 0 4

theorem offsetValue_toInt (eeData : EEPROM) (p : Fin 768) :
    (offsetValue eeData p).toInt = Int.bmod (encodedOffset eeData p) (2 ^ 16) := by
  have hrem : (signedInt16 (bits (eeData (64 + p)) 0xFC00 10) 31 64).toInt =
      signedField (eeData (64 + p)) 10 6 :=
    signedInt16_field (k := 5) (by decide) (toNat_bits 6 (by decide) (by decide))
  have hrow : (bits (eeData 16) 0x0F00 8).toNat = field (eeData 16) 8 4 :=
    toNat_bits 4 (by decide) (by decide)
  have hcolumn : (bits (eeData 16) 0x00F0 4).toNat = field (eeData 16) 4 4 :=
    toNat_bits 4 (by decide) (by decide)
  have hscale : (eeData 16 &&& 0x000F).toNat = field (eeData 16) 0 4 := toNat_and 4 (by decide)
  -- the first store already reduces modulo 2^16, which the second does not undo
  simp only [offsetValue, Int16.toInt_ofInt, hrem, hrow, hcolumn, hscale, signedInt16_word,
    nibbleAt_eq, Int.add_bmod_bmod]
  rfl

/-- The stored offset is the encoded one modulo 2^16, and the encoded one itself when that
fits an `int16_t`, whatever the first of the two stores cut off. -/
theorem offset_decoding {F : Type} (stack : Scratch F) (eeData : EEPROM)
    (mlx90640 : ParamsMLX90640 F) (p : Fin 768) :
    ((extractOffsetParameters stack eeData mlx90640).offset p).toInt ≡
        encodedOffset eeData p [ZMOD 2 ^ 16] ∧
      (-2 ^ 15 ≤ encodedOffset eeData p → encodedOffset eeData p < 2 ^ 15 →
        ((extractOffsetParameters stack eeData mlx90640).offset p).toInt =
          encodedOffset eeData p) := by
  rw [extractOffsetParameters_eq]
  change (offsetValue eeData p).toInt ≡ _ [ZMOD _] ∧ (_ → _ → (offsetValue eeData p).toInt = _)
  rw [offsetValue_toInt]
  constructor
  · exact Int.bmod_emod
  · intro hlow hhigh
    exact Int.bmod_eq_of_le (by omega) (by omega)

/-- A remainder of 1 at scale 15 overflows the first store; with the average at -1 the
offset is 32767 all the same. -/
theorem offset_decoding_truncated :
    ∃ eeData : EEPROM, encodedOffset eeData 0 = 32767 ∧
      ∀ (stack : Scratch ℚ) mlx90640,
        ((extractOffsetParameters stack eeData mlx90640).offset 0).toInt = 32767 := by
  refine ⟨fun k => if k = 16 then 15 else if k = 17 then 0xFFFF else if k = 64 then 0x0400 else 0,
    by decide, fun stack mlx90640 => ?_⟩
  have hencoded : encodedOffset (fun k => if k = 16 then 15 else if k = 17 then 0xFFFF
      else if k = 64 then 0x0400 else 0) 0 = 32767 := by decide
  rw [← hencoded]
  exact (offset_decoding stack _ mlx90640 0).2 (by decide) (by decide)

end Mlx90640.Calibration.Decoding
