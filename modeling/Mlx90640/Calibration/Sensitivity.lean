import Mlx90640.Calibration.Decoding
import Mathlib.Algebra.Order.Round
import Mathlib.Data.Fintype.Lattice

/-!
# The stored sensitivities

`ExtractAlphaParameters` stores `SCALEALPHA / A` for the sensitivity `A` of each pixel. The
loop that would scale these quotients to the full width of a `uint16_t` is commented out in
the code, so they are rounded to whole numbers as they are. Read in exact arithmetic, the
module says when that is still precise.
-/
namespace Mlx90640.Calibration.Sensitivity

open Mlx90640.Lib.BitField
open Mlx90640.Calibration.Extract
open Mlx90640.Calibration.Decoding

/-- `SCALEALPHA`. -/
def scaleAlpha : ℚ := 1 / 1000000

/-- The sensitivity of a pixel that the image encodes. -/
def sensitivity (eeData : EEPROM) (tgc : ℚ) (cpAlpha : Fin 2 → ℚ) (p : Nat) : ℚ :=
  let i := p / 32
  let j := p % 32
  (field (eeData 33) 0 16 +
    signedField (eeData (34 + i / 4)) (4 * (i % 4)) 4 * 2 ^ field (eeData 32) 8 4 +
    signedField (eeData (40 + j / 4)) (4 * (j % 4)) 4 * 2 ^ field (eeData 32) 4 4 +
    signedField (eeData (64 + p)) 4 6 * 2 ^ field (eeData 32) 0 4) /
    2 ^ (field (eeData 32) 12 4 + 30) - tgc * (cpAlpha 0 + cpAlpha 1) / 2

/-- `SCALEALPHA / A`, pixel by pixel. -/
def quotients (eeData : EEPROM) (mlx90640 : ParamsMLX90640 ℚ) (p : Fin 768) : ℚ :=
  scaleAlpha / sensitivity eeData mlx90640.tgc mlx90640.cpAlpha p

theorem alphaValue_eq (eeData : EEPROM) (mlx90640 : ParamsMLX90640 ℚ) (p : Fin 768) :
    alphaValue eeData mlx90640.tgc mlx90640.cpAlpha p = quotients eeData mlx90640 p := by
  have hrem : (signedFloat (bits (eeData (64 + p)) 0x03F0 4) 31 64 : ℚ) =
      signedField (eeData (64 + p)) 4 6 :=
    signedFloat_field (k := 5) (toNat_bits 6 (by decide) (by decide))
  have hrow : (bits (eeData 32) 0x0F00 8).toNat = field (eeData 32) 8 4 :=
    toNat_bits 4 (by decide) (by decide)
  have hcolumn : (bits (eeData 32) 0x00F0 4).toNat = field (eeData 32) 4 4 :=
    toNat_bits 4 (by decide) (by decide)
  have hremScale : (eeData 32 &&& 0x000F).toNat = field (eeData 32) 0 4 := toNat_and 4 (by decide)
  have hscale : (bits (eeData 32) 0xF000 12 + 30).toNat = field (eeData 32) 12 4 + 30 :=
    toNat_bits_add 30 4 (by decide) (by decide) (by decide)
  have hlit : (lit (1 / 1000000) : ℚ) = scaleAlpha := by simp [lit, scaleAlpha]
  simp only [alphaValue, quotients, sensitivity, hrem, hrow, hcolumn, hremScale, hscale, hlit,
    nibbleAt_eq, ofInt_exact, pow2_exact, field_word]
  push_cast
  rfl

/-- The largest quotient. -/
def top (x : Fin 768 → ℚ) : ℚ := Finset.univ.sup' Finset.univ_nonempty x

theorem le_top (x : Fin 768 → ℚ) (p : Fin 768) : x p ≤ top x :=
  Finset.le_sup' x (Finset.mem_univ p)

theorem exists_eq_top (x : Fin 768 → ℚ) : ∃ p, x p = top x := by
  obtain ⟨p, -, hp⟩ := Finset.exists_mem_eq_sup' Finset.univ_nonempty x
  exact ⟨p, hp.symm⟩

/-- The stored values recover every quotient to 16 bits of the largest, and use the whole
field to do so. -/
structure Precise (params : ParamsMLX90640 ℚ) (x : Fin 768 → ℚ) : Prop where
  close : ∀ p, |((params.alpha p).toNat : ℚ) / 2 ^ params.alphaScale.toNat - x p| ≤ top x / 65536
  full : ∃ p, 32768 ≤ (params.alpha p).toNat

/-- `(uint16_t)(x + 0.5f)` rounds a number that fits. -/
theorem toUInt16_round {x : ℚ} (h0 : 0 < x) (h : x < 32768) :
    ((toUInt16 (x * pow2 0 + lit (1 / 2))).toNat : ℤ) = round x := by
  have hhalf : x * pow2 0 + lit (1 / 2) = x + 1 / 2 := by simp [lit]
  have hround : 0 ≤ round x ∧ round x < 65536 := by
    rw [round_eq, Int.floor_nonneg, Int.floor_lt]
    constructor
    · linarith
    · push_cast
      linarith
  rw [hhalf]
  change ((UInt16.ofInt (truncate (x + 1 / 2))).toNat : ℤ) = round x
  rw [truncate, if_pos (by linarith), ← round_eq]
  simp only [UInt16.ofInt, UInt16.toNat_ofNat']
  omega

section Stored

variable {stack : Scratch ℚ} {eeData : EEPROM} {mlx90640 : ParamsMLX90640 ℚ}

theorem alpha_toNat (hpos : ∀ p : Fin 768, 0 < quotients eeData mlx90640 p)
    (htop : top (quotients eeData mlx90640) < 32768) (p : Fin 768) :
    (((extractAlphaParameters stack eeData mlx90640).alpha p).toNat : ℤ) =
      round (quotients eeData mlx90640 p) := by
  rw [extractAlphaParameters_eq]
  change ((toUInt16 (alphaValue eeData mlx90640.tgc mlx90640.cpAlpha p * pow2 0 +
    lit (1 / 2))).toNat : ℤ) = _
  rw [alphaValue_eq]
  exact toUInt16_round (hpos p) ((le_top _ p).trans_lt htop)

theorem alphaScale_eq_zero : (extractAlphaParameters stack eeData mlx90640).alphaScale = 0 := by
  rw [extractAlphaParameters_eq]

theorem half_le_of_le_round {x : ℚ} : 32768 ≤ round x ↔ 65535 / 2 ≤ x := by
  rw [round_eq, Int.le_floor]
  push_cast
  constructor <;> intro h <;> linarith

/-- Full use of the field needs a quotient that rounds to 32768 unscaled. -/
theorem Precise.half_le_top (hpos : ∀ p : Fin 768, 0 < quotients eeData mlx90640 p)
    (htop : top (quotients eeData mlx90640) < 32768)
    (h : Precise (extractAlphaParameters stack eeData mlx90640) (quotients eeData mlx90640)) :
    65535 / 2 ≤ top (quotients eeData mlx90640) := by
  obtain ⟨p, hp⟩ := h.full
  have hround : 32768 ≤ round (quotients eeData mlx90640 p) := by
    rw [← alpha_toNat hpos htop p]
    exact_mod_cast hp
  exact (half_le_of_le_round.mp hround).trans (le_top _ p)

end Stored

/-- Without the scaling loop, the sensitivities of an image that it would have scaled are
precise exactly when the largest quotient rounds to 32768 as it is and every quotient
happens to lie near a whole number. -/
theorem alpha_precise_iff (stack : Scratch ℚ) (eeData : EEPROM) (mlx90640 : ParamsMLX90640 ℚ)
    (hpos : ∀ p : Fin 768, 0 < sensitivity eeData mlx90640.tgc mlx90640.cpAlpha p)
    (htop : top (quotients eeData mlx90640) < 32768) :
    Precise (extractAlphaParameters stack eeData mlx90640) (quotients eeData mlx90640) ↔
      65535 / 2 ≤ top (quotients eeData mlx90640) ∧
      ∀ p, ∃ z : ℤ, |(z : ℚ) - quotients eeData mlx90640 p| ≤
        top (quotients eeData mlx90640) / 65536 := by
  have hquotient : ∀ p : Fin 768, 0 < quotients eeData mlx90640 p :=
    fun p => div_pos (by norm_num [scaleAlpha]) (hpos p)
  have halpha : ∀ p, (((extractAlphaParameters stack eeData mlx90640).alpha p).toNat : ℤ) =
      round (quotients eeData mlx90640 p) := alpha_toNat hquotient htop
  have hcast : ∀ p, (((extractAlphaParameters stack eeData mlx90640).alpha p).toNat : ℚ) /
      2 ^ (extractAlphaParameters stack eeData mlx90640).alphaScale.toNat =
      (round (quotients eeData mlx90640 p) : ℚ) := by
    intro p
    rw [alphaScale_eq_zero, ← halpha p]
    simp
  constructor
  · intro h
    refine ⟨h.half_le_top hquotient htop, fun p => ⟨round (quotients eeData mlx90640 p), ?_⟩⟩
    rw [← hcast p]
    exact h.close p
  · intro hboth
    obtain ⟨hhalf, hnear⟩ := hboth
    constructor
    · intro p
      obtain ⟨z, hz⟩ := hnear p
      rw [hcast p, abs_sub_comm]
      calc |quotients eeData mlx90640 p - round (quotients eeData mlx90640 p)|
          ≤ |quotients eeData mlx90640 p - z| := round_le _ z
        _ = |(z : ℚ) - quotients eeData mlx90640 p| := abs_sub_comm _ _
        _ ≤ top (quotients eeData mlx90640) / 65536 := hz
    · obtain ⟨p, hp⟩ := exists_eq_top (quotients eeData mlx90640)
      refine ⟨p, ?_⟩
      have hround : 32768 ≤ round (quotients eeData mlx90640 p) := by
        rw [half_le_of_le_round, hp]
        exact hhalf
      rw [← halpha p] at hround
      exact_mod_cast hround

/-- A sensor whose pixels all have the average sensitivity. -/
def uniformImage (scales ref cp tgc : UInt16) : EEPROM := fun k =>
  if k = 32 then scales else if k = 33 then ref else if k = 57 then cp else if k = 60 then tgc
  else if k ≥ 64 then 0x0002 else 0

theorem sensitivity_uniformImage (scales ref cp tgc : UInt16) (tgcValue : ℚ) (cpAlpha : Fin 2 → ℚ)
    (p : Fin 768) :
    sensitivity (uniformImage scales ref cp tgc) tgcValue cpAlpha p =
      ref.toNat / 2 ^ (field scales 12 4 + 30) - tgcValue * (cpAlpha 0 + cpAlpha 1) / 2 := by
  have hrow : uniformImage scales ref cp tgc (34 + p / 32 / 4) = 0 := by
    simp only [uniformImage]
    split_ifs <;> first | omega | rfl
  have hcolumn : uniformImage scales ref cp tgc (40 + p % 32 / 4) = 0 := by
    simp only [uniformImage]
    split_ifs <;> first | omega | rfl
  have hpixel : uniformImage scales ref cp tgc (64 + p) = 0x0002 := by
    simp only [uniformImage]
    split_ifs <;> first | omega | rfl
  have hzero : ∀ low, signedField 0 low 4 = 0 := by
    intro low
    simp [signedField, field]
  have hrem : signedField 0x0002 4 6 = 0 := by decide
  have hscales : uniformImage scales ref cp tgc 32 = scales := rfl
  have href : uniformImage scales ref cp tgc 33 = ref := rfl
  simp only [sensitivity, hrow, hcolumn, hpixel, hzero, hrem, hscales, href, field_word]
  simp

/-- The record as it reaches the extractor. -/
def withCompensation (eeData : EEPROM) : ParamsMLX90640 ℚ :=
  extractCPParameters eeData (extractTgcParameters eeData default)

theorem withCompensation_tgc (eeData : EEPROM) :
    (withCompensation eeData).tgc = signedField (eeData 60) 0 8 / 32 := by
  have hfield : (signedFloat (eeData 60 &&& 0x00FF) 127 256 : ℚ) = signedField (eeData 60) 0 8 :=
    signedFloat_field (k := 7) (toNat_and 8 (by decide))
  change (signedFloat (eeData 60 &&& 0x00FF) 127 256 / ofInt 32 : ℚ) = _
  rw [hfield, ofInt_exact, Int.cast_ofNat]

theorem withCompensation_cpAlpha (eeData : EEPROM) :
    (withCompensation eeData).cpAlpha 0 =
        signedField (eeData 57) 0 10 / 2 ^ (field (eeData 32) 12 4 + 27) ∧
      (withCompensation eeData).cpAlpha 1 =
        (1 + signedField (eeData 57) 10 6 / 128) * (withCompensation eeData).cpAlpha 0 := by
  have hcp0 : (signedFloat (eeData 57 &&& 0x03FF) 511 1024 : ℚ) = signedField (eeData 57) 0 10 :=
    signedFloat_field (k := 9) (toNat_and 10 (by decide))
  have hcp1 : (signedFloat (bits (eeData 57) 0xFC00 10) 31 64 : ℚ) =
      signedField (eeData 57) 10 6 :=
    signedFloat_field (k := 5) (toNat_bits 6 (by decide) (by decide))
  have hscale : (bits (eeData 32) 0xF000 12 + 27).toNat = field (eeData 32) 12 4 + 27 :=
    toNat_bits_add 27 4 (by decide) (by decide) (by decide)
  simp only [withCompensation, extractCPParameters, update_two, hcp0, hcp1, hscale, ofInt_exact,
    pow2_exact]
  norm_num

theorem top_eq {x : Fin 768 → ℚ} {c : ℚ} (h : ∀ p, x p = c) : top x = c := by
  obtain ⟨p, hp⟩ := exists_eq_top x
  rw [← hp, h p]

/-- A thermal gradient coefficient of 1/32 and compensation pixels of one unit leave a
sensitivity whose quotient, 32767.75, rounds to 32768. -/
theorem alpha_precise_full_range :
    ∃ eeData, ∀ stack, Precise (extractAlphaParameters stack eeData (withCompensation eeData))
      (quotients eeData (withCompensation eeData)) := by
  refine ⟨uniformImage 0xF000 1074 1 1, fun stack => ?_⟩
  have htgc : signedField (uniformImage 0xF000 1074 1 1 60) 0 8 = 1 := by decide
  have hcp0 : signedField (uniformImage 0xF000 1074 1 1 57) 0 10 = 1 := by decide
  have hcp1 : signedField (uniformImage 0xF000 1074 1 1 57) 10 6 = 0 := by decide
  have hcpScale : field (uniformImage 0xF000 1074 1 1 32) 12 4 = 15 := by decide
  have hscale : field 0xF000 12 4 = 15 := by decide
  have href : (1074 : UInt16).toNat = 1074 := by decide
  have hsensitivity : ∀ p : Fin 768, sensitivity (uniformImage 0xF000 1074 1 1)
      (withCompensation (uniformImage 0xF000 1074 1 1)).tgc
      (withCompensation (uniformImage 0xF000 1074 1 1)).cpAlpha p = 4295 / 4 / 2 ^ 45 := by
    intro p
    rw [sensitivity_uniformImage, (withCompensation_cpAlpha _).2, (withCompensation_cpAlpha _).1,
      withCompensation_tgc, htgc, hcp0, hcp1, hcpScale, hscale, href]
    norm_num
  have hquotient : ∀ p, quotients (uniformImage 0xF000 1074 1 1)
      (withCompensation (uniformImage 0xF000 1074 1 1)) p = scaleAlpha / (4295 / 4 / 2 ^ 45) := by
    intro p
    rw [quotients, hsensitivity p]
  have htop := top_eq hquotient
  refine (alpha_precise_iff stack _ _ ?_ ?_).mpr ⟨?_, fun p => ⟨32768, ?_⟩⟩
  · intro p
    rw [hsensitivity p]
    norm_num
  · rw [htop]
    norm_num [scaleAlpha]
  · rw [htop]
    norm_num [scaleAlpha]
  · rw [htop, hquotient p]
    norm_num [scaleAlpha, abs_le]

/-- A typical sensor: all quotients are 12.67, stored as 13. -/
theorem alpha_imprecise :
    ∃ eeData, (∀ p : Fin 768, 0 < sensitivity eeData (withCompensation eeData).tgc
        (withCompensation eeData).cpAlpha p) ∧
      top (quotients eeData (withCompensation eeData)) < 32768 ∧
      ∀ stack, ¬Precise (extractAlphaParameters stack eeData (withCompensation eeData))
        (quotients eeData (withCompensation eeData)) := by
  have htgc : signedField (uniformImage 0x7000 0x2A61 0 0 60) 0 8 = 0 := by decide
  have href : (0x2A61 : UInt16).toNat = 10849 := by decide
  have hscale : field 0x7000 12 4 = 7 := by decide
  have hsensitivity : ∀ p : Fin 768, sensitivity (uniformImage 0x7000 0x2A61 0 0)
      (withCompensation (uniformImage 0x7000 0x2A61 0 0)).tgc
      (withCompensation (uniformImage 0x7000 0x2A61 0 0)).cpAlpha p = 10849 / 2 ^ 37 := by
    intro p
    rw [sensitivity_uniformImage, withCompensation_tgc, htgc, hscale, href]
    norm_num
  have hquotient : ∀ p, quotients (uniformImage 0x7000 0x2A61 0 0)
      (withCompensation (uniformImage 0x7000 0x2A61 0 0)) p = scaleAlpha / (10849 / 2 ^ 37) := by
    intro p
    rw [quotients, hsensitivity p]
  have htop := top_eq hquotient
  have hlt : top (quotients (uniformImage 0x7000 0x2A61 0 0)
      (withCompensation (uniformImage 0x7000 0x2A61 0 0))) < 32768 := by
    rw [htop]
    norm_num [scaleAlpha]
  refine ⟨_, fun p => ?_, hlt, fun stack h => ?_⟩
  · rw [hsensitivity p]
    norm_num
  · have hhalf := h.half_le_top (fun p => ?_) hlt
    · rw [htop] at hhalf
      norm_num [scaleAlpha] at hhalf
    · rw [hquotient p]
      norm_num [scaleAlpha]

end Mlx90640.Calibration.Sensitivity
