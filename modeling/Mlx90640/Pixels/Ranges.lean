import Mlx90640.Calibration.Decoding
import Mlx90640.Pixels.Temperature
import Mathlib.Data.Nat.Prime.Basic
import Mathlib.Tactic.FieldSimp

/-!
# The temperature ranges

The sensitivity of a pixel depends on the object temperature, linearly inside each of four
ranges. The slopes and the corner temperatures come from the EEPROM, the values at the
corners are chained together in `MLX90640_CalculateTo`. Read in exact arithmetic, the four
pieces form one continuous function for every image.
-/
namespace Mlx90640.Pixels.Ranges

open Mlx90640.Lib.BitField
open Mlx90640.Calibration
open Mlx90640.Calibration.Extract
open Mlx90640.Calibration.Decoding
open Mlx90640.Pixels.Temperature

/-- `alphaCorrR[range] * (1 + ksTo[range] * (To - ct[range]))`. -/
def rangeCorrection (params : ParamsMLX90640 ℚ) (range : Fin 4) (To : ℚ) : ℚ :=
  alphaCorrR params range *
    (1 + params.ksTo range.castSucc * (To - (params.ct range.castSucc).toInt))

/-- The four ranges in order, the one that the code picks for a temperature, and the values
at the three corners between them. -/
structure RangesMeet (params : ParamsMLX90640 ℚ) : Prop where
  divisor : 1 + params.ksTo 0 * 40 ≠ 0
  ordered : (params.ct 0).toInt < (params.ct 1).toInt ∧
    (params.ct 1).toInt ≤ (params.ct 2).toInt ∧ (params.ct 2).toInt ≤ (params.ct 3).toInt
  picked : ∀ To : ℚ,
    (1 ≤ temperatureRange params To →
      (params.ct (temperatureRange params To).castSucc).toInt ≤ To) ∧
    (temperatureRange params To ≤ 2 → To < (params.ct (temperatureRange params To).succ).toInt)
  corner1 : rangeCorrection params 0 (params.ct 1).toInt =
    rangeCorrection params 1 (params.ct 1).toInt
  corner2 : rangeCorrection params 1 (params.ct 2).toInt =
    rangeCorrection params 2 (params.ct 2).toInt
  corner3 : rangeCorrection params 2 (params.ct 3).toInt =
    rangeCorrection params 3 (params.ct 3).toInt

theorem steps_bounds (w : UInt16) (low : Nat) :
    (0 : ℤ) ≤ field w low 4 * (field w 12 2 * 10) ∧
      (field w low 4 * (field w 12 2 * 10) : ℤ) ≤ 15 * 30 := by
  have hsteps := field_lt w low 4
  have hwidth := field_lt w 12 2
  have hprod : field w low 4 * (field w 12 2 * 10) ≤ 15 * 30 :=
    Nat.mul_le_mul (by omega) (by omega)
  exact ⟨by positivity, by exact_mod_cast hprod⟩

theorem int16_nibble (w : UInt16) (low : Nat) :
    (Int16.ofInt (field w low 4)).toInt = field w low 4 := by
  have hlt := field_lt w low 4
  exact Int16.toInt_ofInt_of_le (by omega) (by omega)

/-- The corner temperatures, in steps of ten degrees. -/
theorem ctValue_toInt (eeData : EEPROM) :
    (ctValue eeData 2).toInt = field (eeData 63) 4 4 * (field (eeData 63) 12 2 * 10) ∧
      (ctValue eeData 3).toInt = field (eeData 63) 4 4 * (field (eeData 63) 12 2 * 10) +
        field (eeData 63) 8 4 * (field (eeData 63) 12 2 * 10) := by
  have hstep : (bits (eeData 63) 0x3000 12).toNat = field (eeData 63) 12 2 :=
    toNat_bits 2 (by decide) (by decide)
  have hct2 : (bits (eeData 63) 0x00F0 4).toNat = field (eeData 63) 4 4 :=
    toNat_bits 4 (by decide) (by decide)
  have hct3 : (bits (eeData 63) 0x0F00 8).toNat = field (eeData 63) 8 4 :=
    toNat_bits 4 (by decide) (by decide)
  have hwidth := field_lt (eeData 63) 12 2
  have hint8 : (Int8.ofInt (field (eeData 63) 12 2 * 10)).toInt = field (eeData 63) 12 2 * 10 :=
    Int8.toInt_ofInt_of_le (by omega) (by omega)
  have hbounds2 := steps_bounds (eeData 63) 4
  have hbounds3 := steps_bounds (eeData 63) 8
  have hstored2 : (ctValue eeData 2).toInt =
      field (eeData 63) 4 4 * (field (eeData 63) 12 2 * 10) := by
    change (Int16.ofInt ((Int16.ofInt (bits (eeData 63) 0x00F0 4).toNat).toInt *
      (Int8.ofInt ((bits (eeData 63) 0x3000 12).toNat * 10)).toInt)).toInt = _
    rw [hct2, hstep, int16_nibble, hint8]
    exact Int16.toInt_ofInt_of_le (by omega) (by omega)
  refine ⟨hstored2, ?_⟩
  change (Int16.ofInt ((ctValue eeData 2).toInt +
    (Int16.ofInt (bits (eeData 63) 0x0F00 8).toNat).toInt *
      (Int8.ofInt ((bits (eeData 63) 0x3000 12).toNat * 10)).toInt)).toInt = _
  rw [hstored2, hct3, hstep, int16_nibble, hint8]
  exact Int16.toInt_ofInt_of_le (by omega) (by omega)

theorem extractKsToParameters_ksTo (eeData : EEPROM) (mlx90640 : ParamsMLX90640 ℚ) :
    (extractKsToParameters eeData mlx90640).ksTo 0 =
      signedField (eeData 61) 0 8 / 2 ^ (field (eeData 63) 0 4 + 8) := by
  have hraw : (eeData 61 &&& 0x00FF).toNat = field (eeData 61) 0 8 := toNat_and 8 (by decide)
  have hsigned : (signedFloat (eeData 61 &&& 0x00FF) 127 256 : ℚ) = signedField (eeData 61) 0 8 :=
    signedFloat_field (k := 7) hraw
  have hscale : (eeData 63 &&& 0x000F).toNat = field (eeData 63) 0 4 := toNat_and 4 (by decide)
  change storeKsTo eeData mlx90640.ksTo 0 = _
  rw [storeKsTo_eq]
  change signedFloat (eeData 61 &&& 0x00FF) 127 256 /
    ofInt (2 ^ ((eeData 63 &&& 0x000F).toNat + 8)) = _
  rw [hscale, ofInt_exact, hsigned]
  push_cast
  rfl

/-- The slope below zero degrees is a multiple of a power of two, never -1/40. -/
theorem ksTo_divisor_ne_zero (z : ℤ) (k : Nat) : 1 + (z : ℚ) / 2 ^ k * 40 ≠ 0 := by
  intro h
  have hpos : (0 : ℚ) < 2 ^ k := by positivity
  have hmul : (2 : ℚ) ^ k = -(z * 40) := by
    field_simp at h
    linarith
  have hint : (2 : ℤ) ^ k = -(z * 40) := by exact_mod_cast hmul
  have hdvd : (5 : ℤ) ∣ 2 ^ k := ⟨-(z * 8), by rw [hint]; ring⟩
  have hfive : 5 ∣ 2 ^ k := by exact_mod_cast hdvd
  have htwo : 5 ∣ 2 := Nat.prime_five.dvd_of_dvd_pow hfive
  omega

theorem temperatureRange_picks (params : ParamsMLX90640 ℚ) (To : ℚ) :
    (1 ≤ temperatureRange params To → (params.ct (temperatureRange params To).castSucc).toInt ≤ To) ∧
    (temperatureRange params To ≤ 2 → To < (params.ct (temperatureRange params To).succ).toInt) := by
  have hct : ∀ k, (ofInt (params.ct k).toInt : ℚ) = (params.ct k).toInt := fun k => ofInt_exact _
  simp only [temperatureRange, hct]
  split_ifs with h1 h2 h3
  · exact ⟨fun h => absurd h (by decide), fun _ => h1⟩
  · exact ⟨fun _ => not_lt.mp h1, fun _ => h2⟩
  · exact ⟨fun _ => not_lt.mp h2, fun _ => h3⟩
  · exact ⟨fun _ => not_lt.mp h3, fun h => absurd h (by decide)⟩

/-- `alphaCorrR[0]` undoes the growth from -40 to 0 degrees, the first two ranges meet at 1. -/
theorem rangeCorrection_corner1 {params : ParamsMLX90640 ℚ} (h0 : (params.ct 0).toInt = -40)
    (h1 : (params.ct 1).toInt = 0) (hdivisor : 1 + params.ksTo 0 * 40 ≠ 0) :
    rangeCorrection params 0 (params.ct 1).toInt = rangeCorrection params 1 (params.ct 1).toInt := by
  change ofInt 1 / (ofInt 1 + params.ksTo 0 * ofInt 40) *
      (1 + params.ksTo 0 * ((params.ct 1).toInt - (params.ct 0).toInt)) =
    ofInt 1 * (1 + params.ksTo 1 * ((params.ct 1).toInt - (params.ct 1).toInt))
  rw [h0, h1]
  simp only [ofInt_exact]
  push_cast
  rw [sub_neg_eq_add, zero_add, one_div, inv_mul_cancel₀ hdivisor]
  ring

theorem rangeCorrection_corner2 {params : ParamsMLX90640 ℚ} (h1 : (params.ct 1).toInt = 0) :
    rangeCorrection params 1 (params.ct 2).toInt = rangeCorrection params 2 (params.ct 2).toInt := by
  change ofInt 1 * (1 + params.ksTo 1 * ((params.ct 2).toInt - (params.ct 1).toInt)) =
    (ofInt 1 + params.ksTo 1 * ofInt (params.ct 2).toInt) *
      (1 + params.ksTo 2 * ((params.ct 2).toInt - (params.ct 2).toInt))
  rw [h1]
  simp only [ofInt_exact]
  push_cast
  ring

theorem rangeCorrection_corner3 (params : ParamsMLX90640 ℚ) :
    rangeCorrection params 2 (params.ct 3).toInt = rangeCorrection params 3 (params.ct 3).toInt := by
  change (ofInt 1 + params.ksTo 1 * ofInt (params.ct 2).toInt) *
      (1 + params.ksTo 2 * ((params.ct 3).toInt - (params.ct 2).toInt)) =
    (ofInt 1 + params.ksTo 1 * ofInt (params.ct 2).toInt) *
      (ofInt 1 + params.ksTo 2 * ofInt ((params.ct 3).toInt - (params.ct 2).toInt)) *
      (1 + params.ksTo 3 * ((params.ct 3).toInt - (params.ct 3).toInt))
  simp only [ofInt_exact]
  push_cast
  ring

/-- For every image the range correction is one continuous function of the temperature. -/
theorem ranges_meet (eeData : EEPROM) (mlx90640 : ParamsMLX90640 ℚ) :
    RangesMeet (extractKsToParameters eeData mlx90640) := by
  have hct : (extractKsToParameters eeData mlx90640).ct = ctValue eeData := storeCt_eq _ _
  have hct0 : (ctValue eeData 0).toInt = -40 := rfl
  have hct1 : (ctValue eeData 1).toInt = 0 := rfl
  obtain ⟨hct2, hct3⟩ := ctValue_toInt eeData
  have hdivisor : 1 + (extractKsToParameters eeData mlx90640).ksTo 0 * 40 ≠ 0 := by
    rw [extractKsToParameters_ksTo]
    exact ksTo_divisor_ne_zero _ _
  have hstep2 := (steps_bounds (eeData 63) 4).1
  have hstep3 := (steps_bounds (eeData 63) 8).1
  exact {
    divisor := hdivisor
    ordered := by
      rw [hct]
      omega
    picked := temperatureRange_picks _
    corner1 := rangeCorrection_corner1 (by rw [hct, hct0]) (by rw [hct, hct1]) hdivisor
    corner2 := rangeCorrection_corner2 (by rw [hct, hct1])
    corner3 := rangeCorrection_corner3 _ }

end Mlx90640.Pixels.Ranges
