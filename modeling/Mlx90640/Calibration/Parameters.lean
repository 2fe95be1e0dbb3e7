import Mlx90640.Calibration.Extract
import Mlx90640.Calibration.Deviating
import Mathlib.Algebra.Order.Archimedean.Basic
import Mathlib.Logic.Function.Iterate

/-!
# MLX90640_ExtractParameters

The fourteen extractors in the order of the code, on one record. The record is a global
that later calls reuse, so what matters is that nothing of its earlier contents survives:
the extraction is brought into the form of stores of EEPROM values (`calibrate`), which
together cover the whole record. The two `while(temp < 64)` loops are the only ones
without a counter; they end whenever doubling a positive number passes 64.
-/
namespace Mlx90640.Calibration.Parameters

open Mlx90640.Calibration.Extract
open Mlx90640.Calibration.Deviating

variable {F : Type} [Add F] [Sub F] [Mul F] [Div F] [LT F] [DecidableLT F] [CFloat F]

/-- `stack 0` to `stack 3` are what the four extractors with local arrays find there. -/
def extractParameters (stack : Fin 4 → Scratch F) (fuel : Nat) (eeData : EEPROM)
    (mlx90640 : ParamsMLX90640 F) : Option (Int × ParamsMLX90640 F) := do
  let mlx90640 := extractVDDParameters eeData mlx90640
  let mlx90640 := extractPTATParameters eeData mlx90640
  let mlx90640 := extractGainParameters eeData mlx90640
  let mlx90640 := extractTgcParameters eeData mlx90640
  let mlx90640 := extractResolutionParameters eeData mlx90640
  let mlx90640 := extractKsTaParameters eeData mlx90640
  let mlx90640 := extractKsToParameters eeData mlx90640
  let mlx90640 := extractCPParameters eeData mlx90640
  let mlx90640 := extractAlphaParameters (stack 0) eeData mlx90640
  let mlx90640 := extractOffsetParameters (stack 1) eeData mlx90640
  let mlx90640 ← extractKtaPixelParameters (stack 2) fuel eeData mlx90640
  let mlx90640 ← extractKvPixelParameters (stack 3) fuel eeData mlx90640
  let mlx90640 := extractCILCParameters eeData mlx90640
  return extractDeviatingPixels eeData mlx90640

/-- The extraction once the scales of the two coefficient tables are known. -/
def calibrate (eeData : EEPROM) (ktaScale kvScale : UInt8) (mlx90640 : ParamsMLX90640 F) :
    Int × ParamsMLX90640 F :=
  let mlx90640 := extractVDDParameters eeData mlx90640
  let mlx90640 := extractPTATParameters eeData mlx90640
  let mlx90640 := extractGainParameters eeData mlx90640
  let mlx90640 := extractTgcParameters eeData mlx90640
  let mlx90640 := extractResolutionParameters eeData mlx90640
  let mlx90640 := extractKsTaParameters eeData mlx90640
  let mlx90640 := extractKsToParameters eeData mlx90640
  let mlx90640 := extractCPParameters eeData mlx90640
  let mlx90640 := { mlx90640 with
    alpha := fun p => toUInt16
      (alphaValue eeData mlx90640.tgc mlx90640.cpAlpha p * pow2 0 + lit (1 / 2))
    alphaScale := 0
    offset := offsetValue eeData
    kta := fun p => roundedInt8 ktaScale (ktaValue (F := F) eeData p)
    ktaScale := ktaScale
    kv := fun p => roundedInt8 kvScale (kvValue (F := F) eeData p)
    kvScale := kvScale }
  let mlx90640 := extractCILCParameters eeData mlx90640
  extractDeviatingPixels eeData mlx90640

theorem extractParameters_eq (stack : Fin 4 → Scratch F) (fuel : Nat) (eeData : EEPROM)
    (mlx90640 : ParamsMLX90640 F) :
    extractParameters stack fuel eeData mlx90640 =
      (fillScale fuel (largest fabs (ktaValue (F := F) eeData))).bind fun ktaScale =>
        (fillScale fuel (largest fabs (kvValue (F := F) eeData))).map fun kvScale =>
          calibrate eeData ktaScale kvScale mlx90640 := by
  simp only [extractParameters, extractAlphaParameters_eq, extractOffsetParameters_eq,
    extractKtaPixelParameters_eq, extractKvPixelParameters_eq]
  cases fillScale fuel (largest fabs (ktaValue (F := F) eeData)) with
  | none => rfl
  | some ktaScale =>
    cases fillScale fuel (largest fabs (kvValue (F := F) eeData)) with
    | none => rfl
    | some kvScale => rfl

/-- The deviating-pixel search runs last: the code and the lists are its own. -/
theorem extractParameters_deviating {stack : Fin 4 → Scratch F} {fuel : Nat} {eeData : EEPROM}
    {mlx90640 : ParamsMLX90640 F} {result : Int × ParamsMLX90640 F}
    (h : extractParameters stack fuel eeData mlx90640 = some result) :
    ∃ before, extractDeviatingPixels eeData before = result := by
  rw [extractParameters_eq, Option.bind_eq_some_iff] at h
  obtain ⟨ktaScale, -, h⟩ := h
  obtain ⟨kvScale, -, h⟩ := Option.map_eq_some_iff.mp h
  exact ⟨_, h⟩

theorem extractParameters_wellSpaced {stack : Fin 4 → Scratch F} {fuel : Nat} {eeData : EEPROM}
    {before params : ParamsMLX90640 F}
    (h : extractParameters stack fuel eeData before = some (0, params)) :
    WellSpaced eeData params := by
  obtain ⟨before', hdeviating⟩ := extractParameters_deviating h
  exact extractDeviatingPixels_ok hdeviating

theorem calibrate_congr (eeData : EEPROM) (ktaScale kvScale : UInt8)
    (mlx90640 mlx90640' : ParamsMLX90640 F) :
    calibrate eeData ktaScale kvScale mlx90640 = calibrate eeData ktaScale kvScale mlx90640' := by
  simp only [calibrate, extractDeviatingPixels_eq, extractCILCParameters, extractCPParameters,
    extractKsToParameters, storeCt_eq, storeKsTo_eq, update_two, update_three]
  rfl

/-- Doubling a positive number again and again gets past 64. Every positive IEEE number has
this property, infinity at once. -/
def DoublingReaches64 (F : Type) [Mul F] [LT F] [CFloat F] : Prop :=
  ∀ x : F, x > ofInt 0 → ∃ n, ¬(· * ofInt 2)^[n] x < ofInt 64

omit [Add F] [Sub F] [Div F] in
theorem doubleTo64_terminates {n : Nat} {temp : F} (scale : UInt8)
    (h : ¬(· * ofInt 2)^[n] temp < ofInt 64) :
    ∃ r, ∀ fuel, n < fuel → doubleTo64 fuel temp scale = some r := by
  induction n generalizing temp scale with
  | zero =>
    have hstop : ¬temp < ofInt 64 := h
    refine ⟨(temp, scale), fun fuel hfuel => ?_⟩
    obtain ⟨fuel, rfl⟩ := Nat.exists_eq_succ_of_ne_zero (Nat.ne_of_gt hfuel)
    rw [doubleTo64, if_neg hstop]
  | succ n ih =>
    by_cases hlt : temp < ofInt 64
    · obtain ⟨r, hr⟩ := ih (scale + 1) h
      refine ⟨r, fun fuel hfuel => ?_⟩
      obtain ⟨fuel, rfl⟩ := Nat.exists_eq_succ_of_ne_zero (Nat.ne_of_gt (Nat.zero_lt_of_lt hfuel))
      rw [doubleTo64, if_pos hlt]
      exact hr fuel (Nat.lt_of_succ_lt_succ hfuel)
    · refine ⟨(temp, scale), fun fuel hfuel => ?_⟩
      obtain ⟨fuel, rfl⟩ := Nat.exists_eq_succ_of_ne_zero (Nat.ne_of_gt (Nat.zero_lt_of_lt hfuel))
      rw [doubleTo64, if_neg hlt]

omit [Add F] [Sub F] [Div F] in
theorem fillScale_terminates (hF : DoublingReaches64 F) (temp : F) :
    ∃ n scale, ∀ fuel, n < fuel → fillScale fuel temp = some scale := by
  by_cases hpos : temp > ofInt 0
  · obtain ⟨n, hn⟩ := hF temp hpos
    obtain ⟨r, hr⟩ := doubleTo64_terminates 0 hn
    refine ⟨n, r.2, fun fuel hfuel => ?_⟩
    rw [fillScale, if_pos hpos, hr fuel hfuel]
    rfl
  · exact ⟨0, 0, fun fuel _ => if_neg hpos⟩

/-- The extraction of any image ends, with one result for all fuel that suffices. -/
theorem extractParameters_terminates (hF : DoublingReaches64 F) (eeData : EEPROM) :
    ∃ n ktaScale kvScale, ∀ fuel, n < fuel → ∀ stack mlx90640,
      extractParameters (F := F) stack fuel eeData mlx90640 =
        some (calibrate eeData ktaScale kvScale mlx90640) := by
  obtain ⟨n1, ktaScale, hkta⟩ := fillScale_terminates hF (largest fabs (ktaValue eeData))
  obtain ⟨n2, kvScale, hkv⟩ := fillScale_terminates hF (largest fabs (kvValue eeData))
  refine ⟨max n1 n2, ktaScale, kvScale, fun fuel hfuel stack mlx90640 => ?_⟩
  rw [extractParameters_eq, hkta fuel (by omega), hkv fuel (by omega)]
  rfl

theorem extractParameters_sparse (hF : DoublingReaches64 F) {eeData : EEPROM}
    (h : sparse eeData) :
    ∃ n, ∀ fuel, n < fuel → ∀ stack (mlx90640 : ParamsMLX90640 F), ∃ params,
      extractParameters stack fuel eeData mlx90640 = some (0, params) := by
  obtain ⟨n, ktaScale, kvScale, hrun⟩ := extractParameters_terminates hF eeData
  refine ⟨n, fun fuel hfuel stack mlx90640 => ?_⟩
  have hresult := hrun fuel hfuel stack mlx90640
  rw [calibrate, extractDeviatingPixels_eq, (warning_scan_eq_zero_iff eeData).mpr h] at hresult
  exact ⟨_, hresult⟩

/-- Exact arithmetic doubles past 64. -/
theorem doublingReaches64_exact {K : Type} [Field K] [LinearOrder K] [IsStrictOrderedRing K]
    [FloorRing K] : DoublingReaches64 K := by
  intro x hx
  have hpos : 0 < x := by simpa [ofInt, lit] using hx
  have hiter : ∀ n : Nat, (· * ofInt 2)^[n] x = x * 2 ^ n := by
    intro n
    induction n with
    | zero => simp
    | succ n ih =>
      rw [Function.iterate_succ_apply', ih, pow_succ, ← mul_assoc]
      simp [ofInt, lit]
  obtain ⟨n, hn⟩ := pow_unbounded_of_one_lt (64 / x) (one_lt_two (α := K))
  refine ⟨n, not_lt.mpr ?_⟩
  rw [hiter n]
  have h64 : (ofInt 64 : K) = 64 := by simp [ofInt, lit]
  rw [h64, mul_comm]
  exact ((div_lt_iff₀ hpos).mp hn).le

/-- No stale calibration: two extractions of one image, started from any two records and
any two stacks, give the same return code and the same record, and both end when doubling
does. -/
theorem extractParameters_no_stale (eeData : EEPROM) :
    (∀ fuel stack stack' (mlx90640 mlx90640' : ParamsMLX90640 F),
      extractParameters stack fuel eeData mlx90640 =
        extractParameters stack' fuel eeData mlx90640') ∧
    (DoublingReaches64 F → ∃ n, ∀ fuel fuel', n < fuel → n < fuel' →
      ∀ stack stack' (mlx90640 mlx90640' : ParamsMLX90640 F), ∃ result,
        extractParameters stack fuel eeData mlx90640 = some result ∧
        extractParameters stack' fuel' eeData mlx90640' = some result) := by
  constructor
  · intro fuel stack stack' mlx90640 mlx90640'
    simp only [extractParameters_eq, calibrate_congr eeData _ _ mlx90640 mlx90640']
  · intro hF
    obtain ⟨n, ktaScale, kvScale, hrun⟩ := extractParameters_terminates hF eeData
    refine ⟨n, fun fuel fuel' hfuel hfuel' stack stack' mlx90640 mlx90640' => ?_⟩
    refine ⟨calibrate eeData ktaScale kvScale mlx90640, hrun fuel hfuel stack mlx90640, ?_⟩
    rw [hrun fuel' hfuel' stack' mlx90640', calibrate_congr]

/-- An image with a single non-zero word in front of the pixel data, in rational arithmetic. -/
theorem extractParameters_no_stale_rational :
    ∃ n, ∀ fuel fuel', n < fuel → n < fuel' →
      ∀ stack stack' (mlx90640 mlx90640' : ParamsMLX90640 ℚ), ∃ result,
        extractParameters stack fuel (fun k => if k = 54 then 0x1234 else 0) mlx90640 =
          some result ∧
        extractParameters stack' fuel' (fun k => if k = 54 then 0x1234 else 0) mlx90640' =
          some result :=
  (extractParameters_no_stale (F := ℚ) fun k => if k = 54 then 0x1234 else 0).2
    doublingReaches64_exact

end Mlx90640.Calibration.Parameters
