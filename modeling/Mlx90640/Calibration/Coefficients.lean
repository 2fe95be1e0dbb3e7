import Mlx90640.Lib.Rounding
import Mlx90640.Calibration.Decoding
import Mathlib.Tactic.FieldSimp

/-!
# The Kta and Kv coefficients of the pixels

Both extractors scale 768 coefficients by the power of two that lifts the largest one to
64 or more, and store the rounded results in `int8_t` cells. In exact arithmetic the scale
is described by `Fills`, without the loop that finds it.
-/
namespace Mlx90640.Calibration.Coefficients

open Mlx90640.Lib.BitField
open Mlx90640.Lib.Rounding
open Mlx90640.Lib.Loops
open Mlx90640.Calibration.Extract
open Mlx90640.Calibration.Decoding

section Exact

variable {K : Type} [Field K] [LinearOrder K] [IsStrictOrderedRing K] [FloorRing K]

omit [Field K] [IsStrictOrderedRing K] [FloorRing K] in
theorem largest_spec (g : K → K) (c : Fin 768 → K) :
    (∀ p, g (c p) ≤ largest g c) ∧ ∃ p, largest g c = g (c p) := by
  -- after `i` passes the cells up to `i` are bounded by the running maximum
  have hdone : (∀ p : Fin 768, p.val < 767 + 1 → g (c p) ≤ largest g c) ∧
      ∃ p, largest g c = g (c p) := by
    refine fold_invariant (fun i temp => (∀ p : Fin 768, p.val < i + 1 → g (c p) ≤ temp) ∧
      ∃ p, temp = g (c p)) ?_ ?_
    · refine ⟨fun p hp => ?_, 0, rfl⟩
      obtain rfl : p = 0 := Fin.ext (by simp; omega)
      exact le_rfl
    · rintro i hi temp ⟨hle, hmem⟩
      have hlast : ∀ p : Fin 768, p.val < i + 1 + 1 → p.val < i + 1 ∨ p = ⟨i + 1, by omega⟩ := by
        intro p hp
        rcases Nat.lt_succ_iff_lt_or_eq.mp hp with hlt | heq
        · exact Or.inl hlt
        · exact Or.inr (Fin.ext heq)
      split
      · rename_i hgt
        refine ⟨fun p hp => ?_, _, rfl⟩
        rcases hlast p hp with hlt | rfl
        · exact (hle p hlt).trans hgt.le
        · exact le_rfl
      · rename_i hgt
        refine ⟨fun p hp => ?_, hmem⟩
        rcases hlast p hp with hlt | rfl
        · exact hle p hlt
        · exact not_lt.mp hgt
  exact ⟨fun p => hdone.1 p (by omega), hdone.2⟩

/-- `n` is the least number of doublings that lifts some coefficient to 64 or more in
absolute value, and 0 when there is nothing to lift. -/
structure Fills (c : Fin 768 → K) (n : Nat) : Prop where
  reached : ((∀ p, c p = 0) ∧ n = 0) ∨ ∃ p, 64 ≤ |c p| * 2 ^ n
  least : ∀ i < n, ∀ p, |c p| * 2 ^ i < 64

omit [IsStrictOrderedRing K] in
/-- The loop stops after the least sufficient number of doublings. -/
theorem doubleTo64_exact {bound : Nat} {temp : K} (scale : UInt8) (h : 64 ≤ temp * 2 ^ bound) :
    ∃ n ≤ bound, (∀ fuel, n < fuel →
        doubleTo64 fuel temp scale = some (temp * 2 ^ n, scale + UInt8.ofNat n)) ∧
      64 ≤ temp * 2 ^ n ∧ ∀ i < n, temp * 2 ^ i < 64 := by
  induction bound generalizing temp scale with
  | zero =>
    have hstop : ¬temp < ofInt 64 := by simpa using h
    refine ⟨0, le_rfl, fun fuel hfuel => ?_, h, by omega⟩
    obtain ⟨fuel, rfl⟩ := Nat.exists_eq_succ_of_ne_zero (Nat.ne_of_gt hfuel)
    rw [doubleTo64, if_neg hstop]
    simp
  | succ bound ih =>
    by_cases hlt : temp < 64
    · have hgo : temp < ofInt 64 := by simpa using hlt
      have hdouble : ∀ i : Nat, temp * ofInt 2 * 2 ^ i = temp * 2 ^ (i + 1) := by
        intro i
        rw [ofInt_exact, pow_succ, mul_assoc, mul_comm (2 ^ i), Int.cast_ofNat]
      obtain ⟨n, hn, hrun, hreach, hleast⟩ := ih (scale + 1) (by rwa [hdouble])
      refine ⟨n + 1, by omega, fun fuel hfuel => ?_, by rwa [← hdouble], fun i hi => ?_⟩
      · obtain ⟨fuel, rfl⟩ := Nat.exists_eq_succ_of_ne_zero (Nat.ne_of_gt (Nat.zero_lt_of_lt hfuel))
        rw [doubleTo64, if_pos hgo, hrun fuel (by omega), hdouble]
        congr 2
        rw [UInt8.ofNat_add, UInt8.add_assoc, UInt8.add_comm 1]
        rfl
      · cases i with
        | zero => simpa using hlt
        | succ i =>
          rw [← hdouble]
          exact hleast i (by omega)
    · have hstop : ¬temp < ofInt 64 := by simpa using hlt
      refine ⟨0, Nat.zero_le _, fun fuel hfuel => ?_, by simpa using hlt, by omega⟩
      obtain ⟨fuel, rfl⟩ := Nat.exists_eq_succ_of_ne_zero (Nat.ne_of_gt hfuel)
      rw [doubleTo64, if_neg hstop]
      simp

/-- The scale that both extractors compute, for coefficients that 255 doublings suffice for. -/
theorem fillScale_fills {c : Fin 768 → K}
    (h : (∀ p, c p = 0) ∨ ∃ p, 64 ≤ |c p| * 2 ^ 255) :
    ∃ n < 256, Fills c n ∧
      ∀ fuel, n < fuel → fillScale fuel (largest fabs c) = some (UInt8.ofNat n) := by
  obtain ⟨hle, q, hq⟩ := largest_spec fabs c
  change ∀ p, |c p| ≤ largest fabs c at hle
  change largest fabs c = |c q| at hq
  rcases h with hzero | ⟨p, hp⟩
  · have hlargest : ¬largest fabs c > ofInt 0 := by
      rw [hq, hzero q]
      simp
    refine ⟨0, by decide, ⟨Or.inl ⟨hzero, rfl⟩, by omega⟩, fun fuel _ => ?_⟩
    rw [fillScale, if_neg hlargest]
    rfl
  · have hpow : (0 : K) < 2 ^ 255 := by positivity
    have hreach : 64 ≤ largest fabs c * 2 ^ 255 :=
      hp.trans (mul_le_mul_of_nonneg_right (hle p) hpow.le)
    have hpos : largest fabs c > ofInt 0 := by
      rw [ofInt_exact, Int.cast_zero, gt_iff_lt]
      by_contra hneg
      have hprod := mul_nonpos_of_nonpos_of_nonneg (not_lt.mp hneg) hpow.le
      linarith
    obtain ⟨n, hn, hrun, hfull, hleast⟩ := doubleTo64_exact 0 hreach
    refine ⟨n, by omega, ⟨Or.inr ⟨q, by rwa [← hq]⟩, fun i hi p => ?_⟩, fun fuel hfuel => ?_⟩
    · exact (mul_le_mul_of_nonneg_right (hle p) (by positivity)).trans_lt (hleast i hi)
    · rw [fillScale, if_pos hpos, hrun fuel hfuel]
      simp

theorem Fills.lt {c : Fin 768 → K} {n : Nat} (h : Fills c n) (hn : n ≠ 0) (p : Fin 768) :
    |c p| * 2 ^ n < 128 := by
  obtain ⟨m, rfl⟩ := Nat.exists_eq_succ_of_ne_zero hn
  have hlt := h.least m (Nat.lt_succ_self m) p
  rw [pow_succ, ← mul_assoc]
  linarith

/-- The integer that the last loop converts `x`, scaled, to, before it is narrowed. -/
def converted (scale : UInt8) (x : K) : Int :=
  let temp := x * pow2 scale.toNat
  if temp < ofInt 0 then truncate (temp - lit (1 / 2)) else truncate (temp + lit (1 / 2))

omit [IsStrictOrderedRing K] in
theorem roundedInt8_eq (scale : UInt8) (x : K) :
    roundedInt8 scale x = Int8.ofInt (converted scale x) := by
  simp only [roundedInt8, converted, apply_ite Int8.ofInt]
  rfl

theorem converted_eq (scale : UInt8) (x : K) :
    converted scale x = roundAway (x * 2 ^ scale.toNat) := by
  have hhalf : (lit (1 / 2) : K) = 1 / 2 := by simp [lit]
  simp only [converted, roundAway, ofInt_exact, Int.cast_zero, pow2_exact, hhalf]
  split
  · rename_i hneg
    have hneg' : ¬0 ≤ x * 2 ^ scale.toNat - 1 / 2 := by linarith
    rw [truncate, if_neg hneg', round_eq, ← Int.ceil_neg]
    congr 1
    ring
  · rename_i hneg
    have hpos : 0 ≤ x * 2 ^ scale.toNat + 1 / 2 := by linarith
    rw [truncate, if_pos hpos, round_eq]

/-- A converted value fits `int8_t` unless the scaled coefficient rounds past it. -/
theorem converted_fits_iff (scale : UInt8) (x : K) :
    (-128 ≤ converted scale x ∧ converted scale x ≤ 127) ↔
      -(257 / 2) < x * 2 ^ scale.toNat ∧ x * 2 ^ scale.toNat < 255 / 2 := by
  have hlow := le_roundAway_iff (x * 2 ^ scale.toNat) 128
  have hhigh := roundAway_le_iff (x * 2 ^ scale.toNat) 127
  norm_num at hlow hhigh
  rw [converted_eq, hlow, hhigh]

omit [IsStrictOrderedRing K] in
theorem roundedInt8_toInt {scale : UInt8} {x : K} (hlow : -128 ≤ converted scale x)
    (hhigh : converted scale x ≤ 127) : (roundedInt8 scale x).toInt = converted scale x := by
  rw [roundedInt8_eq]
  exact Int8.toInt_ofInt_of_le (by omega) (by omega)

/-- Multiples of a power of two in reach of 255 doublings. -/
theorem reaches_of_dyadic {c : Fin 768 → K} (z : Fin 768 → ℤ) {e : Nat} (he : e ≤ 249)
    (hc : ∀ p, c p = z p / 2 ^ e) : (∀ p, c p = 0) ∨ ∃ p, 64 ≤ |c p| * 2 ^ 255 := by
  by_cases hzero : ∀ p, z p = 0
  · left
    intro p
    rw [hc, hzero, Int.cast_zero, zero_div]
  · right
    push Not at hzero
    obtain ⟨p, hp⟩ := hzero
    refine ⟨p, ?_⟩
    have hone : (1 : K) ≤ |(z p : K)| := by exact_mod_cast Int.one_le_abs hp
    have hpos : (0 : K) < 2 ^ e := by positivity
    have hpow : (2 : K) ^ 255 = 2 ^ e * 2 ^ (255 - e) := by rw [← pow_add]; congr 1; omega
    have hlarge : (64 : K) ≤ 2 ^ (255 - e) := by
      calc (64 : K) = 2 ^ 6 := by norm_num
        _ ≤ 2 ^ (255 - e) := pow_le_pow_right₀ one_le_two (by omega)
    rw [hc, abs_div, abs_of_pos hpos, hpow, ← mul_assoc, div_mul_cancel₀ _ hpos.ne']
    calc (64 : K) ≤ 2 ^ (255 - e) := hlarge
      _ ≤ |(z p : K)| * 2 ^ (255 - e) := le_mul_of_one_le_left (by positivity) hone

end Exact

theorem split_parities (p : Nat) : split p / 2 = p / 32 % 2 ∧ split p % 2 = p % 32 % 2 := by
  rw [split]
  omega

/-- The Kv nibble for a row parity and a column parity. -/
def kvNibble (eeData : EEPROM) (row column : Nat) : Int :=
  signedField (eeData 52) (4 * (3 - row - 2 * column)) 4

/-- The coefficient of a pixel as the image encodes it. -/
def encodedKv (eeData : EEPROM) (p : Nat) : ℚ :=
  kvNibble eeData (p / 32 % 2) (p % 32 % 2) / 2 ^ field (eeData 56) 8 4

theorem kvTValue_toInt (eeData : EEPROM) (k : Fin 4) :
    (kvTValue eeData k).toInt = kvNibble eeData (k / 2) (k % 2) := by
  match k with
  | 0 | 1 | 2 => exact signedInt8_field (k := 3) (by decide) (toNat_bits 4 (by decide) (by decide))
  | 3 => exact signedInt8_field (k := 3) (by decide) (toNat_and 4 (by decide))

theorem kvValue_eq (eeData : EEPROM) (p : Fin 768) : kvValue eeData p = encodedKv eeData p := by
  obtain ⟨hrow, hcolumn⟩ := split_parities p
  have hscale : (bits (eeData 56) 0x0F00 8).toNat = field (eeData 56) 8 4 :=
    toNat_bits 4 (by decide) (by decide)
  rw [kvValue, kvTValue_toInt, ofInt_exact, pow2_exact, hscale, hrow, hcolumn]
  rfl

/-- A scale that fills the field leaves every scaled coefficient a whole number, because
the nibbles have only four bits. -/
theorem exists_scaled_kv (eeData : EEPROM) {n : Nat}
    (hn : Fills (fun p : Fin 768 => encodedKv eeData p) n) (p : Fin 768) :
    ∃ z : ℤ, encodedKv eeData p * 2 ^ n = z ∧ -128 ≤ z ∧ z ≤ 127 := by
  rcases hn.reached with ⟨hzero, -⟩ | ⟨q, hq⟩
  · refine ⟨0, ?_, by decide, by decide⟩
    rw [hzero p, zero_mul, Int.cast_zero]
  · have hpos : (0 : ℚ) < 2 ^ field (eeData 56) 8 4 := by positivity
    -- a nibble is at most 8 in absolute value, so 64 takes three doublings past the scale
    have hnibble : |(kvNibble eeData (q / 32 % 2) (q % 32 % 2) : ℚ)| ≤ 8 := by
      obtain ⟨hlow, hhigh⟩ := signedField_bounds (eeData 52)
        (4 * (3 - q / 32 % 2 - 2 * (q % 32 % 2))) 3
      have habs : |kvNibble eeData (q / 32 % 2) (q % 32 % 2)| ≤ 8 := abs_le.mpr ⟨hlow, hhigh.le⟩
      exact_mod_cast habs
    have hlarge : (2 : ℚ) ^ (field (eeData 56) 8 4 + 3) ≤ 2 ^ n := by
      simp only [encodedKv, abs_div, abs_of_pos hpos] at hq
      rw [div_mul_eq_mul_div, le_div_iff₀ hpos] at hq
      have hprod := mul_le_mul_of_nonneg_right hnibble (by positivity : (0 : ℚ) ≤ 2 ^ n)
      rw [pow_add]
      linarith
    have hexp : field (eeData 56) 8 4 + 3 ≤ n := (pow_le_pow_iff_right₀ one_lt_two).mp hlarge
    obtain ⟨d, rfl⟩ := Nat.exists_eq_add_of_le (Nat.le_of_add_right_le hexp)
    have hscaled : encodedKv eeData p * 2 ^ (field (eeData 56) 8 4 + d) =
        ((kvNibble eeData (p / 32 % 2) (p % 32 % 2) * 2 ^ d : ℤ) : ℚ) := by
      rw [encodedKv, pow_add, ← mul_assoc, div_mul_cancel₀ _ hpos.ne']
      push_cast
      rfl
    have hlt := hn.lt (by omega) p
    rw [← abs_of_pos (pow_pos (two_pos (α := ℚ)) _), ← abs_mul, hscaled, abs_lt] at hlt
    refine ⟨_, hscaled, ?_, ?_⟩
    · have hlow : (-128 : ℤ) < kvNibble eeData (p / 32 % 2) (p % 32 % 2) * 2 ^ d := by
        exact_mod_cast hlt.1
      omega
    · have hhigh : kvNibble eeData (p / 32 % 2) (p % 32 % 2) * 2 ^ d < (128 : ℤ) := by
        exact_mod_cast hlt.2
      omega

theorem extractKvPixelParameters_exact (eeData : EEPROM) :
    ∃ n, Fills (fun p : Fin 768 => encodedKv eeData p) n ∧
      ∀ fuel, n < fuel → ∀ (stack : Scratch ℚ) mlx90640, ∃ params,
        extractKvPixelParameters stack fuel eeData mlx90640 = some params ∧
        params.kvScale.toNat = n ∧
        ∀ p : Fin 768, params.kv p = roundedInt8 params.kvScale (encodedKv eeData p) := by
  have hvalue : kvValue eeData = fun p : Fin 768 => encodedKv eeData p :=
    funext (kvValue_eq eeData)
  have hscale : field (eeData 56) 8 4 ≤ 249 :=
    (field_lt (eeData 56) 8 4).le.trans (by decide)
  obtain ⟨n, hn, hfills, hrun⟩ := fillScale_fills (c := fun p : Fin 768 => encodedKv eeData p)
    (reaches_of_dyadic _ hscale fun _ => rfl)
  refine ⟨n, hfills, fun fuel hfuel stack mlx90640 => ?_⟩
  rw [extractKvPixelParameters_eq, hvalue, hrun fuel hfuel]
  exact ⟨_, rfl, UInt8.toNat_ofNat_of_lt' hn, fun _ => rfl⟩

/-- Kv is stored without loss: the loop ends, `kvScale` counts its doublings without
wrapping, every converted value fits its cell, and value and scale together are the
encoded coefficient. -/
theorem kv_exact (eeData : EEPROM) :
    ∃ n, ∀ fuel, n < fuel → ∀ (stack : Scratch ℚ) mlx90640, ∃ params,
      extractKvPixelParameters stack fuel eeData mlx90640 = some params ∧
      Fills (fun p : Fin 768 => encodedKv eeData p) params.kvScale.toNat ∧
      ∀ p : Fin 768, -128 ≤ converted params.kvScale (encodedKv eeData p) ∧
        converted params.kvScale (encodedKv eeData p) ≤ 127 ∧
        ((params.kv p).toInt : ℚ) / 2 ^ params.kvScale.toNat = encodedKv eeData p := by
  obtain ⟨n, hfills, hrun⟩ := extractKvPixelParameters_exact eeData
  refine ⟨n, fun fuel hfuel stack mlx90640 => ?_⟩
  obtain ⟨params, hparams, hscale, hkv⟩ := hrun fuel hfuel stack mlx90640
  refine ⟨params, hparams, hscale ▸ hfills, fun p => ?_⟩
  obtain ⟨z, hz, hlow, hhigh⟩ := exists_scaled_kv eeData hfills p
  have hconverted : converted params.kvScale (encodedKv eeData p) = z := by
    rw [converted_eq, hscale, hz, roundAway_intCast]
  have hstored : (params.kv p).toInt = z := by
    rw [hkv, roundedInt8_toInt (by omega) (by omega), hconverted]
  refine ⟨by omega, by omega, ?_⟩
  rw [hstored, hscale, ← hz, mul_div_assoc, div_self (by positivity), mul_one]

/-- The Kta average for a row parity and a column parity. -/
def ktaAverage (eeData : EEPROM) (row column : Nat) : Int :=
  signedField (eeData (54 + column)) (8 * (1 - row)) 8

/-- The coefficient of a pixel as the image encodes it. -/
def encodedKta (eeData : EEPROM) (p : Nat) : ℚ :=
  (ktaAverage eeData (p / 32 % 2) (p % 32 % 2) +
    signedField (eeData (64 + p)) 1 3 * 2 ^ field (eeData 56) 0 4) /
    2 ^ (field (eeData 56) 4 4 + 8)

theorem ktaRCValue_toInt (eeData : EEPROM) (k : Fin 4) :
    (ktaRCValue eeData k).toInt = ktaAverage eeData (k / 2) (k % 2) := by
  match k with
  | 0 | 1 => exact signedInt8_byte (toNat_bits 8 (by decide) (by decide))
  | 2 | 3 => exact signedInt8_byte (toNat_and 8 (by decide))

theorem ktaValue_eq (eeData : EEPROM) (p : Fin 768) : ktaValue eeData p = encodedKta eeData p := by
  obtain ⟨hrow, hcolumn⟩ := split_parities p
  have hrem : (signedFloat (bits (eeData (64 + p)) 0x000E 1) 3 8 : ℚ) =
      signedField (eeData (64 + p)) 1 3 :=
    signedFloat_field (k := 2) (toNat_bits 3 (by decide) (by decide))
  have hscale1 : (bits (eeData 56) 0x00F0 4 + 8).toNat = field (eeData 56) 4 4 + 8 :=
    toNat_bits_add 8 4 (by decide) (by decide) (by decide)
  have hscale2 : (eeData 56 &&& 0x000F).toNat = field (eeData 56) 0 4 := toNat_and 4 (by decide)
  rw [ktaValue, ktaRCValue_toInt, ofInt_exact, ofInt_exact, pow2_exact, hscale1, hscale2, hrow,
    hcolumn, hrem]
  push_cast
  rfl

theorem extractKtaPixelParameters_exact (eeData : EEPROM) :
    ∃ n, Fills (fun p : Fin 768 => encodedKta eeData p) n ∧
      ∀ fuel, n < fuel → ∀ (stack : Scratch ℚ) mlx90640, ∃ params,
        extractKtaPixelParameters stack fuel eeData mlx90640 = some params ∧
        params.ktaScale.toNat = n ∧
        ∀ p : Fin 768, params.kta p = roundedInt8 params.ktaScale (encodedKta eeData p) := by
  have hvalue : ktaValue eeData = fun p : Fin 768 => encodedKta eeData p :=
    funext (ktaValue_eq eeData)
  have hscale : field (eeData 56) 4 4 + 8 ≤ 249 := by
    have hlt := field_lt (eeData 56) 4 4
    omega
  have hdyadic : ∀ p : Fin 768, encodedKta eeData p =
      ((ktaAverage eeData (p / 32 % 2) (p % 32 % 2) +
        signedField (eeData (64 + p)) 1 3 * 2 ^ field (eeData 56) 0 4 : ℤ) : ℚ) /
      2 ^ (field (eeData 56) 4 4 + 8) := by
    intro p
    rw [encodedKta]
    push_cast
    rfl
  obtain ⟨n, hn, hfills, hrun⟩ := fillScale_fills (c := fun p : Fin 768 => encodedKta eeData p)
    (reaches_of_dyadic _ hscale hdyadic)
  refine ⟨n, hfills, fun fuel hfuel stack mlx90640 => ?_⟩
  rw [extractKtaPixelParameters_eq, hvalue, hrun fuel hfuel]
  exact ⟨_, rfl, UInt8.toNat_ofNat_of_lt' hn, fun _ => rfl⟩

/-- The stored coefficient of a pixel: converted without overflow, and within half a unit of
its last place. -/
structure Quantised (params : ParamsMLX90640 ℚ) (p : Fin 768) (x : ℚ) : Prop where
  low : -128 ≤ converted params.ktaScale x
  high : converted params.ktaScale x ≤ 127
  close : |((params.kta p).toInt : ℚ) / 2 ^ params.ktaScale.toNat - x| ≤
    1 / 2 ^ (params.ktaScale.toNat + 1)

/-- The extraction ends and quantises every coefficient. -/
def KtaQuantised (eeData : EEPROM) : Prop :=
  ∃ n, ∀ fuel, n < fuel → ∀ (stack : Scratch ℚ) mlx90640, ∃ params,
    extractKtaPixelParameters stack fuel eeData mlx90640 = some params ∧
    ∀ p, Quantised params p (encodedKta eeData p)

/-- No coefficient lies outside `int8_t` as it stands, and none is rounded up to 128 by a
scaling that keeps all of them below it. -/
def NoOverflow (c : Fin 768 → ℚ) : Prop :=
  ∀ p, -(257 / 2) < c p ∧
    ∀ k : Nat, (k = 0 ∨ ∀ q, |c q| * 2 ^ k < 128) → c p * 2 ^ k < 255 / 2

theorem Fills.le_of_lt {c : Fin 768 → ℚ} {n k : Nat} (h : Fills c n)
    (hk : ∀ q, |c q| * 2 ^ k < 128) : (∀ p, c p = 0) ∨ k ≤ n := by
  rcases h.reached with ⟨hzero, -⟩ | ⟨q, hq⟩
  · exact Or.inl hzero
  · right
    by_contra hlt
    have hpow : (2 : ℚ) ^ (n + 1) ≤ 2 ^ k := pow_le_pow_right₀ one_le_two (by omega)
    have hscaled := mul_le_mul_of_nonneg_left hpow (abs_nonneg (c q))
    rw [pow_succ, ← mul_assoc] at hscaled
    have hbelow := hk q
    linarith

theorem Fills.fits_iff {c : Fin 768 → ℚ} {n : Nat} (h : Fills c n) :
    (∀ p, -(257 / 2) < c p * 2 ^ n ∧ c p * 2 ^ n < 255 / 2) ↔ NoOverflow c := by
  have hone : ∀ k : Nat, (1 : ℚ) ≤ 2 ^ k := fun k => one_le_pow₀ one_le_two
  constructor
  · intro hfits p
    obtain ⟨hlow, hhigh⟩ := hfits p
    -- a smaller scale brings a coefficient closer to zero
    have hsmaller : ∀ k ≤ n, c p * 2 ^ k < 255 / 2 := by
      intro k hk
      by_contra hge
      have hpow : (2 : ℚ) ^ k ≤ 2 ^ n := pow_le_pow_right₀ one_le_two hk
      have hpos : 0 ≤ c p := by
        by_contra hneg
        have := mul_nonpos_of_nonpos_of_nonneg (not_le.mp hneg).le (zero_le_one.trans (hone k))
        linarith
      have := mul_le_mul_of_nonneg_left hpow hpos
      linarith
    refine ⟨?_, fun k hk => ?_⟩
    · by_contra hge
      have hneg : c p ≤ 0 := by linarith
      have := mul_le_mul_of_nonpos_left (hone n) hneg
      linarith
    · rcases hk with rfl | hk
      · exact hsmaller 0 (Nat.zero_le n)
      · rcases h.le_of_lt hk with hzero | hle
        · rw [hzero p, zero_mul]
          norm_num
        · exact hsmaller k hle
  · intro hrange p
    obtain ⟨hlow, hhigh⟩ := hrange p
    by_cases hn : n = 0
    · subst hn
      refine ⟨?_, hhigh 0 (Or.inl rfl)⟩
      rwa [pow_zero, mul_one]
    · refine ⟨?_, hhigh n (Or.inr fun q => h.lt hn q)⟩
      have habs := h.lt hn p
      rw [← abs_of_pos (pow_pos (two_pos (α := ℚ)) n), ← abs_mul, abs_lt] at habs
      linarith [habs.1]

/-- A value that fits is stored within half a unit. -/
theorem quantised_of_fits {params : ParamsMLX90640 ℚ} {p : Fin 768} {x : ℚ}
    (hkta : params.kta p = roundedInt8 params.ktaScale x)
    (hfits : -128 ≤ converted params.ktaScale x ∧ converted params.ktaScale x ≤ 127) :
    Quantised params p x := by
  refine ⟨hfits.1, hfits.2, ?_⟩
  have hpos : (0 : ℚ) < 2 ^ params.ktaScale.toNat := by positivity
  have hround := abs_roundAway_sub (x * 2 ^ params.ktaScale.toNat)
  have hsplit : ∀ z : ℚ, z / 2 ^ params.ktaScale.toNat - x =
      (z - x * 2 ^ params.ktaScale.toNat) / 2 ^ params.ktaScale.toNat := by
    intro z
    rw [sub_div, mul_div_assoc, div_self hpos.ne', mul_one]
  rw [hkta, roundedInt8_toInt hfits.1 hfits.2, converted_eq, hsplit, abs_div, abs_of_pos hpos,
    div_le_iff₀ hpos]
  calc |(roundAway (x * 2 ^ params.ktaScale.toNat) : ℚ) - x * 2 ^ params.ktaScale.toNat|
      ≤ 1 / 2 := hround
    _ = 1 / 2 ^ (params.ktaScale.toNat + 1) * 2 ^ params.ktaScale.toNat := by
      rw [pow_succ]
      field_simp

theorem noOverflow_of_quantised {eeData : EEPROM} (h : KtaQuantised eeData) :
    NoOverflow fun p : Fin 768 => encodedKta eeData p := by
  obtain ⟨n, hfills, hrun⟩ := extractKtaPixelParameters_exact eeData
  obtain ⟨m, hquantised⟩ := h
  obtain ⟨params, hparams, hscale, -⟩ := hrun (max n m + 1) (by omega)
    ⟨fun _ => 0, fun _ => 0, fun _ => 0⟩ default
  obtain ⟨params', hparams', hstored⟩ := hquantised (max n m + 1) (by omega)
    ⟨fun _ => 0, fun _ => 0, fun _ => 0⟩ default
  obtain rfl : params = params' := Option.some.inj (hparams.symm.trans hparams')
  apply hfills.fits_iff.mp
  intro p
  rw [← hscale]
  exact (converted_fits_iff _ _).mp ⟨(hstored p).low, (hstored p).high⟩

/-- The extraction quantises every coefficient exactly when none of them overflows. -/
theorem kta_quantised_iff (eeData : EEPROM) :
    KtaQuantised eeData ↔ NoOverflow fun p : Fin 768 => encodedKta eeData p := by
  refine ⟨noOverflow_of_quantised, fun hrange => ?_⟩
  obtain ⟨n, hfills, hrun⟩ := extractKtaPixelParameters_exact eeData
  refine ⟨n, fun fuel hfuel stack mlx90640 => ?_⟩
  obtain ⟨params, hparams, hscale, hkta⟩ := hrun fuel hfuel stack mlx90640
  refine ⟨params, hparams, fun p => quantised_of_fits (hkta p) ?_⟩
  rw [converted_fits_iff, hscale]
  exact hfills.fits_iff.mpr hrange p

/-- One average of 127 and remainders of 128, in units of 1/256. -/
def overflowImage : EEPROM := fun k =>
  if k = 54 then 0x7F00 else if k = 56 then 0x0007 else 0x0002

theorem encodedKta_overflowImage (p : Fin 768) :
    encodedKta overflowImage p =
      (ktaAverage overflowImage (p / 32 % 2) (p % 32 % 2) + 128) / 256 := by
  have hpixel : overflowImage (64 + p) = 0x0002 := by
    rw [overflowImage, if_neg (by omega), if_neg (by omega)]
  have hrem : signedField 0x0002 1 3 = 1 := by decide
  have hscale2 : field (overflowImage 56) 0 4 = 7 := by decide
  have hscale1 : field (overflowImage 56) 4 4 = 0 := by decide
  rw [encodedKta, hpixel, hrem, hscale1, hscale2]
  norm_num

/-- The largest coefficient is scaled to 127.5, which rounds to 128. -/
theorem kta_overflows_at_half : ¬KtaQuantised overflowImage := by
  intro h
  have hbelow : ∀ q : Fin 768, |encodedKta overflowImage q| * 2 ^ 7 < 128 := by
    intro q
    obtain ⟨hlow, hhigh⟩ := signedField_bounds (overflowImage (54 + q % 32 % 2))
      (8 * (1 - q / 32 % 2)) 7
    have hlow' : (-128 : ℚ) ≤ ktaAverage overflowImage (q / 32 % 2) (q % 32 % 2) := by
      exact_mod_cast hlow
    have hhigh' : (ktaAverage overflowImage (q / 32 % 2) (q % 32 % 2) : ℚ) < 128 := by
      exact_mod_cast hhigh
    rw [encodedKta_overflowImage, abs_of_nonneg (by linarith)]
    linarith
  have hrange : encodedKta overflowImage (0 : Fin 768) * 2 ^ 7 < 255 / 2 :=
    (noOverflow_of_quantised h 0).2 7 (Or.inr hbelow)
  have haverage : ktaAverage overflowImage 0 0 = 127 := by decide
  have hfirst : encodedKta overflowImage (0 : Fin 768) = 255 / 256 := by
    rw [encodedKta_overflowImage]
    change ((ktaAverage overflowImage 0 0 : ℚ) + 128) / 256 = 255 / 256
    rw [haverage]
    norm_num
  rw [hfirst] at hrange
  norm_num at hrange

end Mlx90640.Calibration.Coefficients
