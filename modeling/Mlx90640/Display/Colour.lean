import Mlx90640.Calibration.Decoding
import Mathlib.Algebra.Order.AbsoluteValue.Basic
import Mathlib.Tactic.Linarith
import Mathlib.Tactic.Positivity
import Mathlib.Tactic.FieldSimp

/-!
# The colour of a temperature

`Temp2RGB` turns a temperature into hue, saturation and intensity, these into red, green and
blue, and packs the three channels into an RGB565 word. The grey level is scaled by 255 / 80
and the highest temperature of the frame, to which it is compared, is not. The cosine and the
sine are parameters.
-/
namespace Mlx90640.Display.Colour

open Mlx90640.Calibration
open Mlx90640.Calibration.Extract
open Mlx90640.Calibration.Decoding
open Mlx90640.Lib.BitField

section Code

variable {F : Type} [Add F] [Sub F] [Mul F] [Div F] [CFloat F] [LinearOrder F]

/-- The quantities that `Temp2RGB` narrows to `rbits`, `gbits` and `bbits`. -/
structure Channels (F : Type) where
  red : F
  green : F
  blue : F

def channels (cos sin : F → F) (maxTemperature temperature : F) : Channels F :=
  let miniNum : F := lit (2 / 10000)
  let l := maxTemperature
  let pi : F := lit (314 / 100)
  let grey := temperature * ofInt 255 / ofInt 80
  let i := grey
  let h := ofInt 2 * pi * grey / l
  let s := if grey - l / ofInt 2 < miniNum then lit (15 / 10) * grey else lit (15 / 10) * (l - grey)
  let v1 := s * cos h
  let v2 := s * sin h
  let r := i - lit (204 / 1000) * v1 + lit (612 / 1000) * v2
  let g := i - lit (204 / 1000) * v1 - lit (612 / 1000) * v2
  let b := i + lit (408 / 1000) * v1
  ⟨r * lit (125 / 1000), g * lit (250 / 1000), b * lit (125 / 1000)⟩

/-- `(rbits << 11) | (gbits << 5) | bbits` -/
def pack (rbits gbits bbits : UInt16) : UInt16 := (rbits <<< 11) ||| (gbits <<< 5) ||| bbits

/-- `Temp2RGB`. -/
def temp2RGB (cos sin : F → F) (maxTemperature temperature : F) : UInt16 :=
  let c := channels cos sin maxTemperature temperature
  pack (toUInt16 c.red) (toUInt16 c.green) (toUInt16 c.blue)

end Code

theorem pack_toNat {rbits gbits bbits : UInt16} (hr : rbits.toNat < 32) (hg : gbits.toNat < 64)
    (hb : bbits.toNat < 32) :
    (pack rbits gbits bbits).toNat = rbits.toNat * 2048 + gbits.toNat * 32 + bbits.toNat := by
  simp only [pack, UInt16.toNat_or, UInt16.toNat_shiftLeft]
  change (rbits.toNat <<< 11 % 65536) ||| (gbits.toNat <<< 5 % 65536) ||| bbits.toNat = _
  have hred : rbits.toNat <<< 11 % 65536 = rbits.toNat <<< 11 := by
    rw [Nat.shiftLeft_eq]
    omega
  have hgreen : gbits.toNat <<< 5 % 65536 = gbits.toNat <<< 5 := by
    rw [Nat.shiftLeft_eq]
    omega
  have hlow : gbits.toNat <<< 5 ||| bbits.toNat = gbits.toNat * 32 + bbits.toNat := by
    rw [← Nat.shiftLeft_add_eq_or_of_lt (show bbits.toNat < 2 ^ 5 from hb), Nat.shiftLeft_eq]
  have hlowLt : gbits.toNat * 32 + bbits.toNat < 2 ^ 11 := by omega
  rw [hred, hgreen, Nat.or_assoc, hlow, ← Nat.shiftLeft_add_eq_or_of_lt hlowLt, Nat.shiftLeft_eq]
  omega

/-- The word gives its three channels back. -/
structure Unpacks (w rbits gbits bbits : UInt16) : Prop where
  red : field w 11 5 = rbits.toNat
  green : field w 5 6 = gbits.toNat
  blue : field w 0 5 = bbits.toNat

theorem pack_unpacks {rbits gbits bbits : UInt16} (hr : rbits.toNat < 32) (hg : gbits.toNat < 64)
    (hb : bbits.toNat < 32) : Unpacks (pack rbits gbits bbits) rbits gbits bbits := by
  have hword := pack_toNat hr hg hb
  constructor
  · rw [field, hword]
    omega
  · rw [field, hword]
    omega
  · rw [field, hword]
    omega

def Fits (v : ℚ) (n : Nat) : Prop := 0 ≤ v ∧ v < n

/-- The three channels fit their bits, and the word gives them back. -/
structure Packs (cos sin : ℚ → ℚ) (maxTemperature temperature : ℚ) : Prop where
  red : Fits (channels cos sin maxTemperature temperature).red 32
  green : Fits (channels cos sin maxTemperature temperature).green 64
  blue : Fits (channels cos sin maxTemperature temperature).blue 32
  unpacks : Unpacks (temp2RGB cos sin maxTemperature temperature)
    (toUInt16 (channels cos sin maxTemperature temperature).red)
    (toUInt16 (channels cos sin maxTemperature temperature).green)
    (toUInt16 (channels cos sin maxTemperature temperature).blue)

/-- A function that could be the cosine or the sine. -/
def Wave (f : ℚ → ℚ) : Prop := ∀ x, -1 ≤ f x ∧ f x ≤ 1

def grey (temperature : ℚ) : ℚ := 255 * temperature / 80

/-- The grey level lies in the upper half, and so close to the highest temperature of the frame
that neither end of the range of 256 levels is passed. -/
structure InGamut (maxTemperature temperature : ℚ) : Prop where
  upper : 2 / 10000 ≤ grey temperature - maxTemperature / 2
  above : 1224 / 1000 * |maxTemperature - grey temperature| ≤ grey temperature
  below : grey temperature + 1224 / 1000 * |maxTemperature - grey temperature| < 256

section Exact

variable (cos sin : ℚ → ℚ) (maxTemperature temperature : ℚ)

def saturation : ℚ :=
  if grey temperature - maxTemperature / 2 < 2 / 10000 then 15 / 10 * grey temperature
  else 15 / 10 * (maxTemperature - grey temperature)

/-- The hue that the cosine and the sine are taken of. -/
def hue : ℚ := 2 * (314 / 100) * grey temperature / maxTemperature

theorem channels_eq :
    channels cos sin maxTemperature temperature =
      let s := saturation maxTemperature temperature
      let u := cos (hue maxTemperature temperature)
      let v := sin (hue maxTemperature temperature)
      ⟨(grey temperature - 204 / 1000 * (s * u) + 612 / 1000 * (s * v)) * (125 / 1000),
        (grey temperature - 204 / 1000 * (s * u) - 612 / 1000 * (s * v)) * (250 / 1000),
        (grey temperature + 408 / 1000 * (s * u)) * (125 / 1000)⟩ := by
  have hgrey : temperature * ofInt 255 / ofInt 80 = grey temperature := by
    simp only [ofInt_exact, grey]
    push_cast
    ring
  have htwo : (ofInt 2 : ℚ) = 2 := by simp
  simp only [channels, hgrey, htwo, lit, Rat.cast_id]
  rfl

variable {cos sin}

theorem Wave.bounds {f : ℚ → ℚ} (h : Wave f) (s x : ℚ) : -|s| ≤ s * f x ∧ s * f x ≤ |s| := by
  have hle : |s * f x| ≤ |s| := by
    rw [abs_mul]
    exact mul_le_of_le_one_right (abs_nonneg s) (abs_le.mpr (h x))
  exact abs_le.mp hle

theorem toUInt16_lt {v : ℚ} {n : Nat} (h : Fits v n) (hn : n ≤ 65536) : (toUInt16 v).toNat < n := by
  have hfloor : ⌊v⌋₊ < n := (Nat.floor_lt h.1).mpr h.2
  rw [toUInt16_floor h.1 (by omega)]
  exact hfloor

theorem InGamut.packs {maxTemperature temperature : ℚ} (h : InGamut maxTemperature temperature)
    (hcos : Wave cos) (hsin : Wave sin) : Packs cos sin maxTemperature temperature := by
  have hs : saturation maxTemperature temperature =
      15 / 10 * (maxTemperature - grey temperature) := by
    rw [saturation, if_neg (not_lt.mpr h.upper)]
  have habs : |saturation maxTemperature temperature| =
      15 / 10 * |maxTemperature - grey temperature| := by
    rw [hs, abs_mul, abs_of_pos (by norm_num)]
  obtain ⟨hu1, hu2⟩ := hcos.bounds (saturation maxTemperature temperature)
    (hue maxTemperature temperature)
  obtain ⟨hv1, hv2⟩ := hsin.bounds (saturation maxTemperature temperature)
    (hue maxTemperature temperature)
  have habove := h.above
  have hbelow := h.below
  have hnonneg := abs_nonneg (maxTemperature - grey temperature)
  rw [habs] at hu1 hu2 hv1 hv2
  have hred : Fits (channels cos sin maxTemperature temperature).red 32 := by
    rw [channels_eq]
    constructor
    · simp only
      linarith
    · simp only
      push_cast
      linarith
  have hgreen : Fits (channels cos sin maxTemperature temperature).green 64 := by
    rw [channels_eq]
    constructor
    · simp only
      linarith
    · simp only
      push_cast
      linarith
  have hblue : Fits (channels cos sin maxTemperature temperature).blue 32 := by
    rw [channels_eq]
    constructor
    · simp only
      linarith
    · simp only
      push_cast
      linarith
  exact ⟨hred, hgreen, hblue, pack_unpacks (toUInt16_lt hred (by decide))
    (toUInt16_lt hgreen (by decide)) (toUInt16_lt hblue (by decide))⟩

theorem wave_const {c : ℚ} (h : -1 ≤ c ∧ c ≤ 1) : Wave fun _ => c := fun _ => h

theorem red_extremes (h : ∀ cos sin, Wave cos → Wave sin → Packs cos sin maxTemperature temperature) :
    816 / 1000 * |saturation maxTemperature temperature| ≤ grey temperature ∧
      grey temperature + 816 / 1000 * |saturation maxTemperature temperature| < 256 := by
  have hup := (h (fun _ => -1) (fun _ => 1) (wave_const (by norm_num)) (wave_const (by norm_num))).red
  have hdown := (h (fun _ => 1) (fun _ => -1) (wave_const (by norm_num))
    (wave_const (by norm_num))).red
  rw [channels_eq] at hup hdown
  obtain ⟨hup0, hup32⟩ := hup
  obtain ⟨hdown0, hdown32⟩ := hdown
  simp only at hup0 hup32 hdown0 hdown32
  push_cast at hup32 hdown32
  rcases abs_cases (saturation maxTemperature temperature) with ⟨hs, -⟩ | ⟨hs, -⟩
  · rw [hs]
    constructor <;> linarith
  · rw [hs]
    constructor <;> linarith

theorem inGamut_of_packs (hpos : 0 < temperature)
    (h : ∀ cos sin, Wave cos → Wave sin → Packs cos sin maxTemperature temperature) :
    InGamut maxTemperature temperature := by
  have hgrey : 0 < grey temperature := by
    rw [grey]
    positivity
  obtain ⟨hlow, hhigh⟩ := red_extremes maxTemperature temperature h
  by_cases hhalf : grey temperature - maxTemperature / 2 < 2 / 10000
  · -- in the lower half the saturation alone is too large
    have hs : |saturation maxTemperature temperature| = 15 / 10 * grey temperature := by
      rw [saturation, if_pos hhalf, abs_of_pos (by positivity)]
    rw [hs] at hlow
    linarith
  · have hs : |saturation maxTemperature temperature| =
        15 / 10 * |maxTemperature - grey temperature| := by
      rw [saturation, if_neg hhalf, abs_mul, abs_of_pos (by norm_num)]
    rw [hs] at hlow hhigh
    exact ⟨not_lt.mp hhalf, by linarith, by linarith⟩

end Exact

/-- For all waves in place of the cosine and the sine, the channels of a positive temperature
fit their bits exactly when the temperature is in the gamut. -/
theorem colour_packs_iff (maxTemperature temperature : ℚ) (hpos : 0 < temperature) :
    (∀ cos sin, Wave cos → Wave sin → Packs cos sin maxTemperature temperature) ↔
      InGamut maxTemperature temperature :=
  ⟨inGamut_of_packs maxTemperature temperature hpos, fun h _ _ hcos hsin => h.packs hcos hsin⟩

theorem inGamut_room_temperature : InGamut 25 25 := by
  have hgrey : grey (25 : ℚ) = 1275 / 16 := by
    rw [grey]
    norm_num
  have hdistance : |25 - grey (25 : ℚ)| = 875 / 16 := by
    rw [hgrey, abs_of_neg (by norm_num)]
    norm_num
  constructor
  · rw [hgrey]
    norm_num
  · rw [hdistance, hgrey]
    norm_num
  · rw [hdistance, hgrey]
    norm_num

/-- A scene at 25 degrees. -/
theorem colour_packs_room_temperature :
    InGamut 25 25 ∧ ∀ cos sin, Wave cos → Wave sin → Packs cos sin 25 25 :=
  ⟨inGamut_room_temperature, (colour_packs_iff 25 25 (by norm_num)).mpr inGamut_room_temperature⟩

/-- At 100 degrees, the highest temperature of its frame, the red channel does not fit. -/
theorem colour_overflows_at_hundred :
    ¬ ∀ cos sin, Wave cos → Wave sin → Packs cos sin 100 100 := by
  intro h
  have hbelow := (inGamut_of_packs 100 100 (by norm_num) h).below
  rw [grey] at hbelow
  have hnonneg := abs_nonneg (100 - 255 * 100 / 80 : ℚ)
  linarith

end Mlx90640.Display.Colour
