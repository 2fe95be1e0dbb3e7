import Mlx90640.Lib.Overwrite
import Mlx90640.Calibration.Extract
import Mathlib.Data.Nat.Bitwise
import Mathlib.Analysis.Real.Sqrt

/-!
# Temperatures and images from a frame

`MLX90640_CalculateTo` and `MLX90640_GetImage` walk over all 768 pixels and store a value
for those whose readout pattern is the subpage in word 833 of the frame. The pattern is
computed in `int8_t` arithmetic from the pixel number. The read of the two-element
`irDataCP` at that word is checked: an index above 1 makes the model answer `none`.
-/
namespace Mlx90640.Pixels.Temperature

open Mlx90640.Calibration
open Mlx90640.Calibration.Extract
open Mlx90640.Lib.Overwrite

/-- `sqrt`, which only the temperature formula uses. -/
class CSqrt (F : Type) where
  sqrt : F → F

export CSqrt (sqrt)

noncomputable instance exactSqrt : CSqrt ℝ where
  sqrt := Real.sqrt

def ilPattern (pixelNumber : Nat) : Int8 :=
  Int8.ofInt (pixelNumber / 32 - (pixelNumber / 64) * 2)

def chessPattern (pixelNumber : Nat) : Int8 :=
  ilPattern pixelNumber ^^^ Int8.ofInt (pixelNumber - (pixelNumber / 2) * 2)

def conversionPattern (pixelNumber : Nat) : Int8 :=
  Int8.ofInt ((((pixelNumber + 2) / 4 : Nat) - ((pixelNumber + 3) / 4 : Nat) +
    ((pixelNumber + 1) / 4 : Nat) - (pixelNumber / 4 : Nat)) * (1 - 2 * (ilPattern pixelNumber).toInt))

/-- `(frameData[832] & 0x1000) >> 5`. -/
def frameMode (frameData : Nat → UInt16) : UInt8 := (bits (frameData 832) 0x1000 5).toUInt8

def pattern (mode : UInt8) (pixelNumber : Nat) : Int8 :=
  if mode = 0 then ilPattern pixelNumber else chessPattern pixelNumber

variable {F : Type} [Add F] [Sub F] [Mul F] [Div F] [LT F] [DecidableLT F] [CFloat F]

/-- `float x = frameData[k]; if(x > 32767) x = x - 65536;` -/
def frameValue (frameData : Nat → UInt16) (k : Nat) : F := signedFloat (frameData k) 32767 65536

def getVdd (frameData : Nat → UInt16) (params : ParamsMLX90640 F) : F :=
  let vdd : F := frameValue frameData 810
  let resolutionRAM := (bits (frameData 832) 0x0C00 10).toNat
  let resolutionCorrection : F := pow2 params.resolutionEE.toNat / pow2 resolutionRAM
  (resolutionCorrection * vdd - ofInt params.vdd25.toInt) / ofInt params.kVdd.toInt + lit (33 / 10)

def getTa (frameData : Nat → UInt16) (params : ParamsMLX90640 F) : F :=
  let vdd := getVdd frameData params
  let ptat : F := frameValue frameData 800
  let ptatArt : F := frameValue frameData 768
  let ptatArt := (ptat / (ptat * params.alphaPTAT + ptatArt)) * pow2 18
  let ta := ptatArt / (ofInt 1 + params.kvPTAT * (vdd - lit (33 / 10))) - ofInt params.vPTAT25.toNat
  ta / params.ktPTAT + ofInt 25

def frameGain (frameData : Nat → UInt16) (params : ParamsMLX90640 F) : F :=
  ofInt params.gainEE.toInt / frameValue frameData 778

/-- `(1 + kta * (ta - 25)) * (1 + kv * (vdd - 3.3f))` applied to an offset. -/
def drift (offset kta kv ta vdd : F) : F :=
  offset * (ofInt 1 + kta * (ta - ofInt 25)) * (ofInt 1 + kv * (vdd - lit (33 / 10)))

/-- The two compensation pixels. -/
def irDataCP (frameData : Nat → UInt16) (params : ParamsMLX90640 F) : Fin 2 → F :=
  let vdd := getVdd frameData params
  let ta := getTa frameData params
  let gain := frameGain frameData params
  let irDataCP0 : F := frameValue frameData 776 * gain
  let irDataCP1 : F := frameValue frameData 808 * gain
  let irDataCP0 := irDataCP0 - drift (ofInt (params.cpOffset 0).toInt) params.cpKta params.cpKv ta vdd
  let irDataCP1 :=
    if frameMode frameData = params.calibrationModeEE then
      irDataCP1 - drift (ofInt (params.cpOffset 1).toInt) params.cpKta params.cpKv ta vdd
    else
      irDataCP1 - drift (ofInt (params.cpOffset 1).toInt + params.ilChessC 0) params.cpKta
        params.cpKv ta vdd
  ![irDataCP0, irDataCP1]

/-- `irDataCP[subPage]`. -/
def irDataCPAt (irDataCP : Fin 2 → F) (subPage : UInt16) : Option F :=
  if h : subPage.toNat < 2 then some (irDataCP ⟨subPage.toNat, h⟩) else none

/-- The steps both loop bodies share: gain, drift of the offset, and the correction for a
readout mode other than the calibrated one. -/
def pixelIrData (frameData : Nat → UInt16) (params : ParamsMLX90640 F) (pixelNumber : Fin 768) : F :=
  let vdd := getVdd frameData params
  let ta := getTa frameData params
  let irData : F := frameValue frameData pixelNumber * frameGain frameData params
  let kta : F := ofInt (params.kta pixelNumber).toInt / pow2 params.ktaScale.toNat
  let kv : F := ofInt (params.kv pixelNumber).toInt / pow2 params.kvScale.toNat
  let irData := irData - drift (ofInt (params.offset pixelNumber).toInt) kta kv ta vdd
  if frameMode frameData ≠ params.calibrationModeEE then
    irData + params.ilChessC 2 * ofInt (2 * (ilPattern pixelNumber).toInt - 1) -
      params.ilChessC 1 * ofInt (conversionPattern pixelNumber).toInt
  else irData

/-- The sensitivity correction of the four temperature ranges. -/
def alphaCorrR (params : ParamsMLX90640 F) : Fin 4 → F :=
  let alphaCorrR0 := ofInt 1 / (ofInt 1 + params.ksTo 0 * ofInt 40)
  let alphaCorrR2 := ofInt 1 + params.ksTo 1 * ofInt (params.ct 2).toInt
  let alphaCorrR3 := alphaCorrR2 *
    (ofInt 1 + params.ksTo 2 * ofInt ((params.ct 3).toInt - (params.ct 2).toInt))
  ![alphaCorrR0, ofInt 1, alphaCorrR2, alphaCorrR3]

def temperatureRange (params : ParamsMLX90640 F) (To : F) : Fin 4 :=
  if To < ofInt (params.ct 1).toInt then 0
  else if To < ofInt (params.ct 2).toInt then 1
  else if To < ofInt (params.ct 3).toInt then 2
  else 3

/-- `tr4 - (tr4-ta4)/emissivity`. -/
def reflected (ta tr emissivity : F) : F :=
  let ta4 := ta + lit (27315 / 100)
  let ta4 := ta4 * ta4
  let ta4 := ta4 * ta4
  let tr4 := tr + lit (27315 / 100)
  let tr4 := tr4 * tr4
  let tr4 := tr4 * tr4
  tr4 - (tr4 - ta4) / emissivity

/-- The temperature of a pixel from its compensated signal `irData`. -/
def objectTemperature [CSqrt F] (params : ParamsMLX90640 F) (ta taTr irData : F)
    (pixelNumber : Fin 768) : F :=
  let alphaScale : F := pow2 params.alphaScale.toNat
  let alphaCompensated := lit (1 / 1000000) * alphaScale / ofInt (params.alpha pixelNumber).toNat
  let alphaCompensated := alphaCompensated * (ofInt 1 + params.ksTa * (ta - ofInt 25))
  let Sx := alphaCompensated * alphaCompensated * alphaCompensated *
    (irData + alphaCompensated * taTr)
  let Sx := sqrt (sqrt Sx) * params.ksTo 1
  let To := sqrt (sqrt (irData / (alphaCompensated * (ofInt 1 - params.ksTo 1 * lit (27315 / 100)) +
    Sx) + taTr)) - lit (27315 / 100)
  let range := temperatureRange params To
  sqrt (sqrt (irData / (alphaCompensated * alphaCorrR params range *
    (ofInt 1 + params.ksTo range.castSucc * (To - ofInt (params.ct range.castSucc).toInt))) + taTr)) -
    lit (27315 / 100)

/-- The value `MLX90640_CalculateTo` computes under its guard. -/
def pixelTemperature [CSqrt F] (frameData : Nat → UInt16) (params : ParamsMLX90640 F)
    (emissivity tr : F) (pixelNumber : Fin 768) : Option F := do
  let subPage := frameData 833
  let ta := getTa frameData params
  let taTr := reflected ta tr emissivity
  let irData := pixelIrData frameData params pixelNumber
  let irDataCP ← irDataCPAt (irDataCP frameData params) subPage
  let irData := irData - params.tgc * irDataCP
  let irData := irData / emissivity
  return objectTemperature params ta taTr irData pixelNumber

def calculateTo [CSqrt F] (frameData : Nat → UInt16) (params : ParamsMLX90640 F) (emissivity tr : F)
    (result : Fin 768 → F) : Option (Fin 768 → F) :=
  storeWhere
    (fun pixelNumber =>
      (pattern (frameMode frameData) pixelNumber).toInt = (frameData 833).toNat)
    (pixelTemperature frameData params emissivity tr) result

/-- The value `MLX90640_GetImage` computes under its guard. -/
def pixelImage (frameData : Nat → UInt16) (params : ParamsMLX90640 F) (pixelNumber : Fin 768) :
    Option F := do
  let subPage := frameData 833
  let irData := pixelIrData frameData params pixelNumber
  let irDataCP ← irDataCPAt (irDataCP frameData params) subPage
  let irData := irData - params.tgc * irDataCP
  let alphaCompensated := ofInt (params.alpha pixelNumber).toNat
  return irData * alphaCompensated

def getImage (frameData : Nat → UInt16) (params : ParamsMLX90640 F) (result : Fin 768 → F) :
    Option (Fin 768 → F) :=
  storeWhere
    (fun pixelNumber =>
      (pattern (frameMode frameData) pixelNumber).toInt = (frameData 833).toNat)
    (pixelImage frameData params) result

/-- Bit 12 of word 832: the frame was read in chess mode. -/
def isChess (frameData : Nat → UInt16) : Prop := frameData 832 &&& 0x1000 ≠ 0

instance (frameData : Nat → UInt16) : Decidable (isChess frameData) :=
  inferInstanceAs (Decidable (_ ≠ _))

/-- The subpage a pixel is read with: the parity of its row, in chess mode of row and
column. -/
def subpageOf (chess : Prop) [Decidable chess] (p : Nat) : Nat :=
  if chess then (p / 32 + p % 32) % 2 else p / 32 % 2

theorem ilPattern_eq (p : Nat) : ilPattern p = if p / 32 % 2 = 0 then 0 else 1 := by
  have hdiff : (p : Int) / 32 - p / 64 * 2 = ((p / 32 % 2 : Nat) : Int) := by omega
  rw [ilPattern, hdiff]
  rcases Nat.mod_two_eq_zero_or_one (p / 32) with h | h <;> rw [h] <;> rfl

theorem chessPattern_eq (p : Nat) :
    chessPattern p = if (p / 32 + p % 32) % 2 = 0 then 0 else 1 := by
  have hdiff : (p : Int) - p / 2 * 2 = ((p % 2 : Nat) : Int) := by omega
  have hcolumn : p % 32 % 2 = p % 2 := by omega
  rw [chessPattern, ilPattern_eq, hdiff, Nat.add_mod, hcolumn]
  rcases Nat.mod_two_eq_zero_or_one (p / 32) with h | h <;>
    rcases Nat.mod_two_eq_zero_or_one p with h' | h' <;> rw [h, h'] <;> rfl

theorem frameMode_eq_zero_iff (frameData : Nat → UInt16) :
    frameMode frameData = 0 ↔ ¬isChess frameData := by
  have hbit : frameData 832 &&& 0x1000 = 0 ∨ frameData 832 &&& 0x1000 = 0x1000 := by
    have hand : (frameData 832 &&& 0x1000).toNat =
        ((frameData 832).toNat.testBit 12).toNat * 2 ^ 12 := by
      rw [UInt16.toNat_and]
      exact Nat.and_two_pow _ 12
    cases hb : (frameData 832).toNat.testBit 12 with
    | false =>
      left
      apply UInt16.toNat_inj.mp
      rw [hand, hb]
      rfl
    | true =>
      right
      apply UInt16.toNat_inj.mp
      rw [hand, hb]
      rfl
  rw [isChess, frameMode, bits]
  rcases hbit with h | h <;> rw [h] <;> decide

/-- The `int8_t` arithmetic of both loops computes the parity. -/
theorem pattern_toInt (frameData : Nat → UInt16) (p : Nat) :
    (pattern (frameMode frameData) p).toInt = (subpageOf (isChess frameData) p : Int) := by
  rw [pattern, subpageOf]
  by_cases hchess : isChess frameData
  · rw [if_neg fun h => (frameMode_eq_zero_iff frameData).mp h hchess, if_pos hchess,
      chessPattern_eq]
    rcases Nat.mod_two_eq_zero_or_one (p / 32 + p % 32) with h | h <;> rw [h] <;> rfl
  · rw [if_pos ((frameMode_eq_zero_iff frameData).mpr hchess), if_neg hchess, ilPattern_eq]
    rcases Nat.mod_two_eq_zero_or_one (p / 32) with h | h <;> rw [h] <;> rfl

theorem subpageOf_lt (chess : Prop) [Decidable chess] (p : Nat) : subpageOf chess p < 2 := by
  rw [subpageOf]
  split <;> omega

/-- The pixels of the subpage named by word 833. -/
def ofSubpage (frameData : Nat → UInt16) (p : Fin 768) : Prop :=
  subpageOf (isChess frameData) p = (frameData 833).toNat

theorem pattern_guard (frameData : Nat → UInt16) (p : Fin 768) :
    (pattern (frameMode frameData) p).toInt = (frameData 833).toNat ↔ ofSubpage frameData p := by
  rw [pattern_toInt, ofSubpage]
  omega

/-- Under the guard, word 833 is an index of the two-element array. -/
theorem irDataCPAt_of_guard {α : Type} {frameData : Nat → UInt16} {p : Fin 768} (cp : Fin 2 → α)
    (h : (pattern (frameMode frameData) p).toInt = (frameData 833).toNat) :
    ∃ x, irDataCPAt cp (frameData 833) = some x := by
  have hlt : (frameData 833).toNat < 2 := by
    rw [← (pattern_guard frameData p).mp h]
    exact subpageOf_lt _ _
  exact ⟨_, dif_pos hlt⟩

theorem storeWhere_overwrites {α : Type} [Nonempty α] {frameData : Nat → UInt16}
    {value : Fin 768 → Option α}
    (hvalue : ∀ p : Fin 768, (pattern (frameMode frameData) p).toInt = (frameData 833).toNat →
      ∃ x, value p = some x) :
    Overwrites (storeWhere (fun pixelNumber : Fin 768 =>
      (pattern (frameMode frameData) pixelNumber).toInt = (frameData 833).toNat) value)
      (ofSubpage frameData) :=
  (overwrites_storeWhere hvalue).congr (pattern_guard frameData)

/-- Under the guard, the temperature formula does not fault. -/
theorem pixelTemperature_of_guard [CSqrt F] {frameData : Nat → UInt16} {params : ParamsMLX90640 F}
    {emissivity tr : F} (p : Fin 768)
    (hp : (pattern (frameMode frameData) p).toInt = (frameData 833).toNat) :
    ∃ x, pixelTemperature frameData params emissivity tr p = some x := by
  obtain ⟨cp, hcp⟩ := irDataCPAt_of_guard (irDataCP frameData params) hp
  rw [pixelTemperature, hcp]
  exact ⟨_, rfl⟩

theorem calculateTo_overwrites [CSqrt F] (frameData : Nat → UInt16) (params : ParamsMLX90640 F)
    (emissivity tr : F) :
    Overwrites (calculateTo frameData params emissivity tr) (ofSubpage frameData) := by
  have : Nonempty F := ⟨ofInt 0⟩
  exact storeWhere_overwrites pixelTemperature_of_guard

theorem calculateTo_cell [CSqrt F] {frameData : Nat → UInt16} {params : ParamsMLX90640 F}
    {emissivity tr : F} {result result' : Fin 768 → F}
    (h : calculateTo frameData params emissivity tr result = some result') {p : Fin 768}
    (hp : ofSubpage frameData p) :
    pixelTemperature frameData params emissivity tr p = some (result' p) := by
  have : Nonempty F := ⟨ofInt 0⟩
  exact storeWhere_cell pixelTemperature_of_guard h ((pattern_guard frameData p).mpr hp)

theorem getImage_overwrites (frameData : Nat → UInt16) (params : ParamsMLX90640 F) :
    Overwrites (getImage frameData params) (ofSubpage frameData) := by
  have : Nonempty F := ⟨ofInt 0⟩
  have hvalue : ∀ p : Fin 768, (pattern (frameMode frameData) p).toInt = (frameData 833).toNat →
      ∃ x, pixelImage frameData params p = some x := by
    intro p hp
    obtain ⟨cp, hcp⟩ := irDataCPAt_of_guard (irDataCP frameData params) hp
    rw [pixelImage, hcp]
    exact ⟨_, rfl⟩
  exact storeWhere_overwrites hvalue

/-- Two calls of one function, for the two subpages of one readout mode. -/
structure Partition {α : Type} (call₀ call₁ : (Fin 768 → α) → Option (Fin 768 → α))
    (S₀ S₁ : Fin 768 → Prop) : Prop where
  first : Overwrites call₀ S₀
  second : Overwrites call₁ S₁
  commute : ∀ result, (call₀ result).bind call₁ = (call₁ result).bind call₀
  complete : ∃ image, ∀ result, (call₀ result).bind call₁ = some image

theorem Partition.of_overwrites {α : Type} {call₀ call₁ : (Fin 768 → α) → Option (Fin 768 → α)}
    {S₀ S₁ : Fin 768 → Prop} (h₀ : Overwrites call₀ S₀) (h₁ : Overwrites call₁ S₁)
    (hone : ∀ p, S₀ p ↔ ¬S₁ p) : Partition call₀ call₁ S₀ S₁ where
  first := h₀
  second := h₁
  commute := h₀.commute h₁ fun p hp => (hone p).mp hp
  complete := by
    apply (h₀.comp h₁).total
    intro p
    by_cases hp : S₁ p
    · exact Or.inr hp
    · exact Or.inl ((hone p).mpr hp)

theorem ofSubpage_split {f0 f1 : Nat → UInt16} (hmode : f0 832 &&& 0x1000 = f1 832 &&& 0x1000)
    (h0 : f0 833 = 0) (h1 : f1 833 = 1) (p : Fin 768) : ofSubpage f0 p ↔ ¬ofSubpage f1 p := by
  have hchess : isChess f0 ↔ isChess f1 := by rw [isChess, isChess, hmode]
  have hsame : subpageOf (isChess f0) p = subpageOf (isChess f1) p := by
    simp only [subpageOf, hchess]
  have hlt := subpageOf_lt (isChess f1) p
  rw [ofSubpage, ofSubpage, h0, h1, hsame]
  simp only [UInt16.reduceToNat]
  omega

/-- The subpage partition of both functions. For two frames of one readout mode with
subpage words 0 and 1, each call overwrites exactly the pixels of its subpage, every pixel
belongs to exactly one of the two, the calls commute, and together they leave nothing of
the earlier array; `MLX90640_GetImage` has the same pixel sets. A frame with any other
subpage word writes nothing, and the compensation array is not indexed with it. -/
theorem subpage_partition [CSqrt F] (params : ParamsMLX90640 F) :
    (∀ f0 f1 : Nat → UInt16, f0 832 &&& 0x1000 = f1 832 &&& 0x1000 → f0 833 = 0 → f1 833 = 1 →
      (∀ p, ofSubpage f0 p ↔ ¬ofSubpage f1 p) ∧
      (∀ emissivity₀ tr₀ emissivity₁ tr₁ : F,
        Partition (calculateTo f0 params emissivity₀ tr₀) (calculateTo f1 params emissivity₁ tr₁)
          (ofSubpage f0) (ofSubpage f1)) ∧
      Partition (getImage f0 params) (getImage f1 params) (ofSubpage f0) (ofSubpage f1)) ∧
    ∀ f : Nat → UInt16, f 833 ≠ 0 → f 833 ≠ 1 →
      (∀ (emissivity tr : F) result, calculateTo f params emissivity tr result = some result) ∧
      ∀ result, getImage f params result = some result := by
  constructor
  · intro f0 f1 hmode h0 h1
    have hone := ofSubpage_split hmode h0 h1
    refine ⟨hone, fun emissivity₀ tr₀ emissivity₁ tr₁ => ?_, ?_⟩
    · exact Partition.of_overwrites (calculateTo_overwrites f0 params emissivity₀ tr₀)
        (calculateTo_overwrites f1 params emissivity₁ tr₁) hone
    · exact Partition.of_overwrites (getImage_overwrites f0 params) (getImage_overwrites f1 params) hone
  · intro f h0 h1
    have hnone : ∀ p, ¬ofSubpage f p := by
      intro p hp
      have hlt := subpageOf_lt (isChess f) p
      rw [ofSubpage] at hp
      have hne0 : (f 833).toNat ≠ 0 := fun h => h0 (UInt16.toNat_inj.mp h)
      have hne1 : (f 833).toNat ≠ 1 := fun h => h1 (UInt16.toNat_inj.mp h)
      omega
    exact ⟨fun emissivity tr => (calculateTo_overwrites f params emissivity tr).idle hnone,
      (getImage_overwrites f params).idle hnone⟩

/-- Two chess frames of real-number arithmetic, and one whose subpage word is corrupt. -/
theorem subpage_partition_chess :
    Partition
      (calculateTo (fun k => if k = 832 then 0x1901 else 0) (default : ParamsMLX90640 ℝ) 1 20)
      (calculateTo (fun k => if k = 832 then 0x1901 else if k = 833 then 1 else 0) default 1 20)
      (ofSubpage fun k => if k = 832 then 0x1901 else 0)
      (ofSubpage fun k => if k = 832 then 0x1901 else if k = 833 then 1 else 0) ∧
    ∀ result, calculateTo (fun k => if k = 833 then 0xFFFF else 0) (default : ParamsMLX90640 ℝ) 1 20
      result = some result := by
  obtain ⟨hpartition, hidle⟩ := subpage_partition (default : ParamsMLX90640 ℝ)
  have hchess := hpartition (fun k => if k = 832 then 0x1901 else 0)
    (fun k => if k = 832 then 0x1901 else if k = 833 then 1 else 0) (by decide) (by decide) (by decide)
  have hcorrupt := hidle (fun k => if k = 833 then 0xFFFF else 0) (by decide) (by decide)
  exact ⟨hchess.2.1 1 20 1 20, hcorrupt.1 1 20⟩

end Mlx90640.Pixels.Temperature
