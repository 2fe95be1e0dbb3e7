import Mlx90640.Pixels.Temperature
import Mlx90640.Pixels.OrderIndependence

/-!
# No influence of the other subpage

A frame carries one subpage; the other half of the temperature array is older data. The
correction replaces a pixel from its neighbours, so it must not reach into that half. In
chess mode the neighbours are diagonal, in interleaved mode they lie in the row, and both
stay within the pixel's own subpage.
-/
namespace Mlx90640.Pixels.Noninterference

open Mlx90640.Calibration
open Mlx90640.Calibration.Extract
open Mlx90640.Calibration.Deviating
open Mlx90640.Calibration.Parameters
open Mlx90640.Pixels.Correction
open Mlx90640.Pixels.OrderIndependence
open Mlx90640.Pixels.Temperature
open Mlx90640.Lib.Overwrite

section Pattern

variable {F : Type}

/-- A replacement reads pixels of its own subpage, when the correction mode fits the
readout mode. -/
theorem reads_subpageOf {mode : Int} {chess : Prop} [Decidable chess] (hmode : mode = 1 ↔ chess)
    {params : ParamsMLX90640 F} {p q : Nat} (h : reads mode params p q) :
    subpageOf chess q = subpageOf chess p := by
  by_cases hchess : chess
  · have hdiagonal : diagonal p q := by rwa [reads, if_pos (hmode.mpr hchess)] at h
    rw [diagonal] at hdiagonal
    rw [subpageOf, subpageOf, if_pos hchess, if_pos hchess]
    omega
  · have hrow : inRow params p q := by rwa [reads, if_neg fun he => hchess (hmode.mp he)] at h
    rw [subpageOf, subpageOf, if_neg hchess, if_neg hchess, hrow.1]

theorem reads_ofSubpage {mode : Int} {frameData : Nat → UInt16}
    (hmode : mode = 1 ↔ isChess frameData) {params : ParamsMLX90640 F} {p q : Fin 768}
    (h : reads mode params p q) (hp : ofSubpage frameData p) : ofSubpage frameData q := by
  rw [ofSubpage, reads_subpageOf hmode h]
  exact hp

end Pattern

variable {F : Type} [Add F] [Sub F] [Mul F] [Div F] [LT F] [DecidableLT F] [CFloat F]

omit [Mul F] in
/-- Two arrays that agree on the subpage still agree on it after the corrections. -/
theorem correctDeviating_agree {eeData : EEPROM} {params : ParamsMLX90640 F}
    (hspaced : WellSpaced eeData params) {frameData : Nat → UInt16} {mode : Int}
    (hmode : mode = 1 ↔ isChess frameData) {temps temps' : Fin 768 → F}
    (hagree : ∀ p, ofSubpage frameData p → temps p = temps' p) :
    ∃ final final', correctDeviating mode params temps = some final ∧
      correctDeviating mode params temps' = some final' ∧
      (∀ p, ofSubpage frameData p → final p = final' p) ∧
      ∀ p : Fin 768, ¬isDeviating eeData p → final p = temps p ∧ final' p = temps' p := by
  obtain ⟨final, hdev, hkeep, hfinal⟩ := exists_simultaneous hspaced mode temps
  obtain ⟨final', hdev', hkeep', hfinal'⟩ := exists_simultaneous hspaced mode temps'
  refine ⟨final, final', (corrections_eq_replaceAll hspaced mode temps final hfinal).1,
    (corrections_eq_replaceAll hspaced mode temps' final' hfinal').1, ?_, ?_⟩
  · intro p hp
    by_cases hd : isDeviating eeData p
    · -- both replacements read the same pixels, all of this subpage
      obtain ⟨x, hx, hx'⟩ := correctedValue_agree mode params p
        fun q hq => hagree q (reads_ofSubpage hmode hq hp)
      have hval : some (final p) = some x := (hdev p hd).symm.trans hx
      have hval' : some (final' p) = some x := (hdev' p hd).symm.trans hx'
      exact Option.some.inj (hval.trans hval'.symm)
    · rw [hkeep p hd, hkeep' p hd, hagree p hp]
  · intro p hd
    exact ⟨hkeep p hd, hkeep' p hd⟩

/-- Subpage noninterference. After `MLX90640_CalculateTo` and the two corrections, in the
correction mode that fits the frame, two runs from any two arrays agree on the frame's
subpage, and a pixel of the other subpage that is not deviating keeps its earlier value. -/
theorem subpage_noninterference [CSqrt F] {stack : Fin 4 → Scratch F} {fuel : Nat}
    {eeData : EEPROM} {before params : ParamsMLX90640 F}
    (h : extractParameters stack fuel eeData before = some (0, params))
    (frameData : Nat → UInt16) (mode : Int) (hmode : mode = 1 ↔ isChess frameData)
    (emissivity tr : F) (prior prior' : Fin 768 → F) :
    ∃ final final',
      (calculateTo frameData params emissivity tr prior).bind (correctDeviating mode params) =
        some final ∧
      (calculateTo frameData params emissivity tr prior').bind (correctDeviating mode params) =
        some final' ∧
      (∀ p, ofSubpage frameData p → final p = final' p) ∧
      ∀ p : Fin 768, ¬ofSubpage frameData p → ¬isDeviating eeData p →
        final p = prior p ∧ final' p = prior' p := by
  have hspaced := extractParameters_wellSpaced h
  obtain ⟨value, hwrites⟩ := calculateTo_overwrites frameData params emissivity tr
  obtain ⟨temps, htemps, hin, hout⟩ := hwrites prior
  obtain ⟨temps', htemps', hin', hout'⟩ := hwrites prior'
  have hsame : ∀ p, ofSubpage frameData p → temps p = temps' p :=
    fun p hp => (hin p hp).trans (hin' p hp).symm
  obtain ⟨final, final', hfinal, hfinal', hagree, hkeep⟩ :=
    correctDeviating_agree hspaced hmode hsame
  refine ⟨final, final', by rw [htemps]; exact hfinal, by rw [htemps']; exact hfinal', hagree, ?_⟩
  intro p hp hd
  rw [(hkeep p hd).1, (hkeep p hd).2]
  exact ⟨hout p hp, hout' p hp⟩

/-- A broken pixel in row 1, a chess frame of subpage 1 and the chess correction, over the
real numbers. -/
theorem subpage_noninterference_chess :
    ∃ n, ∀ fuel, n < fuel → ∀ stack (before : ParamsMLX90640 ℝ), ∃ params,
      extractParameters stack fuel (fun k => if k = 104 then 0 else 2) before = some (0, params) ∧
      ∀ prior prior', ∃ final final',
        (calculateTo (fun k => if k = 832 then 0x1901 else if k = 833 then 1 else 0) params 1 20
          prior).bind (correctDeviating 1 params) = some final ∧
        (calculateTo (fun k => if k = 832 then 0x1901 else if k = 833 then 1 else 0) params 1 20
          prior').bind (correctDeviating 1 params) = some final' ∧
        ∀ p, ofSubpage (fun k => if k = 832 then 0x1901 else if k = 833 then 1 else 0) p →
          final p = final' p := by
  obtain ⟨n, ktaScale, kvScale, hrun⟩ := extractParameters_terminates (F := ℝ)
    doublingReaches64_exact fun k => if k = 104 then 0 else 2
  refine ⟨n, fun fuel hfuel stack before => ?_⟩
  have hok := hrun fuel hfuel stack before
  have hwarning : warning (scan fun k => if k = 104 then 0 else 2) = 0 := by decide +kernel
  rw [calibrate, extractDeviatingPixels_eq, hwarning] at hok
  refine ⟨_, hok, fun prior prior' => ?_⟩
  obtain ⟨final, final', hfinal, hfinal', hagree, -⟩ := subpage_noninterference hok
    (fun k => if k = 832 then 0x1901 else if k = 833 then 1 else 0) 1 (by decide) 1 20 prior prior'
  exact ⟨final, final', hfinal, hfinal', hagree⟩

end Mlx90640.Pixels.Noninterference
