import Mlx90640.Pixels.Correction

/-!
# The order of the corrections

The corrections are done in place, so a replacement could read a pixel replaced before it.
When `ExtractDeviatingPixels` answers 0 it cannot: the differences that
`CheckAdjacentPixels` rejects cover every offset a replacement reads, except the two
pixels at distance 2 in a row, which the code reads only after `IsPixelBad` has cleared
them.
-/
namespace Mlx90640.Pixels.OrderIndependence

open Mlx90640.Calibration
open Mlx90640.Calibration.Deviating
open Mlx90640.Pixels.Correction
open Mlx90640.Lib.InPlace

variable {F : Type}

/-- The entries of a list in front of its terminator. -/
def listed (pixels : Fin 5 → UInt16) : List UInt16 := (List.ofFn pixels).takeWhile (· ≠ 0xFFFF)

/-- The union of the two lists. -/
def deviatingPixels (params : ParamsMLX90640 F) : List UInt16 :=
  listed params.brokenPixels ++ listed params.outlierPixels

theorem ofNat_injective : Function.Injective fun p : Fin 768 => UInt16.ofNat p.val := by
  intro p q h
  have hval := congrArg UInt16.toNat h
  simp only [toNat_ofNat p.isLt, toNat_ofNat q.isLt] at hval
  exact Fin.ext hval

theorem mem_words {l : List (Fin 768)} {p : Fin 768} : UInt16.ofNat p ∈ words l ↔ p ∈ l :=
  List.mem_map_of_injective ofNat_injective

theorem listed_entries {l : List (Fin 768)} (hl : l.length ≤ 4) :
    listed (entries (l.map Fin.val)) = words l := by
  obtain ⟨n, hn⟩ : ∃ n, 5 - l.length = n + 1 := ⟨4 - l.length, by omega⟩
  have hwords : (l.map Fin.val).map UInt16.ofNat = words l := by simp [words]
  rw [listed, ofFn_entries (by rw [List.length_map]; omega), hwords, List.length_map, hn,
    List.replicate_succ, List.takeWhile_append_of_pos]
  · simp
  · intro w hw
    obtain ⟨p, -, rfl⟩ := List.mem_map.mp hw
    simpa using ofNat_ne_terminator p

theorem exists_words {order : List UInt16} (h : ∀ w ∈ order, ∃ p : Fin 768, UInt16.ofNat p = w) :
    ∃ l, order = words l := by
  induction order with
  | nil => exact ⟨[], rfl⟩
  | cons w rest ih =>
    obtain ⟨p, rfl⟩ := h w List.mem_cons_self
    obtain ⟨l, rfl⟩ := ih fun w hw => h w (List.mem_cons_of_mem _ hw)
    exact ⟨p :: l, rfl⟩

section WellSpaced

variable {eeData : EEPROM} {params : ParamsMLX90640 F} (h : WellSpaced eeData params)
include h

theorem exists_deviating_lists :
    ∃ broken outlier : List (Fin 768), broken.length ≤ 4 ∧ outlier.length ≤ 4 ∧
      params.brokenPixels = entries (broken.map Fin.val) ∧
      params.outlierPixels = entries (outlier.map Fin.val) ∧
      ∀ p : Fin 768, p ∈ broken ++ outlier ↔ isDeviating eeData p := by
  obtain ⟨broken, outlier, hbroken, houtlier⟩ := exists_pixel_lists eeData (Nat.le_refl 768)
  have hfew := h.sparse.1
  rw [hbroken, houtlier, List.length_map, List.length_map] at hfew
  refine ⟨broken, outlier, by omega, by omega, hbroken ▸ h.brokenPixels,
    houtlier ▸ h.outlierPixels, fun p => ?_⟩
  rw [List.mem_append, ← List.mem_map_of_injective Fin.val_injective, ← hbroken,
    ← List.mem_map_of_injective Fin.val_injective, ← houtlier, mem_brokenBelow, mem_outliersBelow]
  simp [isDeviating, p.isLt]

theorem not_isDeviating_of_isPixelBad {q : Fin 768}
    (hq : isPixelBad (UInt16.ofNat q) params = 0) : ¬isDeviating eeData q := by
  obtain ⟨broken, outlier, hb, ho, hbroken, houtlier, hmem⟩ := exists_deviating_lists h
  -- a pixel of a list is the value of some entry
  have hentry : ∀ {l : List (Fin 768)}, l.length ≤ 4 → q ∈ l →
      ∃ i, entries (l.map Fin.val) i = UInt16.ofNat q := by
    intro l hl hql
    have hin : UInt16.ofNat q ∈ List.ofFn (entries (l.map Fin.val)) := by
      rw [ofFn_entries (by rw [List.length_map]; omega), List.map_map]
      exact List.mem_append_left _ (List.mem_map_of_mem hql)
    exact List.mem_ofFn.mp hin
  intro hdev
  have hany : ((List.finRange 5).any fun i =>
      UInt16.ofNat q == params.outlierPixels i || UInt16.ofNat q == params.brokenPixels i) = true := by
    rw [List.any_eq_true]
    rcases List.mem_append.mp ((hmem q).mpr hdev) with hql | hql
    · obtain ⟨i, hi⟩ := hentry hb hql
      exact ⟨i, List.mem_finRange i, by simp [hbroken, hi]⟩
    · obtain ⟨i, hi⟩ := hentry ho hql
      exact ⟨i, List.mem_finRange i, by simp [houtlier, hi]⟩
  rw [isPixelBad, if_pos hany] at hq
  cases hq

theorem mem_deviatingPixels (p : Fin 768) :
    UInt16.ofNat p ∈ deviatingPixels params ↔ isDeviating eeData p := by
  obtain ⟨broken, outlier, hb, ho, hbroken, houtlier, hmem⟩ := exists_deviating_lists h
  rw [deviatingPixels, hbroken, houtlier, listed_entries hb, listed_entries ho, List.mem_append,
    mem_words, mem_words, ← hmem, List.mem_append]

variable [Add F] [Sub F] [Div F] [LT F] [DecidableLT F] [CFloat F]

/-- At a deviating pixel the correction reads no deviating pixel. -/
theorem readsOutside (mode : Int) :
    ReadsOutside (rule mode params) fun p : Fin 768 => isDeviating eeData p := by
  intro p hp a b hab
  have hread : ∀ q : Fin 768, reads mode params p q → a q = b q := by
    intro q hq
    apply hab
    intro hdq
    have hnear : p.val ≠ q.val → ¬near p q := h.not_near p.isLt q.isLt hp hdq
    have hp' := p.isLt
    have hq' := q.isLt
    by_cases hmode : mode = 1
    · simp only [reads, hmode, if_true, diagonal, near] at hq hnear
      omega
    · simp only [reads, hmode, if_false, inRow] at hq
      obtain ⟨hrow, hnext | hnext | ⟨hgood, hfar⟩⟩ := hq
      · simp only [near] at hnear
        omega
      · simp only [near] at hnear
        omega
      · exact not_isDeviating_of_isPixelBad h hgood hdq
  obtain ⟨x, hx, hx'⟩ := correctedValue_agree mode params p hread
  exact hx.trans hx'.symm

/-- The simultaneous replacement of all deviating pixels exists, and any list of exactly
these pixels leads to it. -/
theorem exists_simultaneous (mode : Int) (temps : Fin 768 → F) :
    ∃ final : Fin 768 → F,
      (∀ p : Fin 768, isDeviating eeData p → rule mode params p temps = some (final p)) ∧
      (∀ p : Fin 768, ¬isDeviating eeData p → final p = temps p) ∧
      ∀ l : List (Fin 768), (∀ p, p ∈ l ↔ isDeviating eeData p) →
        replaceAll (rule mode params) l temps = some final := by
  choose value hvalue using fun p => rule_total mode params p temps
  refine ⟨fun p => if isDeviating eeData p then value p else temps p, ?_, ?_, ?_⟩
  · intro p hp
    change _ = some (if isDeviating eeData p then value p else temps p)
    rw [if_pos hp]
    exact hvalue p
  · intro p hp
    exact if_neg hp
  · intro l hl
    rw [replaceAll_eq_simultaneous (readsOutside h mode) (fun p hp => (hl p).mp hp)
      (fun p _ => hvalue p)]
    simp only [hl]

/-- The two calls in either order, and every order of the union of the two lists, run the
in-place replacement over the deviating pixels. -/
theorem corrections_eq_replaceAll (mode : Int) (temps final : Fin 768 → F)
    (hfinal : ∀ l : List (Fin 768), (∀ p, p ∈ l ↔ isDeviating eeData p) →
      replaceAll (rule mode params) l temps = some final) :
    correctDeviating mode params temps = some final ∧
      (badPixelsCorrection params.outlierPixels temps mode params).bind
        (badPixelsCorrection params.brokenPixels · mode params) = some final ∧
      ∀ order : List UInt16, order.Perm (deviatingPixels params) →
        correctEntries mode params (order ++ [0xFFFF]) temps = some final := by
  obtain ⟨broken, outlier, hb, ho, hbroken, houtlier, hmem⟩ := exists_deviating_lists h
  have hcorrect : ∀ {l : List (Fin 768)} {pixels : Fin 5 → UInt16}, l.length ≤ 4 →
      pixels = entries (l.map Fin.val) → ∀ temps,
      badPixelsCorrection pixels temps mode params = replaceAll (rule mode params) l temps := by
    rintro l pixels hl rfl temps
    rw [badPixelsCorrection_entries mode params (by omega), if_pos hl]
  refine ⟨?_, ?_, ?_⟩
  · rw [← hfinal (broken ++ outlier) hmem, replaceAll_append]
    simp only [correctDeviating, hcorrect hb hbroken, hcorrect ho houtlier, Option.bind_eq_bind]
  · have hswap : ∀ p, p ∈ outlier ++ broken ↔ isDeviating eeData p := by
      intro p
      rw [← hmem p, List.mem_append, List.mem_append, or_comm]
    rw [← hfinal (outlier ++ broken) hswap, replaceAll_append]
    simp only [hcorrect hb hbroken, hcorrect ho houtlier]
  · intro order horder
    have hunion : deviatingPixels params = words (broken ++ outlier) := by
      rw [deviatingPixels, hbroken, houtlier, listed_entries hb, listed_entries ho, words, words,
        words, List.map_append]
    rw [hunion] at horder
    obtain ⟨l, rfl⟩ := exists_words fun w hw => by
      obtain ⟨p, -, hp⟩ := List.mem_map.mp (horder.mem_iff.mp hw)
      exact ⟨p, hp⟩
    rw [correctEntries_terminated]
    apply hfinal
    intro p
    rw [← mem_words, horder.mem_iff, mem_words, hmem]

end WellSpaced

section Main

variable [Add F] [Sub F] [Div F] [LT F] [DecidableLT F] [CFloat F]

/-- Order independence. With return code 0, the listed pixels can be replaced in any order,
also broken pixels first or outliers first. The result is the simultaneous replacement
from the original array; its values depend on no deviating pixel, and pixels that are not
listed keep theirs. -/
theorem correction_order_independent {eeData : EEPROM} {before params : ParamsMLX90640 F}
    (h : extractDeviatingPixels eeData before = (0, params)) (mode : Int) (temps : Fin 768 → F) :
    (∀ p : Fin 768, UInt16.ofNat p ∈ deviatingPixels params ↔ isDeviating eeData p) ∧
    ∃ final : Fin 768 → F,
      (∀ order : List UInt16, order.Perm (deviatingPixels params) →
        correctEntries mode params (order ++ [0xFFFF]) temps = some final) ∧
      (badPixelsCorrection params.brokenPixels temps mode params).bind
        (badPixelsCorrection params.outlierPixels · mode params) = some final ∧
      (badPixelsCorrection params.outlierPixels temps mode params).bind
        (badPixelsCorrection params.brokenPixels · mode params) = some final ∧
      (∀ p : Fin 768, isDeviating eeData p →
        correctedValue mode params (UInt16.ofNat p) temps = some (final p)) ∧
      (∀ temps' : Fin 768 → F, (∀ q : Fin 768, ¬isDeviating eeData q → temps' q = temps q) →
        ∀ p : Fin 768, isDeviating eeData p →
          correctedValue mode params (UInt16.ofNat p) temps' = some (final p)) ∧
      ∀ p : Fin 768, ¬isDeviating eeData p → final p = temps p := by
  have hspaced := extractDeviatingPixels_ok h
  obtain ⟨final, hdev, hkeep, hfinal⟩ := exists_simultaneous hspaced mode temps
  obtain ⟨hcalls, hswapped, horders⟩ := corrections_eq_replaceAll hspaced mode temps final hfinal
  refine ⟨mem_deviatingPixels hspaced, final, horders, hcalls, hswapped, hdev, ?_, hkeep⟩
  intro temps' htemps p hp
  rw [← hdev p hp]
  exact readsOutside hspaced mode p hp temps' temps htemps

/-- A broken pixel in the corner, an outlier two columns away in the same row: in both
modes the two calls commute. -/
theorem correction_order_independent_corner :
    ∃ params, extractDeviatingPixels (fun k => if k = 64 then 0 else if k = 66 then 3 else 2)
        (default : ParamsMLX90640 ℚ) = (0, params) ∧
      ∀ mode temps, ∃ final,
        (badPixelsCorrection params.brokenPixels temps mode params).bind
          (badPixelsCorrection params.outlierPixels · mode params) = some final ∧
        (badPixelsCorrection params.outlierPixels temps mode params).bind
          (badPixelsCorrection params.brokenPixels · mode params) = some final := by
  have hok := extractDeviatingPixels_eq (fun k => if k = 64 then 0 else if k = 66 then 3 else 2)
    (default : ParamsMLX90640 ℚ)
  have hwarning : warning (scan fun k => if k = 64 then 0 else if k = 66 then 3 else 2) = 0 := by
    decide +kernel
  rw [hwarning] at hok
  refine ⟨_, hok, fun mode temps => ?_⟩
  obtain ⟨-, final, -, hcalls, hswapped, -⟩ := correction_order_independent hok mode temps
  exact ⟨final, hcalls, hswapped⟩

end Main

end Mlx90640.Pixels.OrderIndependence
