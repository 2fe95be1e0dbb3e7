import Mlx90640.App.Thermograph
import Mathlib.Tactic.IntervalCases

/-!
# Two passes refresh the image

A pass measures one subpage and repairs the deviating pixels from the image as it then is, so
temperatures of earlier passes are still there after it. Two passes that measure both subpages
leave none of them: image and screen are those of the two frames, whatever went before.
-/
namespace Mlx90640.App.Refresh

open Mlx90640.Bus.Transfer
open Mlx90640.Bus.FrameData
open Mlx90640.Calibration
open Mlx90640.Calibration.Extract
open Mlx90640.Calibration.Deviating
open Mlx90640.Calibration.Parameters
open Mlx90640.Pixels.Correction
open Mlx90640.Pixels.OrderIndependence
open Mlx90640.Pixels.Temperature
open Mlx90640.Display.Interpolation
open Mlx90640.Display.Extremes
open Mlx90640.Display.Rendering
open Mlx90640.Display.FrameBuffers
open Mlx90640.App.Acquisition
open Mlx90640.App.Thermograph

section Image

variable {F : Type} [Add F] [Sub F] [Mul F] [Div F] [LT F] [DecidableLT F] [CFloat F]

omit [Mul F] in
theorem correctDeviating_congr {eeData : EEPROM} {params : ParamsMLX90640 F}
    (hspaced : WellSpaced eeData params) (mode : Int) {temps temps' final : Fin 768 → F}
    (hagree : ∀ p : Fin 768, ¬ isDeviating eeData p → temps' p = temps p)
    (hfinal : correctDeviating mode params temps = some final) :
    correctDeviating mode params temps' = some final ∧
      ∀ p : Fin 768, ¬ isDeviating eeData p → final p = temps p := by
  obtain ⟨image, hdev, hkeep, hall⟩ := exists_simultaneous hspaced mode temps
  obtain ⟨image', hdev', hkeep', hall'⟩ := exists_simultaneous hspaced mode temps'
  have himage := (corrections_eq_replaceAll hspaced mode temps image hall).1
  have himage' := (corrections_eq_replaceAll hspaced mode temps' image' hall').1
  have hsame : image' = image := by
    funext p
    by_cases hp : isDeviating eeData p
    · have hread := readsOutside hspaced mode p hp temps' temps hagree
      rw [hdev' p hp, hdev p hp] at hread
      exact Option.some.inj hread
    · rw [hkeep' p hp, hkeep p hp, hagree p hp]
  rw [hfinal] at himage
  obtain rfl := Option.some.inj himage
  exact ⟨by rw [himage', hsame], hkeep⟩

variable [CSqrt F]

/-- What a pass makes of the image, for the frame that it got. -/
def repaint (frame : Nat → UInt16) (params : ParamsMLX90640 F) (image : Fin 768 → F) :
    Option (Fin 768 → F) :=
  (calculateTo frame params (lit (95 / 100)) (getTa frame params - ofInt 8) image).bind
    (correctDeviating 1 params)

theorem iteration_repaint {σ : Type} {i2cBus : Option (I2CBus σ)} {fuel : Nat}
    {y y' : Globals F × σ} {status : Int} (h : iteration i2cBus fuel y = some (status, y')) :
    repaint y'.1.frame y.1.mlx90640 y.1.mlx90640To = some y'.1.mlx90640To ∧
      y'.1.mlx90640 = y.1.mlx90640 := by
  refine ⟨?_, (iteration_some h).2⟩
  simp only [iteration, Option.bind_eq_bind, Option.bind_eq_some_iff] at h
  obtain ⟨acquired, -, temps, htemps, final, hfinal, hresult⟩ := h
  cases hresult
  exact Option.bind_eq_some_iff.mpr ⟨temps, htemps, hfinal⟩

/-- Two frames of one readout mode, one of each subpage. -/
structure BothSubpages (f g : Nat → UInt16) : Prop where
  mode : f 832 &&& 0x1000 = g 832 &&& 0x1000
  subpages : f 833 = 0 ∧ g 833 = 1 ∨ f 833 = 1 ∧ g 833 = 0

theorem BothSubpages.cover {f g : Nat → UInt16} (h : BothSubpages f g) (p : Fin 768) :
    ofSubpage f p ∨ ofSubpage g p := by
  cases h.subpages with
  | inl hf =>
    have hsplit := ofSubpage_split h.mode hf.1 hf.2 p
    by_cases hp : ofSubpage g p
    · exact Or.inr hp
    · exact Or.inl (hsplit.mpr hp)
  | inr hg =>
    have hsplit := ofSubpage_split h.mode.symm hg.2 hg.1 p
    by_cases hp : ofSubpage f p
    · exact Or.inl hp
    · exact Or.inr (hsplit.mpr hp)

/-- Nothing of the earlier image is left after both subpages. -/
theorem repaint_twice {eeData : EEPROM} {params : ParamsMLX90640 F}
    (hspaced : WellSpaced eeData params) {f g : Nat → UInt16} (h : BothSubpages f g) :
    ∃ image, ∀ before between after, repaint f params before = some between →
      repaint g params between = some after → after = image := by
  classical
  obtain ⟨valueF, hwritesF⟩ :=
    calculateTo_overwrites f params (lit (95 / 100)) (getTa f params - ofInt 8)
  obtain ⟨valueG, hwritesG⟩ :=
    calculateTo_overwrites g params (lit (95 / 100)) (getTa g params - ofInt 8)
  obtain ⟨image, -, -, hall⟩ := exists_simultaneous hspaced 1 fun p : Fin 768 =>
    if ofSubpage g p then valueG p else valueF p
  have himage := (corrections_eq_replaceAll hspaced 1 _ image hall).1
  refine ⟨image, fun before between after hfirst hsecond => ?_⟩
  obtain ⟨temps, htemps, hbetween⟩ := Option.bind_eq_some_iff.mp hfirst
  obtain ⟨temps', htemps', hafter⟩ := Option.bind_eq_some_iff.mp hsecond
  obtain ⟨_, hrun, hin, -⟩ := hwritesF before
  obtain ⟨_, hrun', hin', hout'⟩ := hwritesG between
  rw [htemps] at hrun
  rw [htemps'] at hrun'
  obtain rfl := Option.some.inj hrun
  obtain rfl := Option.some.inj hrun'
  have hkept := (correctDeviating_congr hspaced 1 (fun _ _ => rfl) hbetween).2
  -- a pixel that is not deviating comes from the later of its two measurements
  have hfresh : ∀ p : Fin 768, ¬ isDeviating eeData p →
      temps' p = if ofSubpage g p then valueG p else valueF p := by
    intro p hp
    by_cases hg : ofSubpage g p
    · rw [if_pos hg, hin' p hg]
    · rw [if_neg hg, hout' p hg, hkept p hp, hin p ((h.cover p).resolve_right hg)]
  have hboth := (correctDeviating_congr hspaced 1 hfresh himage).1
  rw [hafter] at hboth
  exact Option.some.inj hboth

end Image

section Screen

variable {F : Type} [Add F] [Sub F] [Mul F] [Div F] [LinearOrder F] [CFloat F] [CInt F] [CSqrt F]
  {σ : Type} (cos sin : F → F) {i2cBus : Option (I2CBus σ)}

theorem pass_iteration {fuel : Nat} {beyond : Int → Int → F} {s s' : State F σ}
    (h : Thermograph.pass cos sin i2cBus fuel beyond s = some s') :
    ∃ status, iteration i2cBus fuel s.acquisition = some (status, s'.acquisition) := by
  cases hiteration : iteration i2cBus fuel s.acquisition with
  | none =>
    unfold State.acquisition at hiteration
    simp [Thermograph.pass, hiteration] at h
  | some result =>
    obtain ⟨frame, -, hdrawn⟩ := pass_eq cos sin i2cBus fuel beyond s hiteration
    rw [hdrawn] at h
    cases h
    exact ⟨result.1, rfl⟩

theorem thermograph_repaint {fuels : Nat → Nat} {beyonds : Nat → Int → Int → F}
    {start s s' : State F σ} {m : Nat}
    (h : thermograph cos sin i2cBus fuels beyonds start m = some s)
    (h' : thermograph cos sin i2cBus fuels beyonds start (m + 1) = some s') :
    repaint s'.globals.frame start.globals.mlx90640 s.globals.mlx90640To =
      some s'.globals.mlx90640To := by
  rw [thermograph, h, Option.bind_some] at h'
  obtain ⟨status, hiteration⟩ := pass_iteration cos sin h'
  have hentry := thermograph_acquisition cos sin i2cBus fuels beyonds start m
  rw [h, Option.map_some] at hentry
  have hparams : s.globals.mlx90640 = start.globals.mlx90640 :=
    thread1Entry_mlx90640 hentry.symm
  rw [← hparams]
  exact (iteration_repaint hiteration).1

theorem thermograph_shown {engine : Engine} {memory : Nat → UInt16} {framebuffer : Nat → UInt8}
    {fuels : Nat → Nat} {beyonds : Nat → Int → Int → F} {globals : Globals F} {device : σ}
    {srcMatrix : Fin 24 → Fin 32 → F} {destMatrix : Fin 240 → Fin 320 → F} {m : Nat} {s : State F σ}
    (h : thermograph cos sin i2cBus fuels beyonds
      (powerOn engine memory framebuffer globals device srcMatrix destMatrix) (m + 1) = some s) :
    ∃ frame, (∀ srcMatrix destMatrix,
        takeFrame s.globals.mlx90640To (beyonds m) srcMatrix destMatrix = some frame) ∧
      ∀ x y, x < 480 → y < 360 →
        s.lcd.shownPixel x y = (rendered cos sin frame x y).getD 0xFFFF := by
  obtain ⟨layer, hlayer, -, hlast⟩ := thermograph_onWhite cos sin i2cBus engine memory fuels beyonds
    (whiten_onWhite engine memory framebuffer) h
  obtain ⟨frame, hframe, rfl⟩ := hlast m rfl
  exact ⟨frame, hframe, fun x y hx hy => hlayer.shownPixel hx hy⟩

/-- With a good extraction, two passes in a row that got frames of both subpages leave no trace of
anything before them: the image, and the picture that the controller shows, are those of the two
frames and the calibration, for every bus, every start and every number of passes before. -/
theorem two_passes_refresh {stack : Fin 4 → Scratch F} {fuel : Nat} {eeData : EEPROM}
    {before params : ParamsMLX90640 F}
    (h : extractParameters stack fuel eeData before = some (0, params)) {f g : Nat → UInt16}
    (hboth : BothSubpages f g) (beyond : Int → Int → F) :
    ∃ (image : Fin 768 → F) (frame : Frame F),
      (∀ srcMatrix destMatrix, takeFrame image beyond srcMatrix destMatrix = some frame) ∧
      ∀ (σ : Type) (i2cBus : Option (I2CBus σ)) (engine : Engine) (memory : Nat → UInt16)
        (framebuffer : Nat → UInt8) (fuels : Nat → Nat) (beyonds : Nat → Int → Int → F)
        (globals : Globals F) (device : σ) (srcMatrix : Fin 24 → Fin 32 → F)
        (destMatrix : Fin 240 → Fin 320 → F) (m : Nat) (s₁ s₂ : State F σ),
        globals.mlx90640 = params → beyonds (m + 1) = beyond →
        thermograph cos sin i2cBus fuels beyonds
          (powerOn engine memory framebuffer globals device srcMatrix destMatrix) (m + 1) = some s₁ →
        thermograph cos sin i2cBus fuels beyonds
          (powerOn engine memory framebuffer globals device srcMatrix destMatrix) (m + 2) = some s₂ →
        s₁.globals.frame = f → s₂.globals.frame = g →
        s₂.globals.mlx90640To = image ∧ ∀ x y, x < 480 → y < 360 →
          s₂.lcd.shownPixel x y = (rendered cos sin frame x y).getD 0xFFFF := by
  obtain ⟨image, himage⟩ := repaint_twice (extractParameters_wellSpaced h) hboth
  obtain ⟨frame, hframe⟩ := takeFrame_total image beyond
  refine ⟨image, frame, hframe, ?_⟩
  intro σ i2cBus engine memory framebuffer fuels beyonds globals device srcMatrix destMatrix m s₁ s₂
    hparams hbeyond h₁ h₂ hf hg
  obtain ⟨s₀, h₀, -⟩ := Option.bind_eq_some_iff.mp h₁
  have hfirst := thermograph_repaint cos sin h₀ h₁
  have hsecond := thermograph_repaint cos sin h₁ h₂
  have hstart : (powerOn engine memory framebuffer globals device srcMatrix
      destMatrix).globals.mlx90640 = params := hparams
  rw [hstart, hf] at hfirst
  rw [hstart, hg] at hsecond
  have hnew := himage _ _ _ hfirst hsecond
  obtain ⟨frame', hframe', hshown⟩ := thermograph_shown cos sin h₂
  rw [hnew, hbeyond] at hframe'
  have hsame : frame' = frame :=
    Option.some.inj ((hframe' srcMatrix destMatrix).symm.trans (hframe srcMatrix destMatrix))
  exact ⟨hnew, hsame ▸ hshown⟩

end Screen

/-- Two acquisitions: the first finds subpage 0 and the second subpage 1. -/
def alternatingScript : Script := fun i =>
  wordsResponse (frameWords (if i % 6 = 0 then 8 else if i = 10 then 1 else 0))

theorem alternatingScript_word (i : Nat) :
    (alternatingScript i).word 0 = if i % 6 = 0 then 8 else if i = 10 then 1 else 0 :=
  wordsResponse_word _ (by decide)

theorem alternatingScript_getFrameData {j : Nat} (hj : j < 2) (frameData : Nat → UInt16) :
    ∃ r fd, getFrameData (some scriptedBus) 1 0x33 frameData (after alternatingScript (6 * j)) =
        some ((r, fd), after alternatingScript (6 * (j + 1))) ∧
      fd 832 = 0 ∧ fd 833 = UInt16.ofNat j := by
  have hready : FirstReady (after alternatingScript (6 * j)) 0 := by
    refine ⟨by omega, ?_⟩
    rw [after, alternatingScript_word, if_pos (by omega)]
    decide
  have hrecheck : recheck (after (after alternatingScript (6 * j)) 1) 0 = UInt16.ofNat j := by
    rw [recheck, after, after, alternatingScript_word, if_neg (by omega)]
    interval_cases j <;> rfl
  have hclear : dataReady (UInt16.ofNat j) = 0 := by interval_cases j <;> rfl
  have hread := getFrameData_clear 0x33 (after alternatingScript (6 * j)) (k := 0) frameData
    (fun _ _ => rfl) (fun _ _ => ⟨rfl, rfl, rfl⟩) rfl hready Nat.one_pos (by decide) (by omega)
    (by rw [hrecheck]; exact hclear)
  have hnext : after (after alternatingScript (6 * j)) (0 + 1 + 4 * (0 + 1) + 1) =
      after alternatingScript (6 * (j + 1)) := by
    rw [after_after]
    rfl
  rw [hnext] at hread
  refine ⟨_, _, hread, ?_, ?_⟩
  · rw [acceptedFrame, Function.update_of_ne (by decide), Function.update_self, after,
      alternatingScript_word, if_neg (by omega), if_neg (by omega)]
  · rw [acceptedFrame, Function.update_self, hrecheck]
    interval_cases j <;> rfl

theorem thread1Entry_alternating (g : Globals ℝ) (hparams : g.mlx90640 = calibrationParams) :
    ∃ y₁ y₂, thread1Entry (some scriptedBus) (fun _ => 1) (g, alternatingScript) 1 = some y₁ ∧
      thread1Entry (some scriptedBus) (fun _ => 1) (g, alternatingScript) 2 = some y₂ ∧
      BothSubpages y₁.1.frame y₂.1.frame := by
  obtain ⟨r₁, fd₁, hread₁, hmode₁, hsub₁⟩ :=
    alternatingScript_getFrameData (j := 0) (by decide) g.frame
  obtain ⟨temps₁, hpass₁⟩ := iteration_returns (some scriptedBus)
    (y := (g, alternatingScript)) (hparams ▸ wellSpaced_calibrationParams) hread₁
  obtain ⟨r₂, fd₂, hread₂, hmode₂, hsub₂⟩ :=
    alternatingScript_getFrameData (j := 1) (by decide) fd₁
  obtain ⟨temps₂, hpass₂⟩ := iteration_returns (some scriptedBus)
    (y := ({ g with frame := fd₁, mlx90640To := temps₁ }, after alternatingScript 6))
    (hparams ▸ wellSpaced_calibrationParams) hread₂
  have hstart : thread1Entry (some scriptedBus) (fun _ => 1) (g, alternatingScript) 0 =
      some (g, alternatingScript) := rfl
  have hentry₁ := thread1Entry_succ.mpr ⟨_, _, hstart, hpass₁⟩
  have hentry₂ := thread1Entry_succ.mpr ⟨_, _, hentry₁, hpass₂⟩
  refine ⟨_, _, hentry₁, hentry₂, ?_, Or.inl ⟨hsub₁, hsub₂⟩⟩
  show fd₁ 832 &&& 0x1000 = fd₂ 832 &&& 0x1000
  rw [hmode₁, hmode₂]

/-- After its two passes the screen shows the frame of the two subpages. -/
theorem two_passes_refresh_alternating :
    ∃ s₁ s₂ : State ℝ Script,
      thermograph (fun _ => 0) (fun _ => 0) (some scriptedBus) (fun _ => 1) (fun _ _ _ => (0 : ℝ))
        (powerOn plainEngine (fun _ => 0) (fun _ => 0)
          { (default : Globals ℝ) with mlx90640 := calibrationParams } alternatingScript
          (fun _ _ => 0) fun _ _ => 0) 1 = some s₁ ∧
      thermograph (fun _ => 0) (fun _ => 0) (some scriptedBus) (fun _ => 1) (fun _ _ _ => (0 : ℝ))
        (powerOn plainEngine (fun _ => 0) (fun _ => 0)
          { (default : Globals ℝ) with mlx90640 := calibrationParams } alternatingScript
          (fun _ _ => 0) fun _ _ => 0) 2 = some s₂ ∧
      ∃ frame, (∀ srcMatrix destMatrix,
          takeFrame s₂.globals.mlx90640To (fun _ _ => 0) srcMatrix destMatrix = some frame) ∧
        ∀ x y, x < 480 → y < 360 → s₂.lcd.shownPixel x y =
          (rendered (fun _ => 0) (fun _ => 0) frame x y).getD 0xFFFF := by
  obtain ⟨y₁, y₂, hentry₁, hentry₂, hboth⟩ := thread1Entry_alternating
    { (default : Globals ℝ) with mlx90640 := calibrationParams } rfl
  have hrun := fun m => thermograph_acquisition (fun _ => (0 : ℝ)) (fun _ => 0) (some scriptedBus)
    (fun _ => 1) (fun _ _ _ => (0 : ℝ)) (powerOn plainEngine (fun _ => 0) (fun _ => 0)
      { (default : Globals ℝ) with mlx90640 := calibrationParams } alternatingScript (fun _ _ => 0)
      fun _ _ => 0) m
  obtain ⟨s₁, hs₁, rfl⟩ := Option.map_eq_some_iff.mp ((hrun 1).trans hentry₁)
  obtain ⟨s₂, hs₂, rfl⟩ := Option.map_eq_some_iff.mp ((hrun 2).trans hentry₂)
  obtain ⟨image, frame, hframe, hshows⟩ := two_passes_refresh (fun _ => (0 : ℝ)) (fun _ => 0)
    (extractParameters_calibrationImage (fun _ => ⟨fun _ => 0, fun _ => 0, fun _ => 0⟩) 0) hboth
    fun _ _ => 0
  obtain ⟨himage, hpicture⟩ := hshows Script (some scriptedBus) plainEngine (fun _ => 0) (fun _ => 0)
    (fun _ => 1) (fun _ _ _ => 0) { (default : Globals ℝ) with mlx90640 := calibrationParams }
    alternatingScript (fun _ _ => 0) (fun _ _ => 0) 0 s₁ s₂ rfl rfl hs₁ hs₂ rfl rfl
  exact ⟨s₁, s₂, hs₁, hs₂, frame, himage ▸ hframe, hpicture⟩

end Mlx90640.App.Refresh
