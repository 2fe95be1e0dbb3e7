import Mlx90640.App.Refresh
import Mlx90640.Bus.Snapshot

/-!
# The screen shows the sensor's measurements

Over a free-running sensor an accepted frame is one completed measurement. Two passes in a row
that accept both subpages therefore paint an image of two completed measurements, and the
calibration and the sensor's control word decide the rest: the sensor may measure between any two
words, transfers may fail in earlier passes, and images of earlier passes may be anything.
-/
namespace Mlx90640.App.Measured

open Mlx90640.Bus.Transfer
open Mlx90640.Bus.FrameData
open Mlx90640.Bus.Snapshot
open Mlx90640.Calibration
open Mlx90640.Calibration.Extract
open Mlx90640.Calibration.Deviating
open Mlx90640.Calibration.Parameters
open Mlx90640.Pixels.Correction
open Mlx90640.Pixels.OrderIndependence
open Mlx90640.Pixels.Temperature
open Mlx90640.Display.Interpolation
open Mlx90640.Display.Extremes
open Mlx90640.Display.Rendering
open Mlx90640.Display.FrameBuffers
open Mlx90640.App.Acquisition
open Mlx90640.App.Thermograph
open Mlx90640.App.Refresh

section Control

theorem completes_control (ms : List Measurement) (d : Sensor) :
    (ms.foldl Sensor.complete d).control = d.control := by
  induction ms generalizing d with
  | nil => rfl
  | cons m ms ih => exact ih (d.complete m)

theorem advance_control (w : World) : w.advance.sensor.control = w.sensor.control :=
  completes_control w.tick.completes w.sensor

theorem readWords_control (n : Nat) (addr : UInt16) (w : World) :
    (World.readWords n addr w).2.sensor.control = w.sensor.control := by
  induction n generalizing addr w with
  | zero => rfl
  | succ n ih =>
    rw [World.readWords]
    split
    · exact advance_control w
    · exact (ih (addr + 1) w.advance).trans (advance_control w)

theorem writeTo_control {addr : UInt16} (haddr : addr ≠ 0x800D) (data : UInt16) (w : World) :
    (w.writeTo addr data).2.sensor.control = w.sensor.control := by
  have hdeliver : (w.advance.deliver w.tick.statusBits addr data).sensor.control =
      w.sensor.control := by
    rw [World.deliver, Sensor.write, if_neg haddr]
    split
    · exact advance_control w
    · exact advance_control w
  unfold World.writeTo
  split
  · exact hdeliver
  · split
    · exact hdeliver
    · exact advance_control w

variable (slaveAddr : UInt8)

theorem read_control (addr num : UInt16) (data : Nat → UInt16) (w : World)
    (hn : num.toNat < 32768) :
    (i2cRead (some sensorBus) slaveAddr addr num data w).2.sensor.control = w.sensor.control := by
  rw [read_state slaveAddr w addr num data hn]
  exact readWords_control _ _ _

theorem readWord_control (addr v : UInt16) (w : World) :
    (readWord (i2cRead (some sensorBus) slaveAddr addr 1) v w).2.sensor.control =
      w.sensor.control :=
  read_control slaveAddr addr 1 (fun _ => v) w (by decide)

theorem write_control {addr : UInt16} (haddr : addr ≠ 0x800D) (data : UInt16) (w : World) :
    (i2cWrite (some sensorBus) slaveAddr addr data w).2.sensor.control = w.sensor.control := by
  have hto := writeTo_control haddr data w
  rw [← writeTransfer_sensorBus slaveAddr] at hto
  change (mlx90640I2cwrite sensorBus slaveAddr addr data w).2.sensor.control = _
  by_cases hr : (writeTransfer sensorBus slaveAddr w addr data).1.ret = 1
  · rw [mlx90640I2cwrite_reported _ _ _ _ _ hr]
    refine Eq.trans ?_ hto
    rw [readBack, readTransfer_sensorBus _ _ _ _ _ (by decide), World.readFrom_world]
    exact readWords_control _ _ _
  · rw [mlx90640I2cwrite_failed _ _ _ _ _ hr]
    exact hto

theorem pollStatus_control {fuel : Nat} {v : UInt16} {w : World} {p : (Int × UInt16) × World}
    (h : pollStatus (some sensorBus) slaveAddr fuel v w = some p) :
    p.2.sensor.control = w.sensor.control := by
  induction fuel generalizing v w with
  | zero => simp [pollStatus] at h
  | succ fuel ih =>
    have hread := readWord_control slaveAddr 0x8000 v w
    rw [pollStatus] at h
    split_ifs at h
    · obtain rfl := Option.some.inj h
      exact hread
    · exact (ih h).trans hread
    · obtain rfl := Option.some.inj h
      exact hread

theorem frameAttempt_control (l : Locals) (w : World) :
    (frameAttempt (some sensorBus) slaveAddr l w).2.sensor.control = w.sensor.control := by
  have hstatus : (0x8000 : UInt16) ≠ 0x800D := by decide
  have hframe : ∀ data w, (i2cRead (some sensorBus) slaveAddr 0x0400 832 data w).2.sensor.control =
      w.sensor.control := fun data w => read_control slaveAddr 0x0400 832 data w (by decide)
  unfold frameAttempt
  dsimp only
  split_ifs
  · rw [write_control slaveAddr hstatus]
  · rw [hframe, write_control slaveAddr hstatus]
  · rw [readWord_control, hframe, write_control slaveAddr hstatus]
  · rw [readWord_control, hframe, write_control slaveAddr hstatus]

theorem retryFrame_control (n : Nat) (l : Locals) (w : World) :
    (retryFrame (some sensorBus) slaveAddr n l w).2.sensor.control = w.sensor.control := by
  induction n generalizing l w with
  | zero => rfl
  | succ n ih =>
    have hattempt := frameAttempt_control slaveAddr l w
    unfold retryFrame
    dsimp only
    split_ifs
    · exact hattempt
    · exact (ih _ _).trans hattempt
    · exact hattempt

/-- Whatever becomes of an acquisition, the sensor's control word is the same after it. -/
theorem getFrameData_control {fuel : Nat} {frameData : Nat → UInt16} {w : World}
    {p : (Int × (Nat → UInt16)) × World}
    (h : getFrameData (some sensorBus) fuel slaveAddr frameData w = some p) :
    p.2.sensor.control = w.sensor.control := by
  have hclose : ∀ v l w, (closeFrame (some sensorBus) slaveAddr v l w).2.sensor.control =
      w.sensor.control := by
    intro v l w
    unfold closeFrame
    dsimp only
    split_ifs
    · rfl
    · exact readWord_control slaveAddr 0x800D v w
    · exact readWord_control slaveAddr 0x800D v w
  unfold getFrameData at h
  split at h
  · cases h
  · rename_i error statusRegister w₁ hpoll
    have hpolled : w₁.sensor.control = w.sensor.control := pollStatus_control slaveAddr hpoll
    dsimp only at h
    split_ifs at h
    · obtain rfl := Option.some.inj h
      exact hpolled
    · obtain rfl := Option.some.inj h
      exact (retryFrame_control slaveAddr 5 _ _).trans hpolled
    · obtain rfl := Option.some.inj h
      exact ((hclose _ _ _).trans (retryFrame_control slaveAddr 5 _ _)).trans hpolled

end Control

section Words

variable {F : Type} [Add F] [Sub F] [Mul F] [Div F] [LT F] [DecidableLT F] [CFloat F]

/-- Equal in the 834 words of a frame. -/
def SameWords (f g : Nat → UInt16) : Prop := ∀ k < 834, f k = g k

variable {f g : Nat → UInt16} (h : SameWords f g) (params : ParamsMLX90640 F)

include h

theorem frameMode_congr : frameMode f = frameMode g := by
  rw [frameMode, h 832 (by decide), frameMode]

omit [Add F] [Mul F] [Div F] in
theorem frameValue_congr {k : Nat} (hk : k < 834) : (frameValue f k : F) = frameValue g k := by
  rw [frameValue, h k hk, frameValue]

theorem getVdd_congr : getVdd f params = getVdd g params := by
  have hvdd : (frameValue f 810 : F) = frameValue g 810 := frameValue_congr h (by decide)
  simp only [getVdd, hvdd, h 832 (by decide)]

theorem getTa_congr : getTa f params = getTa g params := by
  have hptat : (frameValue f 800 : F) = frameValue g 800 := frameValue_congr h (by decide)
  have hptatArt : (frameValue f 768 : F) = frameValue g 768 := frameValue_congr h (by decide)
  simp only [getTa, getVdd_congr h params, hptat, hptatArt]

omit [Add F] [Mul F] in
theorem frameGain_congr : frameGain f params = frameGain g params := by
  have hgain : (frameValue f 778 : F) = frameValue g 778 := frameValue_congr h (by decide)
  simp only [frameGain, hgain]

theorem irDataCP_congr : irDataCP f params = irDataCP g params := by
  have hcp0 : (frameValue f 776 : F) = frameValue g 776 := frameValue_congr h (by decide)
  have hcp1 : (frameValue f 808 : F) = frameValue g 808 := frameValue_congr h (by decide)
  simp only [irDataCP, getVdd_congr h params, getTa_congr h params, frameGain_congr h params,
    frameMode_congr h, hcp0, hcp1]

theorem pixelIrData_congr (p : Fin 768) : pixelIrData f params p = pixelIrData g params p := by
  have hpixel : (frameValue f p : F) = frameValue g p := frameValue_congr h (by omega)
  simp only [pixelIrData, getVdd_congr h params, getTa_congr h params, frameGain_congr h params,
    frameMode_congr h, hpixel]

variable [CSqrt F]

theorem pixelTemperature_congr (emissivity tr : F) (p : Fin 768) :
    pixelTemperature f params emissivity tr p = pixelTemperature g params emissivity tr p := by
  simp only [pixelTemperature, getTa_congr h params, pixelIrData_congr h params p,
    irDataCP_congr h params, h 833 (by decide)]

theorem calculateTo_congr (emissivity tr : F) :
    calculateTo f params emissivity tr = calculateTo g params emissivity tr := by
  have hpixels : pixelTemperature f params emissivity tr =
      pixelTemperature g params emissivity tr :=
    funext (pixelTemperature_congr h params emissivity tr)
  funext result
  simp only [calculateTo, frameMode_congr h, h 833 (by decide), hpixels]

theorem repaint_congr : repaint f params = repaint g params := by
  funext image
  rw [repaint, repaint, getTa_congr h params, calculateTo_congr h params]

end Words

/-- The frame of a measurement that was taken under this control word. -/
def frameOf (control : UInt16) (m : Measurement) : Nat → UInt16 := fun k =>
  if h : k < 832 then m.image ⟨k, h⟩ else if k = 832 then control else UInt16.ofNat m.subpage.val

theorem frameOf_subpage (control : UInt16) (m : Measurement) :
    frameOf control m 833 = UInt16.ofNat m.subpage.val := by
  rw [frameOf, dif_neg (by decide), if_neg (by decide)]

theorem bothSubpages_frameOf (control : UInt16) {m₁ m₂ : Measurement}
    (h : m₁.subpage ≠ m₂.subpage) : BothSubpages (frameOf control m₁) (frameOf control m₂) where
  mode := rfl
  subpages := by
    rw [frameOf_subpage, frameOf_subpage]
    revert h
    generalize m₁.subpage = k₁
    generalize m₂.subpage = k₂
    revert k₁ k₂
    decide

/-- An accepted acquisition brings the frame of a completed measurement. -/
theorem accepted_frameOf {slaveAddr : UInt8} {fuel : Nat} {frameData fd : Nat → UInt16}
    {w w' : World} {r : Int}
    (h : getFrameData (some sensorBus) fuel slaveAddr frameData w = some ((r, fd), w'))
    (hr : 0 ≤ r) :
    ∃ m ∈ w'.sensor.completed, r = (m.subpage.val : Int) ∧
      SameWords fd (frameOf w.sensor.control m) := by
  obtain ⟨m, hm, hrm, himage, hcontrol, hsub⟩ := getFrameData_measured slaveAddr w h hr
  have hkept : w'.sensor.control = w.sensor.control := getFrameData_control slaveAddr h
  refine ⟨m, hm, hrm, fun k hk => ?_⟩
  by_cases hpixel : k < 832
  · rw [frameOf, dif_pos hpixel, himage k hpixel]
  · rw [frameOf, dif_neg hpixel]
    by_cases hword : k = 832
    · rw [if_pos hword, hword, hcontrol, hkept]
    · obtain rfl : k = 833 := by omega
      rw [if_neg hword, ← hsub, UInt16.ofNat_toNat]

section Image

variable {F : Type} [Add F] [Sub F] [Mul F] [Div F] [LT F] [DecidableLT F] [CFloat F] [CSqrt F]

theorem repaint_total {eeData : EEPROM} {params : ParamsMLX90640 F}
    (hspaced : WellSpaced eeData params) (frame : Nat → UInt16) (image : Fin 768 → F) :
    ∃ image', repaint frame params image = some image' := by
  obtain ⟨value, hwrites⟩ := calculateTo_overwrites frame params (lit (95 / 100))
    (getTa frame params - ofInt 8)
  obtain ⟨temps, htemps, -, -⟩ := hwrites image
  obtain ⟨final, -, -, hfinal⟩ := exists_simultaneous hspaced 1 temps
  refine ⟨final, ?_⟩
  rw [repaint, htemps]
  exact (corrections_eq_replaceAll hspaced 1 temps final hfinal).1

/-- After both subpages the image is the one that any image before them would have become. -/
theorem repaint_any {eeData : EEPROM} {params : ParamsMLX90640 F}
    (hspaced : WellSpaced eeData params) {f g : Nat → UInt16} (h : BothSubpages f g)
    {before between after : Fin 768 → F} (hfirst : repaint f params before = some between)
    (hsecond : repaint g params between = some after) (other : Fin 768 → F) :
    (repaint f params other).bind (repaint g params) = some after := by
  obtain ⟨image, himage⟩ := repaint_twice hspaced h
  obtain ⟨between', hbetween⟩ := repaint_total hspaced f other
  obtain ⟨after', hafter⟩ := repaint_total hspaced g between'
  rw [hbetween, Option.bind_some, hafter, himage _ _ _ hbetween hafter,
    himage _ _ _ hfirst hsecond]

end Image

section Screen

variable {F : Type} [Add F] [Sub F] [Mul F] [Div F] [LinearOrder F] [CFloat F] [CInt F] [CSqrt F]
  (cos sin : F → F)

theorem thermograph_control {fuels : Nat → Nat} {beyonds : Nat → Int → Int → F}
    {start s : State F World} {m : Nat}
    (h : thermograph cos sin (some sensorBus) fuels beyonds start m = some s) :
    s.device.sensor.control = start.device.sensor.control := by
  have hentry := thermograph_acquisition cos sin (some sensorBus) fuels beyonds start m
  rw [h, Option.map_some] at hentry
  refine thread1Entry_invariant
    (P := fun y => y.2.sensor.control = start.device.sensor.control) rfl ?_ hentry.symm
  intro k y status y' hy hpass
  exact (getFrameData_control 0x33 (iteration_some hpass).1).trans hy

/-- With a good extraction, two passes in a row that accept different subpages leave an image of
two completed measurements of the sensor: repainting any image from these two gives the
temperatures, and the controller shows their picture. The sensor may measure, and transfers may
fail, at any word of these passes and of all passes before. -/
theorem two_measurements_shown {stack : Fin 4 → Scratch F} {fuel : Nat} {eeData : EEPROM}
    {before params : ParamsMLX90640 F}
    (h : extractParameters stack fuel eeData before = some (0, params)) (engine : Engine)
    (memory : Nat → UInt16) (framebuffer : Nat → UInt8) (fuels : Nat → Nat)
    (beyonds : Nat → Int → Int → F) (globals : Globals F) (w : World)
    (srcMatrix : Fin 24 → Fin 32 → F) (destMatrix : Fin 240 → Fin 320 → F)
    (hparams : globals.mlx90640 = params) {m : Nat} {s₀ s₁ s₂ : State F World} {r₁ r₂ : Int}
    (h₀ : thermograph cos sin (some sensorBus) fuels beyonds
      (powerOn engine memory framebuffer globals w srcMatrix destMatrix) m = some s₀)
    (h₁ : thermograph cos sin (some sensorBus) fuels beyonds
      (powerOn engine memory framebuffer globals w srcMatrix destMatrix) (m + 1) = some s₁)
    (h₂ : thermograph cos sin (some sensorBus) fuels beyonds
      (powerOn engine memory framebuffer globals w srcMatrix destMatrix) (m + 2) = some s₂)
    (hread₁ : iteration (some sensorBus) (fuels m) s₀.acquisition = some (r₁, s₁.acquisition))
    (hread₂ : iteration (some sensorBus) (fuels (m + 1)) s₁.acquisition =
      some (r₂, s₂.acquisition))
    (hr₁ : 0 ≤ r₁) (hr₂ : 0 ≤ r₂) (hne : r₁ ≠ r₂) :
    ∃ m₁ ∈ s₁.device.sensor.completed, ∃ m₂ ∈ s₂.device.sensor.completed,
      r₁ = (m₁.subpage.val : Int) ∧ r₂ = (m₂.subpage.val : Int) ∧
      (∀ image, (repaint (frameOf w.sensor.control m₁) params image).bind
        (repaint (frameOf w.sensor.control m₂) params) = some s₂.globals.mlx90640To) ∧
      ∃ frame, (∀ srcMatrix destMatrix,
          takeFrame s₂.globals.mlx90640To (beyonds (m + 1)) srcMatrix destMatrix = some frame) ∧
        ∀ x y, x < 480 → y < 360 →
          s₂.lcd.shownPixel x y = (rendered cos sin frame x y).getD 0xFFFF := by
  have hcontrol₀ : s₀.device.sensor.control = w.sensor.control := thermograph_control cos sin h₀
  have hcontrol₁ : s₁.device.sensor.control = w.sensor.control := thermograph_control cos sin h₁
  obtain ⟨m₁, hm₁, hsub₁, hwords₁⟩ := accepted_frameOf (iteration_some hread₁).1 hr₁
  obtain ⟨m₂, hm₂, hsub₂, hwords₂⟩ := accepted_frameOf (iteration_some hread₂).1 hr₂
  have hsubpages : m₁.subpage ≠ m₂.subpage := by
    intro hsame
    rw [hsub₁, hsub₂, hsame] at hne
    exact hne rfl
  have hfirst := thermograph_repaint cos sin h₀ h₁
  have hsecond := thermograph_repaint cos sin h₁ h₂
  have hstart : (powerOn engine memory framebuffer globals w srcMatrix
      destMatrix).globals.mlx90640 = params := hparams
  have hwords₁' : SameWords s₁.globals.frame (frameOf w.sensor.control m₁) := hcontrol₀ ▸ hwords₁
  have hwords₂' : SameWords s₂.globals.frame (frameOf w.sensor.control m₂) := hcontrol₁ ▸ hwords₂
  rw [hstart, repaint_congr hwords₁'] at hfirst
  rw [hstart, repaint_congr hwords₂'] at hsecond
  exact ⟨m₁, hm₁, m₂, hm₂, hsub₁, hsub₂,
    repaint_any (extractParameters_wellSpaced h) (bothSubpages_frameOf w.sensor.control hsubpages) hfirst hsecond,
    thermograph_shown cos sin h₂⟩

end Screen

/-- The sensor after power-on, with two measurements, each complete before a poll: the second one comes after
the 837 bus events of the first acquisition. -/
def patientWorld : World :=
  { interruptedWorld with
    sched := fun n =>
      { interruptedWorld.tick with
        completes :=
          if n = 0 then [⟨0, fun _ => 7⟩]
          else if n = 837 then [⟨1, fun i => UInt16.ofNat i.val⟩]
          else [] } }

theorem patientWorld_getFrameData : ∃ fd₁ w₁ fd₂ w₂,
    getFrameData (some sensorBus) 1 0x33 (fun _ => 0) patientWorld = some ((0, fd₁), w₁) ∧
      getFrameData (some sensorBus) 1 0x33 fd₁ w₁ = some ((1, fd₂), w₂) := by
  have hcodes : ((getFrameData (some sensorBus) 1 0x33 (fun _ => 0) patientWorld).bind fun first =>
      (getFrameData (some sensorBus) 1 0x33 first.1.2 first.2).map fun second =>
        (first.1.1, second.1.1)) = some (0, 1) := by decide +kernel
  obtain ⟨⟨⟨r₁, fd₁⟩, w₁⟩, hfirst, hcodes⟩ := Option.bind_eq_some_iff.mp hcodes
  obtain ⟨⟨⟨r₂, fd₂⟩, w₂⟩, hsecond, hcodes⟩ := Option.map_eq_some_iff.mp hcodes
  cases hcodes
  exact ⟨fd₁, w₁, fd₂, w₂, hfirst, hsecond⟩

theorem iteration_patientWorld {g : Globals ℝ} (hparams : g.mlx90640 = calibrationParams)
    (hframe : g.frame = fun _ => 0) : ∃ y₁ y₂,
      iteration (some sensorBus) 1 (g, patientWorld) = some (0, y₁) ∧
      iteration (some sensorBus) 1 y₁ = some (1, y₂) := by
  obtain ⟨fd₁, w₁, fd₂, w₂, hread₁, hread₂⟩ := patientWorld_getFrameData
  rw [← hframe] at hread₁
  obtain ⟨temps₁, hpass₁⟩ := iteration_returns (some sensorBus) (y := (g, patientWorld))
    (hparams ▸ wellSpaced_calibrationParams) hread₁
  obtain ⟨temps₂, hpass₂⟩ := iteration_returns (some sensorBus)
    (y := ({ g with frame := fd₁, mlx90640To := temps₁ }, w₁)) (hparams ▸ wellSpaced_calibrationParams) hread₂
  exact ⟨_, _, hpass₁, hpass₂⟩

/-- After its two passes the screen shows the measurements of subpages 0 and 1. -/
theorem two_measurements_shown_patient :
    ∃ s₁ s₂ : State ℝ World,
      thermograph (fun _ => 0) (fun _ => 0) (some sensorBus) (fun _ => 1) (fun _ _ _ => (0 : ℝ))
        (powerOn plainEngine (fun _ => 0) (fun _ => 0)
          { (default : Globals ℝ) with mlx90640 := calibrationParams } patientWorld
          (fun _ _ => 0) fun _ _ => 0) 2 = some s₂ ∧
      ∃ m₁ ∈ s₁.device.sensor.completed, ∃ m₂ ∈ s₂.device.sensor.completed,
        (0 : Int) = (m₁.subpage.val : Int) ∧ (1 : Int) = (m₂.subpage.val : Int) ∧
        ∀ image, (repaint (frameOf 0x1901 m₁) calibrationParams image).bind
          (repaint (frameOf 0x1901 m₂) calibrationParams) = some s₂.globals.mlx90640To := by
  obtain ⟨y₁, y₂, hpass₁, hpass₂⟩ := iteration_patientWorld
    (g := { (default : Globals ℝ) with mlx90640 := calibrationParams }) rfl rfl
  have hrun := fun m => thermograph_acquisition (fun _ => (0 : ℝ)) (fun _ => 0) (some sensorBus)
    (fun _ => 1) (fun _ _ _ => (0 : ℝ)) (powerOn plainEngine (fun _ => 0) (fun _ => 0)
      { (default : Globals ℝ) with mlx90640 := calibrationParams } patientWorld (fun _ _ => 0)
      fun _ _ => 0) m
  have hentry₀ : thread1Entry (some sensorBus) (fun _ => 1)
      ({ (default : Globals ℝ) with mlx90640 := calibrationParams }, patientWorld) 0 =
      some ({ (default : Globals ℝ) with mlx90640 := calibrationParams }, patientWorld) := rfl
  have hentry₁ := thread1Entry_succ.mpr ⟨_, _, hentry₀, hpass₁⟩
  have hentry₂ := thread1Entry_succ.mpr ⟨_, _, hentry₁, hpass₂⟩
  obtain ⟨s₁, hs₁, rfl⟩ := Option.map_eq_some_iff.mp ((hrun 1).trans hentry₁)
  obtain ⟨s₂, hs₂, rfl⟩ := Option.map_eq_some_iff.mp ((hrun 2).trans hentry₂)
  have hstart : (powerOn plainEngine (fun _ => 0) (fun _ => 0)
      { (default : Globals ℝ) with mlx90640 := calibrationParams } patientWorld (fun _ _ => 0)
      fun _ _ => 0).acquisition =
      ({ (default : Globals ℝ) with mlx90640 := calibrationParams }, patientWorld) := rfl
  rw [← hstart] at hpass₁
  obtain ⟨m₁, hm₁, m₂, hm₂, hsub₁, hsub₂, himage, -⟩ := two_measurements_shown
    (fun _ => (0 : ℝ)) (fun _ => 0)
    (extractParameters_calibrationImage (fun _ => ⟨fun _ => 0, fun _ => 0, fun _ => 0⟩) 0)
    plainEngine (fun _ => 0) (fun _ => 0) (fun _ => 1) (fun _ _ _ => 0)
    { (default : Globals ℝ) with mlx90640 := calibrationParams } patientWorld (fun _ _ => 0)
    (fun _ _ => 0) rfl rfl hs₁ hs₂ hpass₁ hpass₂ (by decide) (by decide) (by decide)
  exact ⟨s₁, s₂, hs₂, m₁, hm₁, m₂, hm₂, hsub₁, hsub₂, himage⟩

end Mlx90640.App.Measured
