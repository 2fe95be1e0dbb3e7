import Mlx90640.App.Thermograph
import Mlx90640.Bus.Scheduled

/-!
# The thermograph over the interrupt-driven bus

The program from `MLX90640_INIT` on, with every transfer as a run of the thread and the
interrupts. Over two buses of which one simulates the other it computes the same temperatures and
draws the same picture, so the order of those steps does not show on the screen.
-/
namespace Mlx90640.App.Interleaved

open Mlx90640.Lib.OpenDrain
open Mlx90640.Lib.Simulation
open Mlx90640.Bus.Transfer
open Mlx90640.Bus.ControlRegister
open Mlx90640.Bus.FrameData
open Mlx90640.Bus.Controller
open Mlx90640.Bus.Driver
open Mlx90640.Bus.Registers
open Mlx90640.Bus.Simulation
open Mlx90640.Bus.Scheduled
open Mlx90640.Calibration
open Mlx90640.Calibration.Extract
open Mlx90640.Calibration.Parameters
open Mlx90640.Pixels.Correction
open Mlx90640.Pixels.Temperature
open Mlx90640.Display.Interpolation
open Mlx90640.Display.Extremes
open Mlx90640.Display.Screen
open Mlx90640.Display.FrameBuffers
open Mlx90640.App.Acquisition
open Mlx90640.App.Thermograph

section Program

variable {F : Type} [Add F] [Sub F] [Mul F] [Div F] [LinearOrder F] [CFloat F] [CInt F] [CSqrt F]
  {σ : Type}

/-- The start of the sensor, then the thread's white screen and `m` passes of its loop. -/
def bootedThermograph (cos sin : F → F) (i2cBus : Option (I2CBus σ)) (engine : Engine)
    (stack : Fin 4 → Scratch F) (fuel : Nat) (fuels : Nat → Nat) (beyonds : Nat → Int → Int → F)
    (memory : Nat → UInt16) (framebuffer : Nat → UInt8) (srcMatrix : Fin 24 → Fin 32 → F)
    (destMatrix : Fin 240 → Fin 320 → F) (globals : Globals F) (m : Nat) (s : σ) :
    Option (State F σ) :=
  (mlx90640Init i2cBus stack fuel globals s).bind fun start =>
    thermograph cos sin i2cBus fuels beyonds
      (powerOn engine memory framebuffer start.globals start.device srcMatrix destMatrix) m

end Program

section Simulated

variable {F σ τ : Type} {concrete : I2CBus σ} {plain : I2CBus τ} {R : σ → τ → Prop}

/-- The same status values and variables, and related buses. -/
structure StartedAlike (R : σ → τ → Prop) (a : Started F σ) (b : Started F τ) : Prop where
  dumpStatus : a.dumpStatus = b.dumpStatus
  extractStatus : a.extractStatus = b.extractStatus
  globals : a.globals = b.globals
  device : R a.device b.device

/-- The same variables and the same display, and related buses. -/
structure StateAlike (R : σ → τ → Prop) (a : State F σ) (b : State F τ) : Prop where
  globals : a.globals = b.globals
  srcMatrix : a.srcMatrix = b.srcMatrix
  destMatrix : a.destMatrix = b.destMatrix
  lcd : a.lcd = b.lcd
  device : R a.device b.device

variable [Add F] [Sub F] [Mul F] [Div F] (h : Simulates concrete plain R) {s : σ} {t : τ}

include h

theorem configure_alike (hst : R s t) :
    R (configure (some concrete) s) (configure (some plain) t) :=
  (updateControl_agree h 0x33 (updateControl_agree h 0x33 hst _).state _).state

theorem mlx90640Init_alike [LT F] [DecidableLT F] [CFloat F] (stack : Fin 4 → Scratch F)
    (fuel : Nat) (globals : Globals F) (hst : R s t) :
    Option.Rel (StartedAlike R) (mlx90640Init (some concrete) stack fuel globals s)
      (mlx90640Init (some plain) stack fuel globals t) := by
  have hdump : Agree R (dumpEE (some concrete) 0x33 globals.eeMLX90640 (configure (some concrete) s))
      (dumpEE (some plain) 0x33 globals.eeMLX90640 (configure (some plain) t)) :=
    read_agree h 0x33 (configure_alike h hst) 0x2400 832 globals.eeMLX90640
  unfold mlx90640Init
  refine hdump.cont fun dumped s t hst => ?_
  dsimp only
  cases extractParameters stack fuel dumped.2 globals.mlx90640 with
  | none => exact .none
  | some extract => exact .some ⟨rfl, rfl, rfl, hst⟩

theorem iteration_alike [LT F] [DecidableLT F] [CFloat F] [CSqrt F] (fuel : Nat)
    (globals : Globals F) (hst : R s t) :
    Option.Rel (fun a b => a.1 = b.1 ∧ a.2.1 = b.2.1 ∧ R a.2.2 b.2.2)
      (iteration (some concrete) fuel (globals, s)) (iteration (some plain) fuel (globals, t)) := by
  unfold iteration
  refine rel_bind (getFrameData_agree h 0x33 hst fuel globals.frame) fun a b hab => ?_
  cases hab with
  | intro value hst =>
    exact rel_bind_same fun temps => rel_bind_same fun final => .some ⟨rfl, rfl, hst⟩

variable [LinearOrder F] [CFloat F] [CInt F] [CSqrt F] (cos sin : F → F)

/-- The drawing half reads what the acquiring half left, and not the bus. -/
theorem pass_alike (fuel : Nat) (beyond : Int → Int → F) {a : State F σ} {b : State F τ}
    (hab : StateAlike R a b) :
    Option.Rel (StateAlike R) (Thermograph.pass cos sin (some concrete) fuel beyond a)
      (Thermograph.pass cos sin (some plain) fuel beyond b) := by
  obtain ⟨globals, s, srcMatrix, destMatrix, lcd⟩ := a
  obtain ⟨globals', t, srcMatrix', destMatrix', lcd'⟩ := b
  obtain ⟨hglobals, hsrc, hdest, hlcd, hst⟩ := hab
  dsimp only at hglobals hsrc hdest hlcd hst
  subst hglobals hsrc hdest hlcd
  unfold Thermograph.pass
  refine rel_bind (iteration_alike h fuel globals hst) fun acquired acquired' hacquired => ?_
  obtain ⟨status, globals, s⟩ := acquired
  obtain ⟨status', globals', t⟩ := acquired'
  obtain ⟨-, hglobals, hst⟩ := hacquired
  dsimp only at hglobals hst
  subst hglobals
  exact rel_bind_same fun frame => rel_bind_same fun calls => .some ⟨rfl, rfl, rfl, rfl, hst⟩

omit h in
theorem thermograph_eq_loop (i2cBus : Option (I2CBus σ)) (fuels : Nat → Nat)
    (beyonds : Nat → Int → Int → F) (a : State F σ) (m : Nat) :
    thermograph cos sin i2cBus fuels beyonds a m =
      loop (fun m => Thermograph.pass cos sin i2cBus (fuels m) (beyonds m)) a m := by
  induction m with
  | zero => rfl
  | succ m ih => rw [thermograph, loop, ih]

theorem thermograph_alike (fuels : Nat → Nat) (beyonds : Nat → Int → Int → F) {a : State F σ}
    {b : State F τ} (hab : StateAlike R a b) (m : Nat) :
    Option.Rel (StateAlike R) (thermograph cos sin (some concrete) fuels beyonds a m)
      (thermograph cos sin (some plain) fuels beyonds b m) := by
  rw [thermograph_eq_loop, thermograph_eq_loop]
  exact rel_loop hab (fun m _ _ hab => pass_alike h cos sin (fuels m) (beyonds m) hab) m

theorem bootedThermograph_alike (engine : Engine) (stack : Fin 4 → Scratch F) (fuel : Nat)
    (fuels : Nat → Nat) (beyonds : Nat → Int → Int → F) (memory : Nat → UInt16)
    (framebuffer : Nat → UInt8) (srcMatrix : Fin 24 → Fin 32 → F)
    (destMatrix : Fin 240 → Fin 320 → F) (globals : Globals F) (m : Nat) (hst : R s t) :
    Option.Rel (StateAlike R)
      (bootedThermograph cos sin (some concrete) engine stack fuel fuels beyonds memory framebuffer
        srcMatrix destMatrix globals m s)
      (bootedThermograph cos sin (some plain) engine stack fuel fuels beyonds memory framebuffer
        srcMatrix destMatrix globals m t) := by
  refine rel_bind (mlx90640Init_alike h stack fuel globals hst) fun start start' hstart => ?_
  refine thermograph_alike h cos sin fuels beyonds ⟨hstart.globals, rfl, rfl, ?_, hstart.device⟩ m
  rfl

end Simulated

/-- The channel right after it was opened, with a device of words at the sensor's address. -/
def openedWire (regs : UInt16 → UInt16) : Wire (Device (UInt16 → UInt16)) := ⟨opened regs, quiet, 0⟩

theorem openedWire_idle (regs : UInt16 → UInt16) : Idle Kept (openedWire regs) (powered regs) :=
  ⟨rests_openMaster _ _ _, rfl, nofun⟩

end Mlx90640.App.Interleaved
