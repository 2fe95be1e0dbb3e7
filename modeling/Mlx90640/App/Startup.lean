import Mlx90640.App.Interleaved

/-!
# The start of the sensor over the wire

`MLX90640_INIT` against a device that keeps what is written to its control register, over the
interrupt-driven channel. The two setters, the dump of the EEPROM and the extraction are traced
through every transfer.
-/
namespace Mlx90640.App.Startup

open Mlx90640.Lib.OpenDrain
open Mlx90640.Lib.Simulation
open Mlx90640.Bus.Transfer
open Mlx90640.Bus.Chunks
open Mlx90640.Bus.ControlRegister
open Mlx90640.Bus.FrameData
open Mlx90640.Bus.Controller
open Mlx90640.Bus.Driver
open Mlx90640.Bus.Registers
open Mlx90640.Bus.Simulation
open Mlx90640.Bus.Scheduled
open Mlx90640.Calibration
open Mlx90640.Calibration.Extract
open Mlx90640.Calibration.Parameters
open Mlx90640.App.Acquisition
open Mlx90640.App.Interleaved

variable {ρ : Type}

/-- A device that shows in its control register what was stored there, and whose EEPROM such a
store does not change. -/
structure Retains (w : Words ρ) : Prop where
  control : ∀ data regs, w.peek (w.poke 0x800D data regs) 0x800D = data
  eeprom : ∀ data regs (k : Nat), k < 832 →
    w.peek (w.poke 0x800D data regs) (0x2400 + UInt16.ofNat k) =
      w.peek regs (0x2400 + UInt16.ofNat k)

/-- The words of the EEPROM, in front of what the buffer held. -/
def image (w : Words ρ) (regs : ρ) (eeData : EEPROM) : EEPROM := fun k =>
  if k < 832 then w.peek regs (0x2400 + UInt16.ofNat k) else eeData k

section Device

variable (w : Words ρ) (indeterminate : Line (Device ρ) → Local → UInt16)

/-- A setter that went well: the control register holds the updated word, and the bus is free
again. -/
structure Updated (update : UInt16 → UInt16) (line line' : Line (Device ρ)) : Prop where
  free : line'.held = false
  regs : line'.follower.regs =
    w.poke 0x800D (update (w.peek line.follower.regs 0x800D)) line.follower.regs

variable {w}

theorem Updated.eeprom {update : UInt16 → UInt16} {line line' : Line (Device ρ)} (hw : Retains w)
    (h : Updated w update line line') (eeData : EEPROM) :
    image w line'.follower.regs eeData = image w line.follower.regs eeData := by
  funext k
  unfold image
  split
  case isTrue hk => rw [h.regs, hw.eeprom _ _ k hk]
  case isFalse => rfl

theorem Updated.control {update : UInt16 → UInt16} {line line' : Line (Device ρ)} (hw : Retains w)
    (h : Updated w update line line') :
    w.peek line'.follower.regs 0x800D = update (w.peek line.follower.regs 0x800D) := by
  rw [h.regs, hw.control]

theorem exec_over_line (hw : Retains w) (c : Call) (line : Line (Device ρ))
    (hfree : line.held = false) :
    ∃ line', c.exec (some (lineBus (device w 0x33) indeterminate)) 0x33 line = (0, line') ∧
      Updated w c.update line line' := by
  obtain ⟨line₁, hread, hfree₁, hregs₁⟩ := readWord_over_line w 0x33 indeterminate (by decide) line
    hfree 0x800D (indeterminate line .controlRegister1)
  obtain ⟨line₂, hwrite, hfree₂, hregs₂⟩ := i2cWrite_over_line w 0x33 indeterminate line₁ (by decide)
    hfree₁ 0x800D (c.update (w.peek line.follower.regs 0x800D))
  rw [if_pos (hw.control _ _)] at hwrite
  rw [hregs₁] at hregs₂
  refine ⟨line₂, ?_, hfree₂, hregs₂⟩
  have hlocal : (lineBus (device w 0x33) indeterminate).indeterminate line .controlRegister1 =
      indeterminate line .controlRegister1 := rfl
  rw [c.exec_eq]
  simp only [updateControl, stackWord_some, hlocal, i2cRead_some, hread, if_true, hwrite]

theorem configure_over_line (hw : Retains w) (line : Line (Device ρ)) (hfree : line.held = false) :
    ∃ line₁ line₂, configure (some (lineBus (device w 0x33) indeterminate)) line = line₂ ∧
      Updated w (Call.setRefreshRate 4).update line line₁ ∧
      Updated w Call.setChessMode.update line₁ line₂ := by
  obtain ⟨line₁, hrate, hupdated₁⟩ :=
    exec_over_line indeterminate hw (.setRefreshRate 4) line hfree
  obtain ⟨line₂, hmode, hupdated₂⟩ :=
    exec_over_line indeterminate hw .setChessMode line₁ hupdated₁.free
  refine ⟨line₁, line₂, ?_, hupdated₁, hupdated₂⟩
  have hrate' : setRefreshRate (some (lineBus (device w 0x33) indeterminate)) 0x33 0x04 line =
      (0, line₁) := hrate
  have hmode' : setChessMode (some (lineBus (device w 0x33) indeterminate)) 0x33 line₁ =
      (0, line₂) := hmode
  rw [configure, hrate', hmode']

/-- What the control register shows after the start, from what it showed before. -/
structure Configured (before after : UInt16) : Prop where
  refreshRate : Field.refreshRate.get after = 4
  mode : Field.mode.get after = 1
  resolution : Field.resolution.get after = Field.resolution.get before
  outside : after &&& 0xE07F = before &&& 0xE07F

theorem configured_of_updates (before : UInt16) :
    Configured before (Call.setChessMode.update ((Call.setRefreshRate 4).update before)) where
  refreshRate := by
    rw [Call.get_update, if_neg (by decide), Call.get_update, if_pos (by rfl)]
    rfl
  mode := by
    rw [Call.get_update, if_pos (by rfl)]
    rfl
  resolution := by
    rw [Call.get_update, if_neg (by decide), Call.get_update, if_neg (by decide)]
  outside := by
    rw [Call.update_outside, Call.update_outside]

end Device

section Init

variable {F : Type} [Add F] [Sub F] [Mul F] [Div F] [LT F] [DecidableLT F] [CFloat F]

/-- What the start leaves behind, seen from the words before it: the dump was reported, the image
is that of the device and is unchanged there, the parameters are those of the image, and the
control register is set. -/
structure WellStarted (w : Words ρ) (stack : Fin 4 → Scratch F) (fuel : Nat) (globals : Globals F)
    (before after : ρ) (dumpStatus extractStatus : Int) (globals' : Globals F) : Prop where
  dumpStatus : dumpStatus = 0
  image : globals'.eeMLX90640 = image w before globals.eeMLX90640
  kept : ∀ k < 832, w.peek after (0x2400 + UInt16.ofNat k) = w.peek before (0x2400 + UInt16.ofNat k)
  extracted : extractParameters stack fuel globals'.eeMLX90640 globals.mlx90640 =
    some (extractStatus, globals'.mlx90640)
  frame : globals'.frame = globals.frame
  temperatures : globals'.mlx90640To = globals.mlx90640To
  control : Configured (w.peek before 0x800D) (w.peek after 0x800D)

variable {w : Words ρ} (indeterminate : Line (Device ρ) → Local → UInt16)

theorem mlx90640Init_over_line (hw : Retains w) {stack : Fin 4 → Scratch F} {fuel : Nat}
    {globals : Globals F} {line : Line (Device ρ)} (hfree : line.held = false)
    {extract : Int × ParamsMLX90640 F}
    (hextract : extractParameters stack fuel (image w line.follower.regs globals.eeMLX90640)
      globals.mlx90640 = some extract) :
    ∃ start, mlx90640Init (some (lineBus (device w 0x33) indeterminate)) stack fuel globals line =
        some start ∧ start.device.held = false ∧
      WellStarted w stack fuel globals line.follower.regs start.device.follower.regs
        start.dumpStatus start.extractStatus start.globals := by
  obtain ⟨line₁, line₂, hconfigure, hrate, hmode⟩ := configure_over_line indeterminate hw line hfree
  have hserves := device_serves w 0x33 indeterminate (by decide) line₂.follower.regs
  obtain ⟨line₃, hread, hfree₃, hregs₃⟩ := hserves.read 832 (by decide) 0x2400 globals.eeMLX90640
    (s := line₂) ⟨hmode.free, rfl⟩
  have himage : served (w.peek line₂.follower.regs) 0x2400 (832 : UInt16).toNat globals.eeMLX90640 =
      image w line.follower.regs globals.eeMLX90640 := by
    rw [← hrate.eeprom hw, ← hmode.eeprom hw]
    rfl
  have hdump : dumpEE (some (lineBus (device w 0x33) indeterminate)) 0x33 globals.eeMLX90640 line₂ =
      ((0, image w line.follower.regs globals.eeMLX90640), line₃) := by
    rw [← himage]
    exact hread
  refine ⟨⟨0, extract.1, { globals with
    eeMLX90640 := image w line.follower.regs globals.eeMLX90640, mlx90640 := extract.2 }, line₃⟩,
    ?_, hfree₃, ?_⟩
  · unfold mlx90640Init
    rw [hconfigure, hdump]
    exact Option.bind_eq_some_iff.mpr ⟨extract, hextract, rfl⟩
  · refine ⟨rfl, rfl, fun k hk => ?_, hextract, rfl, rfl, ?_⟩
    · show w.peek line₃.follower.regs _ = _
      rw [hregs₃, hmode.regs, hw.eeprom _ _ k hk, hrate.regs, hw.eeprom _ _ k hk]
    · show Configured _ (w.peek line₃.follower.regs 0x800D)
      rw [hregs₃, hmode.control hw, hrate.control hw]
      exact configured_of_updates _

theorem memory_retains : Retains Bus.Registers.memory where
  control data regs := by
    show Function.update regs 0x800D data 0x800D = data
    rw [Function.update_self]
  eeprom data regs k hk := by
    show Function.update regs 0x800D data (0x2400 + UInt16.ofNat k) = _
    refine Function.update_of_ne (fun heq => ?_) _ _
    have hnat := congrArg UInt16.toNat heq
    rw [UInt16.toNat_add, UInt16.toNat_ofNat'] at hnat
    simp at hnat
    omega

/-- The words of a calibrated sensor, with the control register as it is after power-on. -/
def sensorWords (addr : UInt16) : UInt16 :=
  if addr = 0x800D then 0x1901 else calibrationImage (addr.toNat - 0x2400)

theorem image_sensorWords : image Bus.Registers.memory sensorWords (fun _ => 0) = calibrationImage := by
  funext k
  by_cases hk : k < 832
  · have haddr : (0x2400 + UInt16.ofNat k).toNat = 0x2400 + k := by
      rw [UInt16.toNat_add, UInt16.toNat_ofNat']
      simp
      omega
    have hne : 0x2400 + UInt16.ofNat k ≠ 0x800D := by
      intro heq
      rw [heq] at haddr
      simp at haddr
      omega
    rw [image, if_pos hk]
    show sensorWords (0x2400 + UInt16.ofNat k) = _
    rw [sensorWords, if_neg hne, haddr, Nat.add_sub_cancel_left]
  · rw [image, if_neg hk, calibrationImage, if_pos (by omega)]

end Init

end Mlx90640.App.Startup
