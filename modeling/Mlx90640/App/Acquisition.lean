import Mlx90640.Bus.FrameData
import Mlx90640.Calibration.Coefficients
import Mlx90640.Pixels.Noninterference
import Mathlib.Tactic.NormNum

/-!
# The acquisition loop

`MLX90640_INIT` and the part of `thread1_entry`'s loop that computes temperatures, over a
scripted device. Both look at the status codes of the driver only to print them. The
drawing half of the loop body reads `mlx90640To` and does not store to it, so it is left
out here.
-/
namespace Mlx90640.App.Acquisition

open Mlx90640.Bus.Transfer
open Mlx90640.Bus.ControlRegister
open Mlx90640.Bus.FrameData
open Mlx90640.Calibration
open Mlx90640.Calibration.Extract
open Mlx90640.Calibration.Decoding
open Mlx90640.Calibration.Coefficients
open Mlx90640.Calibration.Deviating
open Mlx90640.Calibration.Parameters
open Mlx90640.Pixels.Correction
open Mlx90640.Pixels.OrderIndependence
open Mlx90640.Pixels.Temperature
open Mlx90640.Lib.Loops

/-- The variables at file scope; the default is their zero initialisation. -/
structure Globals (F : Type) where
  eeMLX90640 : EEPROM
  mlx90640To : Fin 768 → F
  -- declared as `int[834]`, but handed on and used as `uint16_t *` only
  frame : Nat → UInt16
  mlx90640 : ParamsMLX90640 F
deriving Inhabited

/-- What `MLX90640_INIT` leaves behind, with the two status values that it printed. -/
structure Started (F σ : Type) where
  dumpStatus : Int
  extractStatus : Int
  globals : Globals F
  device : σ

variable {F : Type} [Add F] [Sub F] [Mul F] [Div F] [LT F] [DecidableLT F] [CFloat F] {σ : Type}

/-- The two register writes at the start; their codes are not even stored. -/
def configure (i2cBus : Option (I2CBus σ)) (s : σ) : σ :=
  (setChessMode i2cBus 0x33 (setRefreshRate i2cBus 0x33 0x04 s).2).2

def mlx90640Init (i2cBus : Option (I2CBus σ)) (stack : Fin 4 → Scratch F) (fuel : Nat)
    (g : Globals F) (s : σ) : Option (Started F σ) := do
  let dump := dumpEE i2cBus 0x33 g.eeMLX90640 (configure i2cBus s)
  let extract ← extractParameters stack fuel dump.1.2 g.mlx90640
  return {
    dumpStatus := dump.1.1
    extractStatus := extract.1
    globals := { g with eeMLX90640 := dump.1.2, mlx90640 := extract.2 }
    device := dump.2 }

/-- One pass of `while(1)`: the status of the acquisition, and what it leaves behind. -/
def iteration [CSqrt F] (i2cBus : Option (I2CBus σ)) (fuel : Nat) (y : Globals F × σ) :
    Option (Int × Globals F × σ) := do
  let acquired ← getFrameData i2cBus fuel 0x33 y.1.frame y.2
  let status := acquired.1.1
  let frame := acquired.1.2
  let ta := getTa frame y.1.mlx90640
  let tr := ta - ofInt 8
  let emissivity := lit (95 / 100)
  let mlx90640To ← calculateTo frame y.1.mlx90640 emissivity tr y.1.mlx90640To
  let mlx90640To ← correctDeviating 1 y.1.mlx90640 mlx90640To
  return (status, { y.1 with frame := frame, mlx90640To := mlx90640To }, acquired.2)

/-- The state after `m` passes; pass `k` may poll `fuels k` times. -/
def thread1Entry [CSqrt F] (i2cBus : Option (I2CBus σ)) (fuels : Nat → Nat) (start : Globals F × σ) :
    Nat → Option (Globals F × σ)
  | 0 => some start
  | m + 1 => (thread1Entry i2cBus fuels start m).bind fun y =>
    (iteration i2cBus (fuels m) y).map Prod.snd

/-- The image changes only with a good dump, a good extraction and a good acquisition. -/
def Contained (dumpStatus extractStatus status : Int) (before after : Fin 768 → F) : Prop :=
  after ≠ before → dumpStatus = 0 ∧ extractStatus = 0 ∧ 0 ≤ status

/-- The responses ahead let one acquisition succeed within `fuel` polls: every transfer
whose outcome the code looks at is reported, the new-data bit comes up, and it is clear
after one of the first four attempts. -/
def Acquires (fuel : Nat) (s : Script) : Prop :=
  ∃ n k, n < fuel ∧ k < 4 ∧ FirstReady s n ∧ (∀ i ≤ n, (s i).fails = none) ∧
    (∀ j ≤ k, AttemptReported (after s (n + 1)) j) ∧
    (∀ j < k, dataReady (recheck (after s (n + 1)) j) ≠ 0) ∧
    dataReady (recheck (after s (n + 1)) k) = 0 ∧ (s (n + 1 + 4 * (k + 1))).fails = none

/-- The image of the EEPROM that the dump brings, in front of what the buffer held. -/
def dumped (s : Script) (eeData : EEPROM) : EEPROM := fun k =>
  if k < 832 then (s 0).word k else eeData k

theorem acquires_getFrameData {fuel : Nat} {s : Script} (h : Acquires fuel s)
    (frameData : Nat → UInt16) :
    ∃ status fd s', getFrameData (some scriptedBus) fuel 0x33 frameData s =
      some ((status, fd), s') ∧ 0 ≤ status := by
  obtain ⟨n, k, hf, hk, hn, hpolls, hattempts, hset, hclear, hcontrol⟩ := h
  exact ⟨_, _, _, getFrameData_clear 0x33 s frameData hpolls hattempts hcontrol hn hf hk hset hclear,
    Int.natCast_nonneg _⟩

theorem dumpEE_dumped {s : Script} (eeData : EEPROM) (hdump : (s 0).fails = none) :
    dumpEE (some scriptedBus) 0x33 eeData s = ((0, dumped s eeData), after s 1) :=
  scripted_read 0x33 s 0x2400 832 eeData (by decide) hdump

theorem mlx90640Init_ok (hF : DoublingReaches64 F) (g : Globals F) {s : Script}
    (hdump : (configure (some scriptedBus) s 0).fails = none)
    (himage : sparse (dumped (configure (some scriptedBus) s) g.eeMLX90640)) :
    ∃ n, ∀ fuel, n < fuel → ∀ stack, ∃ start,
      mlx90640Init (some scriptedBus) stack fuel g s = some start ∧
      start.dumpStatus = 0 ∧ start.extractStatus = 0 ∧
      WellSpaced start.globals.eeMLX90640 start.globals.mlx90640 := by
  obtain ⟨n, hextract⟩ := extractParameters_sparse hF himage
  refine ⟨n, fun fuel hfuel stack => ?_⟩
  obtain ⟨params, hparams⟩ := hextract fuel hfuel stack g.mlx90640
  refine ⟨⟨0, 0, { g with
    eeMLX90640 := dumped (configure (some scriptedBus) s) g.eeMLX90640, mlx90640 := params },
    after (configure (some scriptedBus) s) 1⟩, ?_, rfl, rfl, extractParameters_wellSpaced hparams⟩
  simp only [mlx90640Init, dumpEE_dumped g.eeMLX90640 hdump, hparams, Option.bind_eq_bind,
    Option.bind_some]
  rfl

/-- With spaced deviating pixels, every acquisition that returns is followed by a complete
pass, whatever its status. -/
theorem iteration_returns [CSqrt F] (i2cBus : Option (I2CBus σ)) {fuel : Nat} {y : Globals F × σ}
    {eeData : EEPROM} (hspaced : WellSpaced eeData y.1.mlx90640) {status : Int}
    {fd : Nat → UInt16} {s' : σ}
    (h : getFrameData i2cBus fuel 0x33 y.1.frame y.2 = some ((status, fd), s')) :
    ∃ temps, iteration i2cBus fuel y =
      some (status, { y.1 with frame := fd, mlx90640To := temps }, s') := by
  obtain ⟨value, hwrites⟩ := calculateTo_overwrites fd y.1.mlx90640 (lit (95 / 100))
    (getTa fd y.1.mlx90640 - ofInt 8)
  obtain ⟨temps, htemps, -, -⟩ := hwrites y.1.mlx90640To
  obtain ⟨final, -, -, hfinal⟩ := exists_simultaneous hspaced 1 temps
  have hcorrect := (corrections_eq_replaceAll hspaced 1 temps final hfinal).1
  refine ⟨final, ?_⟩
  simp only [iteration, h, htemps, hcorrect, Option.bind_eq_bind, Option.bind_some]
  rfl

theorem iteration_some [CSqrt F] {i2cBus : Option (I2CBus σ)} {fuel : Nat}
    {y y' : Globals F × σ} {status : Int} (h : iteration i2cBus fuel y = some (status, y')) :
    getFrameData i2cBus fuel 0x33 y.1.frame y.2 = some ((status, y'.1.frame), y'.2) ∧
      y'.1.mlx90640 = y.1.mlx90640 := by
  simp only [iteration, Option.bind_eq_bind, Option.bind_eq_some_iff] at h
  obtain ⟨acquired, hacquired, temps, -, final, -, h⟩ := h
  cases h
  exact ⟨hacquired, rfl⟩

/-- Whatever the status was: each pixel of the subpage in word 833 that is not deviating gets the
temperature that the frame buffer gives. -/
theorem iteration_stores [CSqrt F] {i2cBus : Option (I2CBus σ)} {fuel : Nat} {y y' : Globals F × σ}
    {eeData : EEPROM} (hspaced : WellSpaced eeData y.1.mlx90640) {status : Int}
    (h : iteration i2cBus fuel y = some (status, y')) {p : Fin 768}
    (hsubpage : ofSubpage y'.1.frame p) (hgood : ¬ isDeviating eeData p) :
    pixelTemperature y'.1.frame y.1.mlx90640 (lit (95 / 100))
      (getTa y'.1.frame y.1.mlx90640 - ofInt 8) p = some (y'.1.mlx90640To p) := by
  simp only [iteration, Option.bind_eq_bind, Option.bind_eq_some_iff] at h
  obtain ⟨acquired, -, temps, htemps, final, hfinal, h⟩ := h
  cases h
  obtain ⟨image, -, hkeep, hall⟩ := exists_simultaneous hspaced 1 temps
  rw [(corrections_eq_replaceAll hspaced 1 temps image hall).1] at hfinal
  obtain rfl := Option.some.inj hfinal
  show _ = some (image p)
  rw [hkeep p hgood]
  exact calculateTo_cell htemps hsubpage

theorem thread1Entry_succ [CSqrt F] {i2cBus : Option (I2CBus σ)} {fuels : Nat → Nat}
    {start : Globals F × σ} {m : Nat} {y' : Globals F × σ} :
    thread1Entry i2cBus fuels start (m + 1) = some y' ↔
      ∃ y status, thread1Entry i2cBus fuels start m = some y ∧
        iteration i2cBus (fuels m) y = some (status, y') := by
  rw [thread1Entry, Option.bind_eq_some_iff]
  constructor
  · intro h
    obtain ⟨y, hy, hmap⟩ := h
    obtain ⟨⟨status, y''⟩, hpass, rfl⟩ := Option.map_eq_some_iff.mp hmap
    exact ⟨y, status, hy, hpass⟩
  · intro h
    obtain ⟨y, status, hy, hpass⟩ := h
    exact ⟨y, hy, Option.map_eq_some_iff.mpr ⟨_, hpass, rfl⟩⟩

theorem thread1Entry_invariant [CSqrt F] {i2cBus : Option (I2CBus σ)} {fuels : Nat → Nat}
    {start : Globals F × σ} {P : Globals F × σ → Prop} (hstart : P start)
    (hpass : ∀ m y status y', P y → iteration i2cBus (fuels m) y = some (status, y') → P y')
    {m : Nat} {y : Globals F × σ} (h : thread1Entry i2cBus fuels start m = some y) : P y := by
  induction m generalizing y with
  | zero =>
    obtain rfl := Option.some.inj h
    exact hstart
  | succ m ih =>
    obtain ⟨x, status, hx, hstep⟩ := thread1Entry_succ.mp h
    exact hpass m x status y (ih hx) hstep

theorem thread1Entry_reaches [CSqrt F] {i2cBus : Option (I2CBus σ)} {fuels : Nat → Nat}
    {start : Globals F × σ}
    (hpass : ∀ m y, thread1Entry i2cBus fuels start m = some y →
      ∃ status y', iteration i2cBus (fuels m) y = some (status, y')) (m : Nat) :
    ∃ y, thread1Entry i2cBus fuels start m = some y := by
  induction m with
  | zero => exact ⟨start, rfl⟩
  | succ m ih =>
    obtain ⟨y, hy⟩ := ih
    obtain ⟨status, y', hstep⟩ := hpass m y hy
    exact ⟨y', thread1Entry_succ.mpr ⟨y, status, hy, hstep⟩⟩

theorem thread1Entry_mlx90640 [CSqrt F] {i2cBus : Option (I2CBus σ)} {fuels : Nat → Nat}
    {start : Globals F × σ} {m : Nat} {y : Globals F × σ}
    (h : thread1Entry i2cBus fuels start m = some y) : y.1.mlx90640 = start.1.mlx90640 := by
  refine thread1Entry_invariant (P := fun y => y.1.mlx90640 = start.1.mlx90640) rfl ?_ h
  intro m x status x' hx hpass
  rw [(iteration_some hpass).2, hx]

/-- Error containment of every run in which the dump is reported, its image is sparse, and
each acquisition is answered or still waits for data. An answered one completes its pass. In no
run does a pass look at its status: it overwrites the good pixels of the subpage all the same. -/
theorem error_containment [CSqrt F] (hF : DoublingReaches64 F) (g : Globals F) (s : Script)
    (fuels : Nat → Nat) (hdump : (configure (some scriptedBus) s 0).fails = none)
    (himage : sparse (dumped (configure (some scriptedBus) s) g.eeMLX90640)) :
    ∃ n, ∀ fuel, n < fuel → ∀ stack, ∃ start,
      mlx90640Init (some scriptedBus) stack fuel g s = some start ∧
      ((∀ m y, thread1Entry (some scriptedBus) fuels (start.globals, start.device) m = some y →
          Acquires (fuels m) y.2 ∨ Waits y.2 (fuels m)) →
        ∀ m before,
          thread1Entry (some scriptedBus) fuels (start.globals, start.device) m = some before →
          (Acquires (fuels m) before.2 → ∃ status after,
            iteration (some scriptedBus) (fuels m) before = some (status, after) ∧
            thread1Entry (some scriptedBus) fuels (start.globals, start.device) (m + 1) =
              some after) ∧
          ∀ status after, iteration (some scriptedBus) (fuels m) before = some (status, after) →
            Contained start.dumpStatus start.extractStatus status before.1.mlx90640To
              after.1.mlx90640To) ∧
      ∀ m before,
        thread1Entry (some scriptedBus) fuels (start.globals, start.device) m = some before →
        ∀ status after, iteration (some scriptedBus) (fuels m) before = some (status, after) →
          ∀ p, ofSubpage after.1.frame p → ¬ isDeviating start.globals.eeMLX90640 p →
            pixelTemperature after.1.frame start.globals.mlx90640 (lit (95 / 100))
              (getTa after.1.frame start.globals.mlx90640 - ofInt 8) p =
                some (after.1.mlx90640To p) := by
  obtain ⟨n, hinit⟩ := mlx90640Init_ok hF g hdump himage
  refine ⟨n, fun fuel hfuel stack => ?_⟩
  obtain ⟨start, hstart, hdumped, hextracted, hspaced⟩ := hinit fuel hfuel stack
  refine ⟨start, hstart, fun hanswered m before hbefore => ⟨fun hacquires => ?_, ?_⟩, ?_⟩
  · obtain ⟨status, fd, s', hframe, -⟩ := acquires_getFrameData hacquires before.1.frame
    have hparams := thread1Entry_mlx90640 hbefore
    obtain ⟨temps, hpass⟩ := iteration_returns _ (hparams ▸ hspaced) hframe
    exact ⟨status, _, hpass, thread1Entry_succ.mpr ⟨before, status, hbefore, hpass⟩⟩
  · intro status after hpass _
    have hacquired := (iteration_some hpass).1
    refine ⟨hdumped, hextracted, ?_⟩
    rcases hanswered m before hbefore with hacquires | hwaits
    · obtain ⟨status', fd, s', hframe, hstatus⟩ := acquires_getFrameData hacquires before.1.frame
      rw [hframe, Option.some.injEq, Prod.mk.injEq, Prod.mk.injEq] at hacquired
      exact hacquired.1.1 ▸ hstatus
    · rw [getFrameData_waits 0x33 _ _ hwaits] at hacquired
      cases hacquired
  · intro m before hbefore status after hpass p hsubpage hgood
    have hparams := thread1Entry_mlx90640 hbefore
    rw [← hparams]
    exact iteration_stores (hparams ▸ hspaced) hpass hsubpage hgood

/-- A reported response that carries the words of `w`, most significant byte first. -/
def wordsResponse (w : Nat → UInt16) : Response where
  fails := none
  bytes := (List.range 1664).map fun i => if i % 2 = 0 then hiByte (w (i / 2)) else loByte (w (i / 2))
  stack := fun _ => 0

theorem wordsResponse_word (w : Nat → UInt16) {k : Nat} (hk : k < 832) :
    (wordsResponse w).word k = w k := by
  have h0 : 2 * k < 1664 := by omega
  have h1 : 2 * k + 1 < 1664 := by omega
  have hdiv : (2 * k + 1) / 2 = k := by omega
  simp [Response.word, receivedWord, wordsResponse, List.getD_eq_getElem?_getD, h0, h1, hdiv,
    ofBytes_hi_lo]

/-- A calibrated sensor without deviating pixels: sensitivity and temperature coefficients
are set, all offsets are zero. -/
def calibrationImage : EEPROM := fun k =>
  if k ≥ 832 then 0 else if k ≥ 64 then 0x0010 else if k = 48 then 1 else if k = 49 then 0x4000
  else if k = 50 then 8 else if k = 51 then 0x0100 else 0

/-- Start-up against that sensor, then `rest`. -/
def startup (rest : Script) : Script := fun i =>
  if i < 6 then wordsResponse fun _ => 0
  else if i = 6 then wordsResponse calibrationImage else rest (i - 7)

theorem updateControl_after (update : UInt16 → UInt16) {s : Script} (h0 : (s 0).fails = none)
    (h1 : (s 1).fails = none) :
    (updateControl (some scriptedBus) 0x33 update s).2 = after s 3 := by
  have hread := scripted_readWord 0x33 s 0x800D (stackWord (some scriptedBus) s .controlRegister1) h0
  have hwrite := (scripted_write 0x33 (after s 1) 0x800D (update ((s 0).word 0)) h1).2
  simp only [updateControl, hread, if_true]
  rw [hwrite, after_after]

theorem configure_startup (rest : Script) :
    configure (some scriptedBus) (startup rest) = after (startup rest) 6 := by
  have hrate : (setRefreshRate (some scriptedBus) 0x33 0x04 (startup rest)).2 =
      after (startup rest) 3 := updateControl_after _ rfl rfl
  have hmode : (setChessMode (some scriptedBus) 0x33 (after (startup rest) 3)).2 =
      after (after (startup rest) 3) 3 := updateControl_after _ rfl rfl
  rw [configure, hrate, hmode, after_after]

theorem dumped_startup (rest : Script) :
    dumped (after (startup rest) 6) (fun _ => 0) = calibrationImage := by
  funext k
  have hresponse : after (startup rest) 6 0 = wordsResponse calibrationImage := rfl
  rw [dumped, hresponse]
  by_cases hk : k < 832
  · rw [if_pos hk, wordsResponse_word _ hk]
  · rw [if_neg hk, calibrationImage, if_pos (by omega)]

theorem sparse_calibrationImage : sparse calibrationImage :=
  (warning_scan_eq_zero_iff calibrationImage).mp (by decide +kernel)

theorem signedFloat_zero {max modulus : Int} (h : 0 ≤ max) :
    (signedFloat 0 max modulus : ℝ) = 0 := by
  have hmax : ¬(0 : ℝ) > max := by simpa using h
  simp [signedFloat, foldSign, hmax]

theorem largest_fabs_zero {a : Fin 768 → ℝ} (h : ∀ p, a p = 0) : largest fabs a = 0 := by
  obtain ⟨-, p, hp⟩ := largest_spec fabs a
  rw [hp, h]
  exact abs_zero

theorem calibrationImage_pixel (p : Fin 768) : calibrationImage (64 + p) = 0x0010 := by
  have hp := p.isLt
  rw [calibrationImage, if_neg (by omega), if_pos (by omega)]

theorem ktaValue_calibrationImage (p : Fin 768) : (ktaValue calibrationImage p : ℝ) = 0 := by
  have hrc : ∀ q, ktaRCValue calibrationImage q = 0 := by decide
  have hfield : bits 0x0010 0x000E 1 = 0 := by decide
  rw [ktaValue, calibrationImage_pixel, hrc, hfield, signedFloat_zero (by decide)]
  simp

theorem kvValue_calibrationImage (p : Fin 768) : (kvValue calibrationImage p : ℝ) = 0 := by
  have hrc : ∀ q, kvTValue calibrationImage q = 0 := by decide
  rw [kvValue, hrc]
  simp

/-- What the start-up extracts from that image. -/
noncomputable def calibrationParams : ParamsMLX90640 ℝ :=
  (calibrate calibrationImage 0 0 default).2

theorem extractParameters_calibrationImage (stack : Fin 4 → Scratch ℝ) (fuel : Nat) :
    extractParameters stack fuel calibrationImage default = some (0, calibrationParams) := by
  have hfill : fillScale fuel (0 : ℝ) = some 0 := by simp [fillScale]
  rw [extractParameters_eq, largest_fabs_zero ktaValue_calibrationImage,
    largest_fabs_zero kvValue_calibrationImage, hfill]
  simp only [Option.bind_some, Option.map_some, Option.some.injEq]
  rw [calibrationParams, calibrate, extractDeviatingPixels_eq,
    (warning_scan_eq_zero_iff _).mpr sparse_calibrationImage]

theorem wellSpaced_calibrationParams : WellSpaced calibrationImage calibrationParams :=
  extractParameters_wellSpaced
    (extractParameters_calibrationImage (fun _ => ⟨fun _ => 0, fun _ => 0, fun _ => 0⟩) 0)

theorem mlx90640Init_startup (rest : Script) (stack : Fin 4 → Scratch ℝ) (fuel : Nat) :
    mlx90640Init (some scriptedBus) stack fuel (default : Globals ℝ) (startup rest) =
      some ⟨0, 0, { (default : Globals ℝ) with
        eeMLX90640 := calibrationImage, mlx90640 := calibrationParams }, rest⟩ := by
  have hdump : dumpEE (some scriptedBus) 0x33 (default : Globals ℝ).eeMLX90640
      (after (startup rest) 6) = ((0, calibrationImage), rest) := by
    rw [dumpEE_dumped _ rfl]
    exact congrArg (fun image => ((0, image), rest)) (dumped_startup rest)
  have hextract : extractParameters stack fuel calibrationImage (default : Globals ℝ).mlx90640 =
      some (0, calibrationParams) := extractParameters_calibrationImage stack fuel
  simp only [mlx90640Init, configure_startup, hdump, hextract, Option.bind_eq_bind, Option.bind_some]
  rfl

/-- A frame at 25 degrees ambient with the first word left open: read as a status word, 8
announces new data and 0 does not. -/
def frameWords (first : UInt16) : Nat → UInt16 := fun k =>
  if k = 0 then first else if k = 768 then 8 else if k = 778 then 1 else if k = 800 then 1
  else if k = 810 then 0xC000 else 0

/-- Six responses that serve one acquisition: new data, a write with its read-back, a frame,
no further data, the control word. Then the same again. -/
def steadyScript : Script := fun i => wordsResponse (frameWords (if i % 6 = 0 then 8 else 0))

theorem after_steadyScript : after steadyScript 6 = steadyScript := by
  funext i
  simp only [after, steadyScript, Nat.add_mod_right]

theorem steadyScript_word (i : Nat) :
    (steadyScript i).word 0 = if i % 6 = 0 then 8 else 0 :=
  wordsResponse_word _ (by decide)

theorem firstReady_steadyScript : FirstReady steadyScript 0 := by
  refine ⟨by omega, ?_⟩
  rw [steadyScript_word]
  decide

theorem recheck_steadyScript : dataReady (recheck (after steadyScript 1) 0) = 0 := by
  rw [recheck, after, steadyScript_word]
  decide

theorem acquires_steadyScript : Acquires 1 steadyScript :=
  ⟨0, 0, by decide, by decide, firstReady_steadyScript, fun _ _ => rfl,
    fun _ _ => ⟨rfl, rfl, rfl⟩, by omega, recheck_steadyScript, rfl⟩

theorem steadyScript_getFrameData (frameData : Nat → UInt16) :
    ∃ r, getFrameData (some scriptedBus) 1 0x33 frameData steadyScript = some (r, steadyScript) := by
  have hread := getFrameData_clear 0x33 steadyScript frameData (fun _ _ => rfl)
    (fun _ _ => ⟨rfl, rfl, rfl⟩) rfl firstReady_steadyScript Nat.one_pos (by decide) (by omega)
    recheck_steadyScript
  rw [after_steadyScript] at hread
  exact ⟨_, hread⟩

/-- The steady sensor keeps every pass of the loop contained. -/
theorem error_containment_steady :
    ∃ n, ∀ fuel, n < fuel → ∀ stack, ∃ start,
      mlx90640Init (some scriptedBus) stack fuel (default : Globals ℝ) (startup steadyScript) =
        some start ∧
      ∀ m, ∃ before status after,
        thread1Entry (some scriptedBus) (fun _ => 1) (start.globals, start.device) m = some before ∧
        iteration (some scriptedBus) 1 before = some (status, after) ∧
        Contained start.dumpStatus start.extractStatus status before.1.mlx90640To
          after.1.mlx90640To := by
  have hconfigure := configure_startup steadyScript
  have hdump : (configure (some scriptedBus) (startup steadyScript) 0).fails = none := by
    rw [hconfigure]
    rfl
  have himage : sparse (dumped (configure (some scriptedBus) (startup steadyScript))
      (default : Globals ℝ).eeMLX90640) := by
    rw [hconfigure]
    exact (dumped_startup steadyScript).symm ▸ sparse_calibrationImage
  obtain ⟨n, hrun⟩ := error_containment doublingReaches64_exact (default : Globals ℝ)
    (startup steadyScript) (fun _ => 1) hdump himage
  refine ⟨n, fun fuel hfuel stack => ?_⟩
  obtain ⟨start, hstart, hcontained, -⟩ := hrun fuel hfuel stack
  -- the script is back at its beginning before every pass
  have hdevice : start.device = steadyScript := by
    rw [mlx90640Init_startup] at hstart
    exact congrArg Started.device (Option.some.inj hstart).symm
  have hacquires : ∀ m y, thread1Entry (some scriptedBus) (fun _ => 1)
      (start.globals, start.device) m = some y → Acquires 1 y.2 := by
    intro m y hy
    have hsteady : y.2 = steadyScript := by
      refine thread1Entry_invariant (P := fun y => y.2 = steadyScript) hdevice ?_ hy
      intro m x status x' hx hpass
      obtain ⟨r, hread⟩ := steadyScript_getFrameData x.1.frame
      have hacquired := (iteration_some hpass).1
      rw [hx, hread] at hacquired
      exact (congrArg Prod.snd (Option.some.inj hacquired)).symm
    exact hsteady ▸ acquires_steadyScript
  have hpasses := hcontained fun m y hy => Or.inl (hacquires m y hy)
  have hcompletes : ∀ m y, thread1Entry (some scriptedBus) (fun _ => 1)
      (start.globals, start.device) m = some y →
      ∃ status y', iteration (some scriptedBus) 1 y = some (status, y') := by
    intro m y hy
    obtain ⟨status, y', hpass, -⟩ := (hpasses m y hy).1 (hacquires m y hy)
    exact ⟨status, y', hpass⟩
  refine ⟨start, hstart, fun m => ?_⟩
  obtain ⟨before, hbefore⟩ := thread1Entry_reaches hcompletes m
  obtain ⟨status, after, hpass⟩ := hcompletes m before hbefore
  exact ⟨before, status, after, hbefore, hpass, (hpasses m before hbefore).2 status after hpass⟩

theorem alphaPTAT_calibrationParams : calibrationParams.alphaPTAT = 8 := by
  change (ofInt (calibrationImage 16 &&& 0xF000).toNat / pow2 14 + ofInt 8 : ℝ) = 8
  have hw : calibrationImage 16 &&& 0xF000 = 0 := by decide
  rw [hw]
  simp

theorem kvPTAT_calibrationParams : calibrationParams.kvPTAT = 0 := by
  change (signedFloat (bits (calibrationImage 50) 0xFC00 10) 31 64 / ofInt 4096 : ℝ) = 0
  have hw : bits (calibrationImage 50) 0xFC00 10 = 0 := by decide
  rw [hw, signedFloat_zero (by decide), zero_div]

theorem ktPTAT_calibrationParams : calibrationParams.ktPTAT = 1 := by
  change (signedFloat (calibrationImage 50 &&& 0x03FF) 511 1024 / ofInt 8 : ℝ) = 1
  have hw : calibrationImage 50 &&& 0x03FF = 8 := by decide
  rw [hw]
  simp [signedFloat, foldSign]
  norm_num

theorem vPTAT25_calibrationParams : calibrationParams.vPTAT25 = 16384 := by
  change UInt16.ofInt (Int16.ofInt (calibrationImage 49).toNat).toInt = 16384
  decide

theorem getTa_calibrationParams (f : Nat → UInt16) (h800 : f 800 = 1) (h768 : f 768 = 8) :
    getTa f calibrationParams = 25 := by
  simp only [getTa, frameValue, h800, h768, alphaPTAT_calibrationParams,
    kvPTAT_calibrationParams, ktPTAT_calibrationParams, vPTAT25_calibrationParams]
  simp [signedFloat, foldSign]
  norm_num

theorem pixelIrData_calibrationParams (f : Nat → UInt16) (p : Fin 768) (hp : f p = 0) :
    pixelIrData f calibrationParams p = 0 := by
  have hoffset : calibrationParams.offset p = 0 := by
    have hrow : ∀ k : Fin 24, nibbleAt calibrationImage 18 k = 0 := by decide
    have hcolumn : ∀ k : Fin 32, nibbleAt calibrationImage 24 k = 0 := by decide
    have hp := p.isLt
    change offsetValue calibrationImage p = 0
    rw [offsetValue, calibrationImage_pixel, hrow ⟨p / 32, by omega⟩, hcolumn ⟨p % 32, by omega⟩]
    decide
  have hc1 : calibrationParams.ilChessC 1 = 0 := by
    change (signedFloat (bits (calibrationImage 53) 0x07C0 6) 15 32 / ofInt 2 : ℝ) = 0
    have hw : bits (calibrationImage 53) 0x07C0 6 = 0 := by decide
    rw [hw, signedFloat_zero (by decide), zero_div]
  have hc2 : calibrationParams.ilChessC 2 = 0 := by
    change (signedFloat (bits (calibrationImage 53) 0xF800 11) 15 32 / ofInt 8 : ℝ) = 0
    have hw : bits (calibrationImage 53) 0xF800 11 = 0 := by decide
    rw [hw, signedFloat_zero (by decide), zero_div]
  simp [pixelIrData, frameValue, hp, hoffset, hc1, hc2, drift, signedFloat_zero]

theorem objectTemperature_calibrationParams (p : Fin 768) :
    objectTemperature calibrationParams 25 (reflected 25 17 (lit (95 / 100))) 0 p ≠ 0 := by
  intro h
  have hroot : ∀ x : ℝ, sqrt x = Real.sqrt x := fun _ => rfl
  simp only [objectTemperature, zero_div, zero_add, hroot] at h
  have hroots : Real.sqrt (Real.sqrt (reflected 25 17 (lit (95 / 100)))) = 27315 / 100 := by
    simpa [lit] using sub_eq_zero.mp h
  have hsq := (Real.sqrt_eq_iff_mul_self_eq_of_pos (by norm_num)).mp hroots
  have hval := (Real.sqrt_eq_iff_mul_self_eq_of_pos (by norm_num)).mp hsq.symm
  norm_num [reflected, lit] at hval

theorem correctDeviating_calibrationParams (temps : Fin 768 → ℝ) :
    correctDeviating 1 calibrationParams temps = some temps := by
  have hnone : ∀ p : Fin 768, ¬isDeviating calibrationImage p := by
    intro p
    rw [isDeviating, isBroken, isOutlier, Nat.add_comm, calibrationImage_pixel]
    decide
  obtain ⟨final, -, hkeep, hfinal⟩ := exists_simultaneous wellSpaced_calibrationParams 1 temps
  obtain rfl : final = temps := funext fun p => hkeep p (hnone p)
  exact (corrections_eq_replaceAll wellSpaced_calibrationParams 1 final final hfinal).1

/-- New data at every look, so that no attempt ever gets a stable frame. -/
def unstableScript : Script := fun _ => wordsResponse (frameWords 8)

theorem unstableScript_getFrameData (frameData : Nat → UInt16) :
    getFrameData (some scriptedBus) 1 0x33 frameData unstableScript =
      some ((-8, attemptedFrame unstableScript 0 4 frameData), unstableScript) := by
  have hready : ∀ i, dataReady ((unstableScript i).word 0) ≠ 0 := by
    intro i
    rw [unstableScript, wordsResponse_word _ (by decide)]
    decide
  exact getFrameData_set 0x33 unstableScript frameData (fun _ _ => rfl) (fun _ _ => ⟨rfl, rfl, rfl⟩)
    ⟨by omega, hready 0⟩ Nat.one_pos fun j _ => hready _

theorem pixelTemperature_calibrationParams {f : Nat → UInt16} (h2 : f 2 = 0) (h768 : f 768 = 8)
    (h800 : f 800 = 1) (h833 : f 833 = 0) :
    ∃ x, pixelTemperature f calibrationParams (lit (95 / 100))
      (getTa f calibrationParams - ofInt 8) 2 = some x ∧ x ≠ 0 := by
  have htgc : calibrationParams.tgc = 0 := by
    change (signedFloat (calibrationImage 60 &&& 0x00FF) 127 256 / ofInt 32 : ℝ) = 0
    have hw : calibrationImage 60 &&& 0x00FF = 0 := by decide
    rw [hw, signedFloat_zero (by decide), zero_div]
  have htr : (25 : ℝ) - ofInt 8 = 17 := by
    rw [ofInt_exact]
    norm_num
  have hzero : (0 : UInt16).toNat < 2 := by decide
  refine ⟨_, ?_, objectTemperature_calibrationParams 2⟩
  simp only [pixelTemperature, irDataCPAt, h833, hzero, dif_pos, Option.bind_eq_bind,
    Option.bind_some, getTa_calibrationParams f h800 h768, htr, pixelIrData_calibrationParams f 2 h2,
    htgc, zero_mul, sub_zero, zero_div]
  rfl

theorem ofSubpage_two {f : Nat → UInt16} (h833 : f 833 = 0) : ofSubpage f 2 := by
  have hsubpage : subpageOf (isChess f) 2 = 0 := by
    rw [subpageOf]
    split <;> rfl
  rw [ofSubpage, h833]
  exact hsubpage

/-- The loop reports -8 and goes on to store a temperature. -/
theorem iteration_unstable {g : Globals ℝ} (hparams : g.mlx90640 = calibrationParams)
    (hsubpage : g.frame 833 = 0) :
    ∃ after, iteration (some scriptedBus) 1 (g, unstableScript) = some (-8, after) ∧
      after.1.mlx90640To 2 ≠ 0 := by
  obtain ⟨f, hf⟩ : ∃ f, f = attemptedFrame unstableScript 0 4 g.frame := ⟨_, rfl⟩
  have hwords : ∀ k < 832, f k = frameWords 8 k := by
    intro k hk
    rw [hf, attemptedFrame, if_pos hk]
    exact wordsResponse_word _ hk
  have h833 : f 833 = 0 := by
    rw [hf, attemptedFrame, if_neg (by decide), hsubpage]
  obtain ⟨x, hx, hne⟩ := pixelTemperature_calibrationParams (hwords 2 (by decide))
    (hwords 768 (by decide)) (hwords 800 (by decide)) h833
  obtain ⟨value, hwrites⟩ := calculateTo_overwrites f calibrationParams (lit (95 / 100))
    (getTa f calibrationParams - ofInt 8)
  obtain ⟨temps, htemps, -, -⟩ := hwrites g.mlx90640To
  have hcell := calculateTo_cell htemps (ofSubpage_two h833)
  refine ⟨({ g with frame := f, mlx90640To := temps }, unstableScript), ?_, ?_⟩
  · simp only [iteration, unstableScript_getFrameData, ← hf, hparams, htemps,
      correctDeviating_calibrationParams, Option.bind_eq_bind, Option.bind_some]
    rfl
  · rw [hx, Option.some.injEq] at hcell
    rwa [hcell] at hne

/-- New data at every look: the acquisition gives up with -8 after a good dump and a good
extraction, and the pass still changes the image. -/
theorem error_containment_fails_unstable :
    ∃ start after,
      mlx90640Init (some scriptedBus) (fun _ => ⟨fun _ => 0, fun _ => 0, fun _ => 0⟩) 1
        (default : Globals ℝ) (startup unstableScript) = some start ∧
      iteration (some scriptedBus) 1 (start.globals, start.device) = some (-8, after) ∧
      ¬Contained start.dumpStatus start.extractStatus (-8) start.globals.mlx90640To
        after.1.mlx90640To := by
  obtain ⟨after, hpass, hstored⟩ := iteration_unstable
    (g := { (default : Globals ℝ) with
      eeMLX90640 := calibrationImage, mlx90640 := calibrationParams }) rfl rfl
  refine ⟨_, after, mlx90640Init_startup unstableScript _ 1, hpass, fun hcontained => ?_⟩
  have hchanged : after.1.mlx90640To ≠ (default : Globals ℝ).mlx90640To :=
    fun h => hstored (congrFun h 2)
  exact absurd (hcontained hchanged).2.2 (by decide)

end Mlx90640.App.Acquisition
