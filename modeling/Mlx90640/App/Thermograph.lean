import Mlx90640.App.Acquisition
import Mlx90640.Display.FrameBuffers
import Mlx90640.Display.Rendering

/-!
# The thermograph

The whole of `thread1_entry`: the screen is whitened through the driver, and then every pass
acquires, computes, enlarges and draws. Drawing goes to the buffer that the whitening turned
to.
-/
namespace Mlx90640.App.Thermograph

open Mlx90640.Bus.Transfer
open Mlx90640.Bus.FrameData
open Mlx90640.Calibration
open Mlx90640.Calibration.Extract
open Mlx90640.Pixels.Temperature
open Mlx90640.Display.Interpolation
open Mlx90640.Display.Extremes
open Mlx90640.Display.Glyphs
open Mlx90640.Display.Screen
open Mlx90640.Display.Rendering
open Mlx90640.Display.FrameBuffers
open Mlx90640.App.Acquisition
open Mlx90640.Lib.DoubleBuffer
open Mlx90640.Lib.Loops

/-- The calls of a pass go through the driver. -/
def draw (lcd : Lcd) (calls : List Call) : Lcd :=
  calls.foldl (fun lcd call => match call with
    | .pixel x y color => lcd.drawPixel x y color
    | _ => lcd) lcd

/-- The loop over `lcd_info.framebuffer`, and the update of the whole screen. -/
def whiten (engine : Engine) (lcd : Lcd) : Lcd :=
  let framebuffer := Nat.fold (lcdBufSize / 2) (fun i _ framebuffer =>
    Function.update (Function.update framebuffer (2 * i) 0xFF) (2 * i + 1) 0xFF) lcd.framebuffer
  Lcd.rectUpdate engine ⟨0, 0, 480, 360⟩ { lcd with framebuffer := framebuffer }

/-- The state of the program between two passes. -/
structure State (F σ : Type) where
  globals : Globals F
  device : σ
  srcMatrix : Fin 24 → Fin 32 → F
  destMatrix : Fin 240 → Fin 320 → F
  lcd : Lcd

section Code

variable {F : Type} [Add F] [Sub F] [Mul F] [Div F] [LinearOrder F] [CFloat F] [CInt F] [CSqrt F]
  {σ : Type} (cos sin : F → F) (i2cBus : Option (I2CBus σ))

/-- Where the loop starts, whatever the start of the sensor left behind. -/
def powerOn {F σ : Type} (engine : Engine) (memory : Nat → UInt16) (framebuffer : Nat → UInt8)
    (globals : Globals F) (device : σ) (srcMatrix : Fin 24 → Fin 32 → F)
    (destMatrix : Fin 240 → Fin 320 → F) : State F σ :=
  ⟨globals, device, srcMatrix, destMatrix, whiten engine (rtHwLcdInit memory framebuffer)⟩

/-- One pass of `while(1)`. -/
def pass (fuel : Nat) (beyond : Int → Int → F) (s : State F σ) : Option (State F σ) := do
  let (_, globals, device) ← iteration i2cBus fuel (s.globals, s.device)
  let frame ← takeFrame globals.mlx90640To beyond s.srcMatrix s.destMatrix
  let calls ← drawFrame cos sin frame
  return ⟨globals, device, frame.srcMatrix, frame.destMatrix, draw s.lcd calls⟩

/-- The state after `m` passes; pass `k` may poll `fuels k` times and reads `beyonds k` behind the
source matrix. -/
def thermograph (fuels : Nat → Nat) (beyonds : Nat → Int → Int → F) (start : State F σ) :
    Nat → Option (State F σ)
  | 0 => some start
  | m + 1 => (thermograph fuels beyonds start m).bind
    (pass cos sin i2cBus (fuels m) (beyonds m))

end Code

section Frame

variable {F : Type} [Add F] [Sub F] [Mul F] [Div F] [CFloat F] [CInt F]

theorem bilinearInterpolation_total (srcMatrix : Fin 24 → Fin 32 → F) (beyond : Int → Int → F) :
    ∃ picture, ∀ destMatrix,
      bilinearInterpolation (memory srcMatrix beyond) destMatrix = some picture := by
  have hcell : ∀ y x, ∃ value, interpolate (memory srcMatrix beyond) y x = some value :=
    fun y x => ⟨_, rfl⟩
  choose value hvalue using hcell
  refine ⟨fun y x => value y x, fun destMatrix => ?_⟩
  have hrow : ∀ (y : Nat) (hy : y < 240) (destMatrix : Fin 240 → Fin 320 → F),
      Nat.fold 320 (fun x hx destMatrix => destMatrix.bind fun destMatrix =>
        (interpolate (memory srcMatrix beyond) y x).map
          (updateCell destMatrix ⟨y, hy⟩ ⟨x, hx⟩)) (some destMatrix) =
      some (Nat.fold 320 (fun x hx destMatrix =>
        updateCell destMatrix ⟨y, hy⟩ ⟨x, hx⟩ (value y x)) destMatrix) := by
    intro y hy destMatrix
    apply fold_bind_some
    intro x hx destMatrix
    rw [hvalue]
    rfl
  rw [bilinearInterpolation, fold_bind_some hrow]
  exact congrArg some (fold_matrix (fun (y : Fin 240) (x : Fin 320) => value y x) destMatrix)

variable [LinearOrder F]

theorem takeFrame_of {mlx90640To : Fin 768 → F} {beyond : Int → Int → F}
    {srcMatrix src : Fin 24 → Fin 32 → F} {destMatrix picture : Fin 240 → Fin 320 → F}
    (hcopy : copyReversed mlx90640To srcMatrix = some src)
    (hpicture : bilinearInterpolation (memory src beyond) destMatrix = some picture) :
    takeFrame mlx90640To beyond srcMatrix destMatrix =
      some ⟨src, (findMinTemperature src (findMaxTemperature src picture).2).2,
        (findMaxTemperature src picture).1,
        (findMinTemperature src (findMaxTemperature src picture).2).1⟩ := by
  unfold takeFrame
  refine Option.bind_eq_some_iff.mpr ⟨src, hcopy,
    Option.bind_eq_some_iff.mpr ⟨picture, hpicture, ?_⟩⟩
  generalize findMaxTemperature src picture = hottest
  obtain ⟨hottest, marked⟩ := hottest
  dsimp only
  generalize findMinTemperature src marked = coldest
  rfl

theorem takeFrame_total (mlx90640To : Fin 768 → F) (beyond : Int → Int → F) :
    ∃ frame, ∀ srcMatrix destMatrix,
      takeFrame mlx90640To beyond srcMatrix destMatrix = some frame := by
  obtain ⟨source, hsource⟩ : ∃ source : Fin 24 → Fin 32 → F,
      ∀ i j, source i j = mlx90640To ⟨origin i j, origin_lt i j⟩ := ⟨_, fun _ _ => rfl⟩
  obtain ⟨picture, hpicture⟩ := bilinearInterpolation_total source beyond
  refine ⟨_, fun srcMatrix destMatrix => takeFrame_of ?_ (hpicture destMatrix)⟩
  obtain ⟨src, hcopy, hcells⟩ := copyReversed_eq mlx90640To srcMatrix
  have hsame : src = source := by
    funext i j
    rw [hcells i j (origin_lt i j), hsource]
  rw [hcopy, hsame]

end Frame

def view (lcd : Lcd) (i : Nat) : UInt16 := lcd.memory (lcd.workingBuffer + i)

def actionsOf (calls : List Call) : List Action :=
  calls.filterMap fun call => match call with
    | .pixel x y color => some (.drawPixel x y color)
    | _ => none

theorem mem_actionsOf {calls : List Call} {a : Action} (h : a ∈ actionsOf calls) :
    ∃ x y color, a = .drawPixel x y color := by
  obtain ⟨call, -, hcall⟩ := List.mem_filterMap.mp h
  cases call with
  | character x y num => cases hcall
  | lookup s n i => cases hcall
  | pixel x y color => exact ⟨x, y, color, (Option.some.inj hcall).symm⟩

theorem draw_eq_run (engine : Engine) (lcd : Lcd) (calls : List Call) :
    draw lcd calls = (driver engine).run lcd (actionsOf calls) := by
  induction calls generalizing lcd with
  | nil => rfl
  | cons call calls ih =>
    cases call with
    | character x y num => exact ih lcd
    | lookup s n i => exact ih lcd
    | pixel x y color => exact ih (lcd.drawPixel x y color)

theorem view_drawPixel {lcd : Lcd} (h : lcd.screenRotation = .rotationZero) (x y : Nat)
    (color : UInt16) : view (lcd.drawPixel x y color) = lcdDrawPixel (view lcd) x y color := by
  funext i
  unfold view Lcd.drawPixel lcdDrawPixel lcdWidth lcdHeight
  split
  case isTrue =>
    rw [h]
    show Function.update lcd.memory (lcd.workingBuffer + (y * 480 + x)) color
      (lcd.workingBuffer + i) = _
    by_cases hi : i = y * 480 + x
    · subst hi
      rw [Function.update_self, Function.update_self]
    · rw [Function.update_of_ne (by omega), Function.update_of_ne hi]
  case isFalse => rfl

theorem view_draw {lcd : Lcd} (h : Serving lcd) (calls : List Call) :
    view (draw lcd calls) = paint (view lcd) calls := by
  induction calls generalizing lcd with
  | nil => rfl
  | cons call calls ih =>
    cases call with
    | character x y num => exact ih h
    | lookup s n i => exact ih h
    | pixel x y color =>
      show view (draw (lcd.drawPixel x y color) calls) =
        paint (lcdDrawPixel (view lcd) x y color) calls
      rw [ih (h.drawPixel x y color), view_drawPixel h.rotation]

theorem draw_keeps (engine : Engine) {lcd : Lcd} (h : Serving lcd) (calls : List Call) :
    Serving (draw lcd calls) ∧ (draw lcd calls).workingBuffer = lcd.workingBuffer ∧
      ∀ i, ¬ Region lcd.side i → (draw lcd calls).memory i = lcd.memory i := by
  have hlegal : ∀ a ∈ actionsOf calls, (driver engine).Legal a := by
    intro a ha
    obtain ⟨x, y, color, rfl⟩ := mem_actionsOf ha
    trivial
  have hstay : ∀ a ∈ actionsOf calls, (driver engine).turns a = false := by
    intro a ha
    obtain ⟨x, y, color, rfl⟩ := mem_actionsOf ha
    rfl
  have hturns : (driver engine).turnCount (actionsOf calls) = 0 := by
    apply List.countP_eq_zero.mpr
    intro a ha
    simp [hstay a ha]
  have hserving : Serving ((driver engine).run lcd (actionsOf calls)) :=
    (run_invariant (driver engine) (P := Serving) (fun _ a h _ _ => h.step engine a) h h hlegal).2
  have hside : ((driver engine).run lcd (actionsOf calls)).side = lcd.side := by
    refine (run_side (driver engine) h hlegal).trans ?_
    rw [hturns]
    exact Bool.xor_false _
  rw [draw_eq_run engine]
  refine ⟨hserving, ?_, fun i hi => run_idle (driver engine) h hlegal hstay hi⟩
  rw [hserving.workingBuffer_eq, h.workingBuffer_eq, hside]

theorem fill_bytes (framebuffer : Nat → UInt8) (n i : Nat) :
    Nat.fold n (fun i _ framebuffer => Function.update (Function.update framebuffer (2 * i) 0xFF)
      (2 * i + 1) 0xFF) framebuffer i = if i < 2 * n then 0xFF else framebuffer i := by
  induction n with
  | zero =>
    rw [if_neg (by omega)]
    rfl
  | succ n ih =>
    rw [Nat.fold_succ]
    by_cases hlast : i = 2 * n + 1
    · rw [hlast, Function.update_self, if_pos (by omega)]
    · rw [Function.update_of_ne hlast]
      by_cases hfirst : i = 2 * n
      · rw [hfirst, Function.update_self, if_pos (by omega)]
      · have hrange : i < 2 * n ↔ i < 2 * (n + 1) := by omega
        rw [Function.update_of_ne hfirst, ih]
        simp only [hrange]

/-- The second buffer shows a layer on white, `fb_background` is black, and the memory behind the
second buffer is as it was. -/
structure OnWhite (memory : Nat → UInt16) (layer : Layer) (lcd : Lcd) : Prop where
  serving : Serving lcd
  second : lcd.workingBuffer = 345600
  shown : ∀ x y, x < 480 → y < 360 → view lcd (y * 480 + x) = (layer x y).getD 0xFFFF
  behind : ∀ i, 172800 ≤ i → view lcd i = memory (345600 + i)
  background : ∀ i < 345600, lcd.memory i = 0

theorem OnWhite.shownPixel {memory : Nat → UInt16} {layer : Layer} {lcd : Lcd}
    (h : OnWhite memory layer lcd) {x y : Nat} (hx : x < 480) (hy : y < 360) :
    lcd.shownPixel x y = (layer x y).getD 0xFFFF := by
  have hshown : lcd.shownBuffer = lcd.workingBuffer := h.serving.shown
  rw [Lcd.shownPixel, hshown]
  exact h.shown x y hx hy

def blank : Layer := fun _ _ => none

theorem fits_screen : RectInfo.Fits ⟨0, 0, 480, 360⟩ := ⟨by decide, by decide⟩

theorem sourcePixel_screen {i : Nat} (hi : i < 172800) :
    RectInfo.sourcePixel ⟨0, 0, 480, 360⟩ i = some i := by
  have hwidth : (480 : UInt16).toNat = 480 := rfl
  have hheight : (360 : UInt16).toNat = 360 := rfl
  have hzero : (0 : UInt16).toNat = 0 := rfl
  unfold RectInfo.sourcePixel
  simp only [hwidth, hheight, hzero]
  rw [if_pos (by omega)]
  congr 1
  omega

/-- The first update turns to the second buffer and whitens it. -/
theorem whiten_second (engine : Engine) {memory : Nat → UInt16} {lcd : Lcd} (h : Serving lcd)
    (hfirst : lcd.workingBuffer = 0)
    (hmemory : ∀ i, lcd.memory i = if i < 345600 then 0 else memory i) :
    OnWhite memory blank (whiten engine lcd) := by
  unfold whiten
  extract_lets framebuffer
  obtain ⟨filled, hfilled⟩ : ∃ filled : Lcd, filled = { lcd with framebuffer := framebuffer } :=
    ⟨_, rfl⟩
  rw [← hfilled]
  have hserving : Serving filled := by
    rw [hfilled]
    exact ⟨h.single, h.double, h.working, h.rotation, h.shown⟩
  have hsame : ∀ i, filled.memory i = lcd.memory i := by
    rw [hfilled]
    exact fun _ => rfl
  have hside : filled.side = false := by
    unfold Lcd.side
    rw [hfilled]
    simp [hfirst]
  have hwhite : ∀ i < 172800, filled.source i = 0xFFFF := by
    have hbyte : ∀ k < 345600, filled.framebuffer k = 0xFF := by
      intro k hk
      rw [hfilled]
      show framebuffer k = 0xFF
      unfold framebuffer
      rw [fill_bytes, lcdBufSize_eq, if_pos (by omega)]
    intro i hi
    rw [Lcd.source, hbyte _ (by omega), hbyte _ (by omega)]
    rfl
  have hworking : (filled.rectUpdate engine ⟨0, 0, 480, 360⟩).workingBuffer = 345600 := by
    rw [hserving.rectUpdate_workingBuffer, hside]
    rfl
  have hcopy := rectUpdate_memory engine filled fits_screen
  simp only [hworking] at hcopy
  refine ⟨hserving.rectUpdate engine _, hworking, ?_, ?_, ?_⟩
  · intro x y hx hy
    unfold view
    rw [hworking, hcopy, if_neg (by omega), Nat.add_sub_cancel_left,
      sourcePixel_screen (by omega), Option.map_some, hwhite _ (by omega)]
    rfl
  · intro i hi
    unfold view
    rw [hworking, hcopy, if_neg (by omega), Nat.add_sub_cancel_left,
      RectInfo.sourcePixel_none fits_screen hi, Option.map_none, Option.getD_none, hsame, hmemory,
      if_neg (by omega)]
  · intro i hi
    rw [hcopy, if_pos hi, hsame, hmemory, if_pos hi]

theorem whiten_onWhite (engine : Engine) (memory : Nat → UInt16) (framebuffer : Nat → UInt8) :
    OnWhite memory blank (whiten engine (rtHwLcdInit memory framebuffer)) :=
  whiten_second engine (rtHwLcdInit_serving memory framebuffer) rfl
    (rtHwLcdInit_memory memory framebuffer)

section Layers

variable {F : Type} [Add F] [Sub F] [Mul F] [Div F] [LinearOrder F] [CFloat F] (cos sin : F → F)

/-- A frame hides what the layer draws. -/
def Hidden (layer : Layer) : Prop :=
  ∀ (frame : Frame F) x y, rendered cos sin frame x y = none → layer x y = none

theorem hidden_rendered (frame : Frame F) : Hidden cos sin (rendered cos sin frame) :=
  fun frame' _ _ h =>
    (rendered_eq_none_iff cos sin frame).mpr ((rendered_eq_none_iff cos sin frame').mp h)

theorem OnWhite.draw (engine : Engine) {memory : Nat → UInt16} {layer : Layer} {lcd : Lcd}
    (h : OnWhite memory layer lcd) (hhidden : Hidden cos sin layer) (frame : Frame F) :
    OnWhite memory (rendered cos sin frame) (draw lcd (frameCalls cos sin frame)) := by
  obtain ⟨hserving, hworking, hidle⟩ := draw_keeps engine h.serving (frameCalls cos sin frame)
  have hview := view_draw h.serving (frameCalls cos sin frame)
  have hdisplays := paint_displays cos sin frame (view lcd)
  rw [← hview] at hdisplays
  refine ⟨hserving, hworking.trans h.second, ?_, ?_, ?_⟩
  · intro x y hx hy
    rw [hdisplays.shown x y hx hy, h.shown x y hx hy]
    cases hink : rendered cos sin frame x y with
    | some color => rfl
    | none =>
      rw [hhidden frame x y hink]
      rfl
  · intro i hi
    rw [hdisplays.behind i hi, h.behind i hi]
  · intro i hi
    rw [hidle, h.background i hi]
    have hbase := h.serving.workingBuffer_eq
    rw [h.second] at hbase
    unfold Region
    omega

end Layers

section Passes

variable {F : Type} [Add F] [Sub F] [Mul F] [Div F] [LinearOrder F] [CFloat F] [CInt F] [CSqrt F]
  {σ : Type} (cos sin : F → F) (i2cBus : Option (I2CBus σ))

def State.acquisition (s : State F σ) : Globals F × σ := (s.globals, s.device)

/-- A pass completes exactly when its acquisition does, and then it draws the frame of the new
temperatures. -/
theorem pass_eq (fuel : Nat) (beyond : Int → Int → F) (s : State F σ) {status : Int}
    {y : Globals F × σ} (h : iteration i2cBus fuel s.acquisition = some (status, y)) :
    ∃ frame, (∀ srcMatrix destMatrix,
        takeFrame y.1.mlx90640To beyond srcMatrix destMatrix = some frame) ∧
      pass cos sin i2cBus fuel beyond s = some ⟨y.1, y.2, frame.srcMatrix, frame.destMatrix,
        draw s.lcd (frameCalls cos sin frame)⟩ := by
  obtain ⟨frame, hframe⟩ := takeFrame_total y.1.mlx90640To beyond
  refine ⟨frame, hframe, ?_⟩
  unfold pass
  exact Option.bind_eq_some_iff.mpr ⟨(status, y), h, Option.bind_eq_some_iff.mpr ⟨frame,
    hframe _ _, Option.bind_eq_some_iff.mpr ⟨_, drawFrame_frameCalls cos sin frame, rfl⟩⟩⟩

/-- The drawing half of a pass neither stops the loop nor touches what the acquisition works
on. -/
theorem thermograph_acquisition (fuels : Nat → Nat) (beyonds : Nat → Int → Int → F)
    (start : State F σ) (m : Nat) :
    (thermograph cos sin i2cBus fuels beyonds start m).map State.acquisition =
      thread1Entry i2cBus fuels start.acquisition m := by
  induction m with
  | zero => rfl
  | succ m ih =>
    rw [thermograph, thread1Entry, ← ih, Option.map_bind, Option.bind_map]
    congr 1
    funext s
    show Option.map State.acquisition (pass cos sin i2cBus (fuels m) (beyonds m) s) =
      (iteration i2cBus (fuels m) s.acquisition).map Prod.snd
    cases hpass : iteration i2cBus (fuels m) s.acquisition with
    | none =>
      unfold State.acquisition at hpass
      simp [pass, hpass]
    | some result =>
      obtain ⟨frame, -, hdrawn⟩ := pass_eq cos sin i2cBus (fuels m) (beyonds m) s hpass
      rw [hdrawn]
      rfl

/-- After any number of passes the screen shows the frame of the last temperatures on white. -/
theorem thermograph_onWhite (engine : Engine) (memory : Nat → UInt16) (fuels : Nat → Nat)
    (beyonds : Nat → Int → Int → F) {start : State F σ} (hstart : OnWhite memory blank start.lcd)
    {m : Nat} {s : State F σ} (h : thermograph cos sin i2cBus fuels beyonds start m = some s) :
    ∃ layer, OnWhite memory layer s.lcd ∧ Hidden cos sin layer ∧ ∀ k, m = k + 1 →
      ∃ frame, (∀ srcMatrix destMatrix,
        takeFrame s.globals.mlx90640To (beyonds k) srcMatrix destMatrix = some frame) ∧
        layer = rendered cos sin frame := by
  induction m generalizing s with
  | zero =>
    obtain rfl := Option.some.inj h
    exact ⟨blank, hstart, fun _ _ _ _ => rfl, fun k hk => by omega⟩
  | succ m ih =>
    rw [thermograph, Option.bind_eq_some_iff] at h
    obtain ⟨before, hbefore, hpass⟩ := h
    obtain ⟨layer, hlayer, hhidden, -⟩ := ih hbefore
    cases hiteration : iteration i2cBus (fuels m) before.acquisition with
    | none =>
      unfold State.acquisition at hiteration
      simp [pass, hiteration] at hpass
    | some result =>
      obtain ⟨frame, hframe, hdrawn⟩ :=
        pass_eq cos sin i2cBus (fuels m) (beyonds m) before hiteration
      rw [hdrawn, Option.some.injEq] at hpass
      subst hpass
      dsimp only
      refine ⟨_, hlayer.draw cos sin engine hhidden frame, hidden_rendered cos sin frame, ?_⟩
      intro k hk
      obtain rfl : m = k := by omega
      exact ⟨frame, hframe, rfl⟩

end Passes

/-- The whole program: it completes the passes that the acquisition alone completes, with the
same temperatures. After each pass the controller shows the frame of the temperatures on white,
from a buffer that begins where `fb_background` ends; `fb_background` stays black, and nothing is
stored behind that buffer. -/
theorem screen_shows_temperatures {F σ : Type} [Add F] [Sub F] [Mul F] [Div F] [LinearOrder F]
    [CFloat F] [CInt F] [CSqrt F] (cos sin : F → F) (i2cBus : Option (I2CBus σ)) (engine : Engine)
    (memory : Nat → UInt16) (framebuffer : Nat → UInt8) (fuels : Nat → Nat)
    (beyonds : Nat → Int → Int → F) (globals : Globals F) (device : σ)
    (srcMatrix : Fin 24 → Fin 32 → F) (destMatrix : Fin 240 → Fin 320 → F) :
    let start := powerOn engine memory framebuffer globals device srcMatrix destMatrix
    (∀ m, (thermograph cos sin i2cBus fuels beyonds start m).map State.acquisition =
      thread1Entry i2cBus fuels (globals, device) m) ∧
    ∀ m s, thermograph cos sin i2cBus fuels beyonds start (m + 1) = some s →
      ∃ frame, (∀ srcMatrix destMatrix,
          takeFrame s.globals.mlx90640To (beyonds m) srcMatrix destMatrix = some frame) ∧
        (∀ x y, x < 480 → y < 360 →
          s.lcd.shownPixel x y = (rendered cos sin frame x y).getD 0xFFFF) ∧
        s.lcd.shownBuffer = fbBackgroundPixels ∧
        (∀ i < fbBackgroundPixels, s.lcd.memory i = 0) ∧
        ∀ i, fbBackgroundPixels + 172800 ≤ i → s.lcd.memory i = memory i := by
  intro start
  refine ⟨thermograph_acquisition cos sin i2cBus fuels beyonds start, fun m s h => ?_⟩
  have hstart : OnWhite memory blank start.lcd := whiten_onWhite engine memory framebuffer
  obtain ⟨layer, hlayer, -, hlast⟩ :=
    thermograph_onWhite cos sin i2cBus engine memory fuels beyonds hstart h
  obtain ⟨frame, hframe, rfl⟩ := hlast m rfl
  have hshown : s.lcd.shownBuffer = s.lcd.workingBuffer := hlayer.serving.shown
  refine ⟨frame, hframe, fun x y hx hy => hlayer.shownPixel hx hy, hshown.trans hlayer.second,
    hlayer.background, fun i hi => ?_⟩
  rw [fbBackgroundPixels_eq] at hi
  have hbehind := hlayer.behind (i - 345600) (by omega)
  unfold view at hbehind
  rw [hlayer.second, Nat.add_sub_cancel' (by omega)] at hbehind
  exact hbehind

theorem thread1Entry_unstable {g : Globals ℝ} (hparams : g.mlx90640 = calibrationParams)
    (hsubpage : g.frame 833 = 0) :
    ∃ after, thread1Entry (some scriptedBus) (fun _ => 1) (g, unstableScript) 1 = some after := by
  obtain ⟨after, hpass, -⟩ := iteration_unstable hparams hsubpage
  exact ⟨after, thread1Entry_succ.mpr ⟨(g, unstableScript), -8, rfl, hpass⟩⟩

/-- It is shown in the second buffer. -/
theorem screen_shows_temperatures_unstable :
    ∃ s, thermograph (fun _ => 0) (fun _ => 0) (some scriptedBus) (fun _ => 1)
        (fun _ _ _ => (0 : ℝ))
        (powerOn plainEngine (fun _ => 0) (fun _ => 0)
          { (default : Globals ℝ) with mlx90640 := calibrationParams } unstableScript
          (fun _ _ => 0) fun _ _ => 0) 1 = some s ∧
      s.lcd.shownBuffer = fbBackgroundPixels := by
  obtain ⟨after, hentry⟩ := thread1Entry_unstable
    (g := { (default : Globals ℝ) with mlx90640 := calibrationParams }) rfl rfl
  obtain ⟨hsame, hshows⟩ := screen_shows_temperatures (fun _ => (0 : ℝ)) (fun _ => 0)
    (some scriptedBus) plainEngine (fun _ => 0) (fun _ => 0) (fun _ => 1) (fun _ _ _ => 0)
    { (default : Globals ℝ) with mlx90640 := calibrationParams } unstableScript (fun _ _ => 0)
    fun _ _ => 0
  have hacquired := (hsame 1).trans hentry
  obtain ⟨s, hs, -⟩ := Option.map_eq_some_iff.mp hacquired
  obtain ⟨-, -, -, hbuffer, -⟩ := hshows 0 s hs
  exact ⟨s, hs, hbuffer⟩

end Mlx90640.App.Thermograph
