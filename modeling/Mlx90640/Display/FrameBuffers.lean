import Mlx90640.Bus.Transfer
import Mlx90640.Display.Screen
import Mlx90640.Lib.DoubleBuffer
import Mathlib.Tactic.Ring

/-!
# The display driver

`drv_lcd.c` draws into the working buffer. An update of a rectangle first turns to the other
buffer, has the 2D engine copy the rectangle there, and shows that buffer from then on. The
memory is counted in pixels from the start of `fb_background`, which has room for two pictures.
`LCD_BUF_SIZE` is the size of a picture in bytes, and the driver also counts pixels with it: in
the loop that clears the screen and in the place of the second buffer.
-/
namespace Mlx90640.Display.FrameBuffers

open Mlx90640.Bus.Transfer
open Mlx90640.Display.Glyphs
open Mlx90640.Display.Screen
open Mlx90640.Lib.DoubleBuffer
open Mlx90640.Lib.Loops

def lcdWidth : Nat := 480
def lcdHeight : Nat := 360
def lcdBitsPerPixel : Nat := 16

/-- `LCD_BUF_SIZE`, in bytes. -/
def lcdBufSize : Nat := lcdWidth * lcdHeight * lcdBitsPerPixel / 8

/-- `DISPLAY_BUFFER_STRIDE_BYTES_INPUT0` -/
def strideBytes : Nat := ((lcdWidth * lcdBitsPerPixel + 0x1FF) >>> 9) <<< 6

/-- The pixels of `fb_background[2][...]`. -/
def fbBackgroundPixels : Nat := 2 * (strideBytes * lcdHeight) / 2

/-- `bsp_rotation` -/
inductive BspRotation where
  | rotationZero | rotation090 | rotation180 | rotation270
  deriving DecidableEq, Repr

/-- The static variables of the driver, and the memory that it draws in. -/
structure Lcd where
  memory : Nat → UInt16
  /-- `lcd_framebuffer`, the source of the updates. -/
  framebuffer : Nat → UInt8
  singleBuffer : Nat
  doubleBuffer : Nat
  /-- `lcd_current_working_buffer` -/
  workingBuffer : Nat
  screenRotation : BspRotation
  /-- The buffer that the display controller was told to show. -/
  shownBuffer : Nat

/-- The place of a pixel in the working buffer. -/
def pixelIndex (rotation : BspRotation) (x y : Nat) : Nat :=
  match rotation with
  | .rotation180 => (lcdHeight - y) * lcdWidth + (lcdWidth - x)
  | _ => y * lcdWidth + x

/-- `lcd_draw_pixel` -/
def Lcd.drawPixel (lcd : Lcd) (x y : Nat) (color : UInt16) : Lcd :=
  if x ≤ lcdWidth ∧ y ≤ lcdHeight then
    let place := lcd.workingBuffer + pixelIndex lcd.screenRotation x y
    { lcd with memory := Function.update lcd.memory place color }
  else lcd

/-- `ra_bsp_lcd_clear` -/
def Lcd.clear (lcd : Lcd) (color : UInt16) : Lcd :=
  { lcd with memory := Nat.fold lcdBufSize (fun i _ memory =>
      Function.update memory (lcd.workingBuffer + i) color) lcd.memory }

/-- `rt_hw_lcd_init`; `g_display0_cfg.input[0].p_base` is the start of `fb_background`, and so is
the initial working buffer. -/
def rtHwLcdInit (memory : Nat → UInt16) (framebuffer : Nat → UInt8) : Lcd :=
  let singleBuffer := 0
  let lcd : Lcd := {
    memory := memory
    framebuffer := fun i => if i < lcdBufSize then 0x0 else framebuffer i
    singleBuffer := singleBuffer
    doubleBuffer := singleBuffer + lcdBufSize
    workingBuffer := 0
    screenRotation := .rotationZero
    shownBuffer := 0 }
  { lcd.clear 0x0 with screenRotation := .rotationZero }

/-- `struct rt_device_rect_info` -/
structure RectInfo where
  x : UInt16
  y : UInt16
  width : UInt16
  height : UInt16

def RectInfo.Fits (info : RectInfo) : Prop :=
  info.x.toNat + info.width.toNat ≤ 480 ∧ info.y.toNat + info.height.toNat ≤ 360

/-- The pixel of a picture of `width` columns that is drawn at place `i`, if the rectangle
covers that place. -/
def RectInfo.sourcePixel (info : RectInfo) (i : Nat) : Option Nat :=
  let column := i % 480 - info.x.toNat
  let row := i / 480 - info.y.toNat
  if info.x.toNat ≤ i % 480 ∧ info.y.toNat ≤ i / 480 ∧ column < info.width.toNat ∧
    row < info.height.toNat then some (row * info.width.toNat + column) else none

/-- A bitmap in `d2_mode_rgb565`, as `d2_framebuffer` and `d2_setblitsrc` are given it. The pitch
is the number of pixels from one line to the next. -/
structure Bitmap where
  pixels : Nat → UInt16
  pitch : Nat
  width : Nat
  height : Nat

/-- The borders of `d2_cliprect`. -/
structure ClipRect where
  xMin : Nat
  yMin : Nat
  xMax : Nat
  yMax : Nat

/-- `d2_width` and `d2_point`: four binary places in 16 bits. -/
def fixedPoint (n : Nat) : Int16 := Int16.ofNat (n <<< 4)

/-- The arguments of `d2_blitcopy`. -/
structure BlitCopy where
  srcWidth : Nat
  srcHeight : Nat
  srcX : Nat
  srcY : Nat
  dstWidth : Int16
  dstHeight : Int16
  dstX : Int16
  dstY : Int16
  flags : UInt32

/-- The D/AVE 2D driver. `blitcopy` is what the target holds once the render buffer with one blit is
executed: the upper left part of the source, copied without a change of size into the target. An
empty blit is refused and leaves the target as it is. The bounds are those of `d2_width`. -/
structure Engine where
  blitcopy : Bitmap → ClipRect → Bitmap → BlitCopy → Nat → UInt16
  copies : ∀ (target source : Bitmap) (width height x y : Nat),
    width ≤ source.width → source.width ≤ source.pitch → height ≤ source.height →
    x + width ≤ target.width → target.width ≤ target.pitch → y + height ≤ target.height →
    target.width ≤ 1023 → target.height ≤ 1023 → ∀ i,
    blitcopy target ⟨0, 0, target.width, target.height⟩ source
        ⟨width, height, 0, 0, fixedPoint width, fixedPoint height, fixedPoint x, fixedPoint y, 0⟩ i =
      let column := i % target.pitch - x
      let row := i / target.pitch - y
      if x ≤ i % target.pitch ∧ y ≤ i / target.pitch ∧ column < width ∧ row < height then
        source.pixels (row * source.pitch + column)
      else target.pixels i

/-- `g2d_display_write_area` -/
def g2dDisplayWriteArea (engine : Engine) (pSrc pDst : Nat → UInt16)
    (widthSrc heightSrc x y : Nat) : Nat → UInt16 :=
  let framebuffer : Bitmap := ⟨pDst, lcdWidth, lcdWidth, lcdHeight⟩
  let cliprect : ClipRect := ⟨0, 0, lcdWidth, lcdHeight⟩
  let blitsrc : Bitmap := ⟨pSrc, widthSrc, widthSrc, heightSrc⟩
  engine.blitcopy framebuffer cliprect blitsrc
    { srcWidth := widthSrc, srcHeight := heightSrc, srcX := 0, srcY := 0,
      dstWidth := fixedPoint widthSrc, dstHeight := fixedPoint heightSrc,
      dstX := fixedPoint x, dstY := fixedPoint y, flags := 0 }

/-- The pixels of `lcd_framebuffer`, low byte first. -/
def Lcd.source (lcd : Lcd) (i : Nat) : UInt16 :=
  ofBytes (lcd.framebuffer (2 * i + 1)) (lcd.framebuffer (2 * i))

/-- `RTGRAPHIC_CTRL_RECT_UPDATE` of `ra_lcd_control`. -/
def Lcd.rectUpdate (engine : Engine) (info : RectInfo) (lcd : Lcd) : Lcd :=
  let workingBuffer :=
    if lcd.workingBuffer = lcd.singleBuffer then lcd.doubleBuffer else lcd.singleBuffer
  let target := fun i => lcd.memory (workingBuffer + i)
  { lcd with
    workingBuffer := workingBuffer
    shownBuffer := workingBuffer
    memory := fun i => if i < workingBuffer then lcd.memory i
      else g2dDisplayWriteArea engine lcd.source target info.width.toNat info.height.toNat
        info.x.toNat info.y.toNat (i - workingBuffer) }

/-- What the program does to the driver. -/
inductive Action where
  | drawPixel (x y : Nat) (color : UInt16)
  /-- `lcd_info.framebuffer[i] = value` -/
  | store (i : Nat) (value : UInt8)
  | rectUpdate (info : RectInfo)

def step (engine : Engine) (lcd : Lcd) : Action → Lcd
  | .drawPixel x y color => lcd.drawPixel x y color
  | .store i value => { lcd with framebuffer := Function.update lcd.framebuffer i value }
  | .rectUpdate info => lcd.rectUpdate engine info

theorem lcdBufSize_eq : lcdBufSize = 345600 := rfl
theorem fbBackgroundPixels_eq : fbBackgroundPixels = 345600 := rfl

theorem fill_eq (memory : Nat → UInt16) (base n : Nat) (color : UInt16) :
    Nat.fold n (fun i _ memory => Function.update memory (base + i) color) memory =
      fun k => if base ≤ k ∧ k < base + n then color else memory k := by
  induction n with
  | zero =>
    funext k
    rw [if_neg (by omega)]
    rfl
  | succ n ih =>
    rw [Nat.fold_succ, ih]
    funext k
    by_cases hk : k = base + n
    · subst hk
      rw [Function.update_self, if_pos (by omega)]
    · have hrange : (base ≤ k ∧ k < base + n) ↔ base ≤ k ∧ k < base + (n + 1) := by omega
      rw [Function.update_of_ne hk]
      simp only [hrange]

theorem rtHwLcdInit_memory (memory : Nat → UInt16) (framebuffer : Nat → UInt8) (i : Nat) :
    (rtHwLcdInit memory framebuffer).memory i = if i < fbBackgroundPixels then 0 else memory i := by
  have hfill : (rtHwLcdInit memory framebuffer).memory = Nat.fold lcdBufSize
      (fun i _ memory => Function.update memory (0 + i) 0) memory := rfl
  rw [hfill, fill_eq, fbBackgroundPixels_eq, lcdBufSize_eq]
  simp only [Nat.zero_le, true_and, Nat.zero_add]

/-- The driver after its start. -/
structure Serving (lcd : Lcd) : Prop where
  single : lcd.singleBuffer = 0
  double : lcd.doubleBuffer = 345600
  working : lcd.workingBuffer = 0 ∨ lcd.workingBuffer = 345600
  rotation : lcd.screenRotation = .rotationZero
  shown : lcd.shownBuffer = lcd.workingBuffer

theorem rtHwLcdInit_serving (memory : Nat → UInt16) (framebuffer : Nat → UInt8) :
    Serving (rtHwLcdInit memory framebuffer) :=
  ⟨rfl, rfl, Or.inl rfl, rfl, rfl⟩

/-- Updates stay on the screen. -/
def Legal : Action → Prop
  | .rectUpdate info => info.Fits
  | _ => True

def turns : Action → Bool
  | .rectUpdate _ => true
  | _ => false

/-- Does the driver work in the second buffer? -/
def Lcd.side (lcd : Lcd) : Bool := decide (lcd.workingBuffer ≠ 0)

def bufferOf (side : Bool) : Nat := if side then 345600 else 0

theorem Serving.workingBuffer_eq {lcd : Lcd} (h : Serving lcd) :
    lcd.workingBuffer = bufferOf lcd.side := by
  unfold bufferOf Lcd.side
  rcases h.working with h0 | h1
  · simp [h0]
  · simp [h1]

/-- The pixels of a buffer, and the line and the pixel that `lcd_draw_pixel` lets pass. -/
def Region (side : Bool) (i : Nat) : Prop := bufferOf side ≤ i ∧ i ≤ bufferOf side + 173280

theorem RectInfo.sourcePixel_none {info : RectInfo} (h : info.Fits) {i : Nat}
    (hi : 172800 ≤ i) : info.sourcePixel i = none := by
  unfold RectInfo.Fits at h
  unfold RectInfo.sourcePixel
  rw [if_neg]
  omega

section Steps

variable (engine : Engine) {lcd : Lcd}

theorem Serving.drawPixel (h : Serving lcd) (x y : Nat) (color : UInt16) :
    Serving (lcd.drawPixel x y color) := by
  unfold Lcd.drawPixel
  split
  · exact ⟨h.single, h.double, h.working, h.rotation, h.shown⟩
  · exact h

theorem Lcd.drawPixel_workingBuffer (lcd : Lcd) (x y : Nat) (color : UInt16) :
    (lcd.drawPixel x y color).workingBuffer = lcd.workingBuffer := by
  unfold Lcd.drawPixel
  split <;> rfl

theorem Serving.rectUpdate_workingBuffer (h : Serving lcd) (info : RectInfo) :
    (lcd.rectUpdate engine info).workingBuffer = bufferOf (!lcd.side) := by
  show (if lcd.workingBuffer = lcd.singleBuffer then lcd.doubleBuffer else lcd.singleBuffer) = _
  rw [h.single, h.double]
  unfold bufferOf Lcd.side
  rcases h.working with h0 | h1
  · simp [h0]
  · simp [h1]

theorem Serving.rectUpdate (h : Serving lcd) (info : RectInfo) :
    Serving (lcd.rectUpdate engine info) := by
  refine ⟨h.single, h.double, ?_, h.rotation, rfl⟩
  rw [h.rectUpdate_workingBuffer]
  cases lcd.side with
  | false => exact Or.inr rfl
  | true => exact Or.inl rfl

theorem Serving.step (h : Serving lcd) (a : Action) : Serving (step engine lcd a) := by
  cases a with
  | drawPixel x y color => exact h.drawPixel x y color
  | store i value => exact ⟨h.single, h.double, h.working, h.rotation, h.shown⟩
  | rectUpdate info => exact h.rectUpdate engine info

theorem Serving.side_step (h : Serving lcd) (a : Action) :
    (FrameBuffers.step engine lcd a).side = (lcd.side ^^ turns a) := by
  cases a with
  | drawPixel x y color =>
    show decide ((lcd.drawPixel x y color).workingBuffer ≠ 0) = _
    rw [Lcd.drawPixel_workingBuffer]
    exact (Bool.xor_false _).symm
  | store i value => exact (Bool.xor_false _).symm
  | rectUpdate info =>
    show decide ((lcd.rectUpdate engine info).workingBuffer ≠ 0) = _
    rw [h.rectUpdate_workingBuffer]
    cases lcd.side with
    | false => rfl
    | true => rfl

/-- The source is read as a picture as wide as the rectangle. -/
theorem g2dDisplayWriteArea_eq (source target : Nat → UInt16) {info : RectInfo} (h : info.Fits)
    (i : Nat) :
    g2dDisplayWriteArea engine source target info.width.toNat info.height.toNat info.x.toNat
        info.y.toNat i =
      ((info.sourcePixel i).map source).getD (target i) := by
  obtain ⟨hright, hbottom⟩ := h
  have hcopy := engine.copies ⟨target, 480, 480, 360⟩
    ⟨source, info.width.toNat, info.width.toNat, info.height.toNat⟩ info.width.toNat
    info.height.toNat info.x.toNat info.y.toNat (Nat.le_refl _) (Nat.le_refl _) (Nat.le_refl _)
    hright (Nat.le_refl _) hbottom (show 480 ≤ 1023 by decide) (show 360 ≤ 1023 by decide) i
  refine hcopy.trans ?_
  unfold RectInfo.sourcePixel
  dsimp only
  split
  case isTrue => rfl
  case isFalse => rfl

theorem rectUpdate_memory (lcd : Lcd) {info : RectInfo} (h : info.Fits) (i : Nat) :
    let workingBuffer := (lcd.rectUpdate engine info).workingBuffer
    (lcd.rectUpdate engine info).memory i = if i < workingBuffer then lcd.memory i
      else ((info.sourcePixel (i - workingBuffer)).map lcd.source).getD (lcd.memory i) := by
  intro workingBuffer
  by_cases hbefore : i < workingBuffer
  · rw [if_pos hbefore]
    exact if_pos hbefore
  · have hplace : workingBuffer + (i - workingBuffer) = i := by omega
    have hcopy := g2dDisplayWriteArea_eq engine lcd.source
      (fun k => lcd.memory (workingBuffer + k)) h (i - workingBuffer)
    simp only [hplace] at hcopy
    rw [if_neg hbefore, ← hcopy]
    exact if_neg hbefore

theorem Serving.confined (h : Serving lcd) {a : Action} (ha : Legal a) {i : Nat}
    (hout : ¬ Region (FrameBuffers.step engine lcd a).side i) :
    (FrameBuffers.step engine lcd a).memory i = lcd.memory i := by
  have hworking := (h.step engine a).workingBuffer_eq
  unfold Region at hout
  rw [← hworking] at hout
  cases a with
  | drawPixel x y color =>
    change ¬ ((lcd.drawPixel x y color).workingBuffer ≤ i ∧
      i ≤ (lcd.drawPixel x y color).workingBuffer + 173280) at hout
    rw [Lcd.drawPixel_workingBuffer] at hout
    show (lcd.drawPixel x y color).memory i = _
    unfold Lcd.drawPixel
    split
    case isTrue hguard =>
      unfold lcdWidth lcdHeight at hguard
      apply Function.update_of_ne
      rw [h.rotation]
      unfold pixelIndex lcdWidth
      simp only
      omega
    case isFalse => rfl
  | store j value => rfl
  | rectUpdate info =>
    show (lcd.rectUpdate engine info).memory i = _
    rw [rectUpdate_memory engine lcd ha]
    split
    case isTrue => rfl
    case isFalse hbefore =>
      have hbehind : 172800 ≤ i - (lcd.rectUpdate engine info).workingBuffer := by
        change ¬ ((lcd.rectUpdate engine info).workingBuffer ≤ i ∧
          i ≤ (lcd.rectUpdate engine info).workingBuffer + 173280) at hout
        omega
      rw [RectInfo.sourcePixel_none ha hbehind]
      rfl

end Steps

/-- The driver buffers twice. -/
def driver (engine : Engine) : Buffered Lcd Action Nat UInt16 where
  step := step engine
  memory := Lcd.memory
  side := Lcd.side
  turns := turns
  region := Region
  Good := Serving
  Legal := Legal
  good_step _ a h _ := h.step engine a
  side_step _ a h _ := h.side_step engine a
  confined _ _ h ha _ hout := h.confined engine ha hout

theorem legal_of_fits (engine : Engine) {actions : List Action}
    (h : ∀ info, .rectUpdate info ∈ actions → info.Fits) :
    ∀ a ∈ actions, (driver engine).Legal a := by
  intro a ha
  cases a with
  | drawPixel x y color => trivial
  | store i value => trivial
  | rectUpdate info => exact h info ha

theorem turns_of_no_update (engine : Engine) {actions : List Action}
    (h : ∀ info, .rectUpdate info ∉ actions) : ∀ a ∈ actions, (driver engine).turns a = false := by
  intro a ha
  cases a with
  | drawPixel x y color => rfl
  | store i value => rfl
  | rectUpdate info => exact absurd ha (h info)

theorem not_region_of_gap {i : Nat}
    (hi : 173280 < i ∧ i < fbBackgroundPixels ∨ fbBackgroundPixels + 173280 < i) (side : Bool) :
    ¬ Region side i := by
  rw [fbBackgroundPixels_eq] at hi
  unfold Region bufferOf
  cases side with
  | false => simp; omega
  | true => simp; omega

theorem not_region_of_idle {n i : Nat}
    (hi : if Even n then fbBackgroundPixels ≤ i else i < fbBackgroundPixels) :
    ¬ Region (decide (¬ Even n)) i := by
  rw [fbBackgroundPixels_eq] at hi
  unfold Region bufferOf
  by_cases heven : Even n
  · simp [heven] at hi ⊢
    omega
  · simp [heven] at hi ⊢
    omega

/-- The second of the two buffers begins where `fb_background` ends. After an odd number of
updates the driver shows and draws that memory and leaves `fb_background` alone; the second
picture of `fb_background` stays black, but for the first line and pixel behind the first
picture. -/
theorem second_buffer_behind_background (engine : Engine) (memory : Nat → UInt16)
    (framebuffer : Nat → UInt8) (actions : List Action)
    (hlegal : ∀ info, .rectUpdate info ∈ actions → info.Fits) :
    let before := rtHwLcdInit memory framebuffer
    let after := (driver engine).run before actions
    let updates := (driver engine).turnCount actions
    (after.workingBuffer = if Even updates then 0 else fbBackgroundPixels) ∧
      after.shownBuffer = after.workingBuffer ∧
      (∀ i, 173280 < i → i < fbBackgroundPixels → after.memory i = 0) ∧
      (∀ i, fbBackgroundPixels + 173280 < i → after.memory i = memory i) ∧
      ∀ rest, (∀ info, .rectUpdate info ∉ rest) → ∀ i,
        (if Even updates then fbBackgroundPixels ≤ i else i < fbBackgroundPixels) →
        ((driver engine).run after rest).memory i = after.memory i := by
  have hall := legal_of_fits engine hlegal
  have hstart := rtHwLcdInit_serving memory framebuffer
  have hafter := (run_invariant (driver engine) (P := Serving)
    (fun _ a h _ _ => h.step engine a) hstart hstart hall).2
  have hside : ((driver engine).run (rtHwLcdInit memory framebuffer) actions).side =
      decide (¬ Even ((driver engine).turnCount actions)) :=
    (run_side (driver engine) hstart hall).trans (Bool.false_xor _)
  have houtside : ∀ i, (∀ side, ¬ Region side i) →
      ((driver engine).run (rtHwLcdInit memory framebuffer) actions).memory i =
        (rtHwLcdInit memory framebuffer).memory i :=
    fun i hi => run_outside (driver engine) hstart hall hi
  have hworking := hafter.workingBuffer_eq
  rw [hside] at hworking
  refine ⟨?_, hafter.shown, ?_, ?_, ?_⟩
  · rw [hworking, fbBackgroundPixels_eq]
    by_cases heven : Even ((driver engine).turnCount actions)
    · simp [heven, bufferOf]
    · simp [heven, bufferOf]
  · intro i hlow hhigh
    rw [houtside i (not_region_of_gap (Or.inl ⟨hlow, hhigh⟩)), rtHwLcdInit_memory, if_pos hhigh]
  · intro i hi
    rw [houtside i (not_region_of_gap (Or.inr hi)), rtHwLcdInit_memory, if_neg (by omega)]
  · intro rest hrest i hi
    refine run_idle (driver engine) hafter ?_ (turns_of_no_update engine hrest) ?_
    · exact legal_of_fits engine fun info hinfo => absurd hinfo (hrest info)
    · show ¬ Region (Lcd.side _) i
      rw [hside]
      exact not_region_of_idle hi

/-- The whole part of a number with four binary places. -/
def wholePart (p : Int16) : Nat := (p.toInt / 16).toNat

theorem wholePart_fixedPoint {n : Nat} (hn : n ≤ 1023) : wholePart (fixedPoint n) = n := by
  have hshift : n <<< 4 = n * 16 := Nat.shiftLeft_eq n 4
  have hfits : (fixedPoint n).toInt = (n * 16 : Nat) := by
    rw [fixedPoint, hshift]
    exact Int16.toInt_ofNat_of_lt (by omega)
  rw [wholePart, hfits]
  omega

/-- An engine that copies pixel by pixel. -/
def plainEngine : Engine where
  blitcopy target _ source args i :=
    let column := i % target.pitch - wholePart args.dstX
    let row := i / target.pitch - wholePart args.dstY
    if wholePart args.dstX ≤ i % target.pitch ∧ wholePart args.dstY ≤ i / target.pitch ∧
      column < wholePart args.dstWidth ∧ row < wholePart args.dstHeight then
      source.pixels (row * source.pitch + column)
    else target.pixels i
  copies target source width height x y _ _ _ hright _ hbottom hwidth hheight i := by
    dsimp only
    rw [wholePart_fixedPoint (show width ≤ 1023 by omega),
      wholePart_fixedPoint (show height ≤ 1023 by omega),
      wholePart_fixedPoint (show x ≤ 1023 by omega), wholePart_fixedPoint (show y ≤ 1023 by omega)]

theorem second_buffer_behind_background_two_updates :
    let actions := [.rectUpdate ⟨0, 0, 480, 360⟩, .drawPixel 80 60 0xFFFF,
      .rectUpdate ⟨0, 0, 480, 360⟩]
    let after := (driver plainEngine).run (rtHwLcdInit (fun _ => 0) fun _ => 0) actions
    after.workingBuffer = 0 ∧ after.shownBuffer = 0 := by
  intro actions after
  have hlegal : ∀ info, .rectUpdate info ∈ actions → info.Fits := by
    intro info hmem
    simp only [actions, List.mem_cons, Action.rectUpdate.injEq, reduceCtorEq, List.not_mem_nil,
      or_false, false_or, or_self] at hmem
    rw [hmem]
    unfold RectInfo.Fits
    decide
  obtain ⟨hworking, hshown, -⟩ :=
    second_buffer_behind_background plainEngine (fun _ => 0) (fun _ => 0) actions hlegal
  have heven : Even ((driver plainEngine).turnCount actions) := ⟨1, rfl⟩
  rw [if_pos heven] at hworking
  exact ⟨hworking, hshown.trans hworking⟩

def Lcd.shownPixel (lcd : Lcd) (x y : Nat) : UInt16 := lcd.memory (lcd.shownBuffer + (y * 480 + x))

section Update

variable (engine : Engine) {info : RectInfo}

theorem RectInfo.sourcePixel_eq {i j : Nat} (h : info.Fits) (hi : i < info.width.toNat)
    (hj : j < info.height.toNat) :
    info.sourcePixel ((info.y.toNat + j) * 480 + (info.x.toNat + i)) =
      some (j * info.width.toNat + i) := by
  unfold RectInfo.Fits at h
  have hcolumn : ((info.y.toNat + j) * 480 + (info.x.toNat + i)) % 480 = info.x.toNat + i := by
    omega
  have hrow : ((info.y.toNat + j) * 480 + (info.x.toNat + i)) / 480 = info.y.toNat + j := by
    omega
  unfold RectInfo.sourcePixel
  simp only
  rw [hcolumn, hrow, if_pos (by omega), Nat.add_sub_cancel_left, Nat.add_sub_cancel_left]

theorem rectUpdate_shownPixel (lcd : Lcd) (h : info.Fits) {i j : Nat} (hi : i < info.width.toNat)
    (hj : j < info.height.toNat) :
    (lcd.rectUpdate engine info).shownPixel (info.x.toNat + i) (info.y.toNat + j) =
      lcd.source (j * info.width.toNat + i) := by
  show (lcd.rectUpdate engine info).memory ((lcd.rectUpdate engine info).workingBuffer + _) = _
  rw [rectUpdate_memory engine lcd h, if_neg (by omega), Nat.add_sub_cancel_left,
    RectInfo.sourcePixel_eq h hi hj]
  rfl

/-- A picture that is one in a single pixel. -/
def spot (p : Nat) (i : Nat) : UInt8 := if i = 2 * p then 1 else 0

theorem source_spot (lcd : Lcd) (p i : Nat) :
    { lcd with framebuffer := spot p : Lcd }.source i = if i = p then 1 else 0 := by
  have hhigh : 2 * i + 1 ≠ 2 * p := by omega
  have hlow : 2 * i = 2 * p ↔ i = p := by omega
  simp only [Lcd.source, spot, if_neg hhigh, hlow]
  split <;> rfl

end Update

/-- An update shows the framebuffer's pixels of its rectangle, whatever the framebuffer holds,
exactly when the rectangle starts in the corner and is as wide as the screen or one line
high. -/
theorem update_shows_rectangle_iff (engine : Engine) (info : RectInfo) (hfits : info.Fits)
    (hwidth : 0 < info.width.toNat) (hheight : 0 < info.height.toNat) :
    (∀ (lcd : Lcd) x y, info.x.toNat ≤ x → x < info.x.toNat + info.width.toNat →
      info.y.toNat ≤ y → y < info.y.toNat + info.height.toNat →
      (lcd.rectUpdate engine info).shownPixel x y = lcd.source (y * 480 + x)) ↔
    info.x = 0 ∧ info.y = 0 ∧ (info.width = 480 ∨ info.height = 1) := by
  constructor
  · intro h
    -- the pixel in column `i` and line `j` of the rectangle is where the update takes it from
    have hplace : ∀ i j, i < info.width.toNat → j < info.height.toNat →
        j * info.width.toNat + i = (info.y.toNat + j) * 480 + (info.x.toNat + i) := by
      intro i j hi hj
      by_contra hne
      let lcd : Lcd := { rtHwLcdInit (fun _ => 0) (fun _ => 0) with
        framebuffer := spot (j * info.width.toNat + i) }
      have hshown := h lcd (info.x.toNat + i) (info.y.toNat + j) (by omega) (by omega) (by omega)
        (by omega)
      rw [rectUpdate_shownPixel engine lcd hfits hi hj, source_spot, source_spot, if_pos rfl,
        if_neg (Ne.symm hne)] at hshown
      cases hshown
    have hcorner := hplace 0 0 hwidth hheight
    refine ⟨UInt16.toNat_inj.mp ?_, UInt16.toNat_inj.mp ?_, ?_⟩
    · show info.x.toNat = 0
      omega
    · show info.y.toNat = 0
      omega
    · by_cases hone : info.height.toNat = 1
      · exact Or.inr (UInt16.toNat_inj.mp hone)
      · have hline := hplace 0 1 hwidth (by omega)
        left
        apply UInt16.toNat_inj.mp
        show info.width.toNat = 480
        omega
  · rintro ⟨hx, hy, hshape⟩ lcd x y - hright - hbottom
    have hx0 : info.x.toNat = 0 := congrArg UInt16.toNat hx
    have hy0 : info.y.toNat = 0 := congrArg UInt16.toNat hy
    rw [hx0, Nat.zero_add] at hright
    rw [hy0, Nat.zero_add] at hbottom
    have hshown := rectUpdate_shownPixel engine lcd hfits hright hbottom
    rw [hx0, hy0, Nat.zero_add, Nat.zero_add] at hshown
    rw [hshown]
    obtain hwide | hone := hshape
    · have hwide : info.width.toNat = 480 := congrArg UInt16.toNat hwide
      rw [hwide]
    · have hone : info.height.toNat = 1 := congrArg UInt16.toNat hone
      obtain rfl : y = 0 := by omega
      rw [Nat.zero_mul, Nat.zero_mul]

/-- The whole screen is shown right, a square in its corner is not. -/
theorem update_shows_rectangle_iff_screen :
    (∀ (lcd : Lcd) x y, 0 ≤ x → x < 0 + 480 → 0 ≤ y → y < 0 + 360 →
      (lcd.rectUpdate plainEngine ⟨0, 0, 480, 360⟩).shownPixel x y = lcd.source (y * 480 + x)) ∧
    ¬ ∀ (lcd : Lcd) x y, 0 ≤ x → x < 0 + 16 → 0 ≤ y → y < 0 + 16 →
      (lcd.rectUpdate plainEngine ⟨0, 0, 16, 16⟩).shownPixel x y = lcd.source (y * 480 + x) := by
  have hscreen := update_shows_rectangle_iff plainEngine ⟨0, 0, 480, 360⟩ ⟨by decide, by decide⟩
    (by decide) (by decide)
  have hsquare := update_shows_rectangle_iff plainEngine ⟨0, 0, 16, 16⟩ ⟨by decide, by decide⟩
    (by decide) (by decide)
  exact ⟨hscreen.mpr (by decide), fun h => absurd (hsquare.mp h) (by decide)⟩

def InPicture (lcd : Lcd) (i : Nat) : Prop :=
  lcd.workingBuffer ≤ i ∧ i < lcd.workingBuffer + 172800

theorem pixelIndex_eq (rotation : BspRotation) (x y : Nat) :
    pixelIndex rotation x y = if rotation = .rotation180 then (360 - y) * 480 + (480 - x)
      else y * 480 + x := by
  cases rotation <;> rfl

theorem drawPixel_changes {lcd : Lcd} {x y i : Nat} {color : UInt16}
    (h : (lcd.drawPixel x y color).memory i ≠ lcd.memory i) :
    (x ≤ 480 ∧ y ≤ 360) ∧ i = lcd.workingBuffer + pixelIndex lcd.screenRotation x y := by
  unfold Lcd.drawPixel at h
  split at h
  case isTrue hguard =>
    refine ⟨hguard, ?_⟩
    by_contra hne
    exact h (Function.update_of_ne hne _ _)
  case isFalse => exact absurd rfl h

/-- Which pixels that the guard lets pass are stored outside the picture: without rotation line
360, and the pixel in column 480 of the line before it; rotated, line 0 and the pixel in column
0 of line 1. -/
theorem drawPixel_overruns_iff (lcd : Lcd) (x y : Nat) :
    (∃ color i, (lcd.drawPixel x y color).memory i ≠ lcd.memory i ∧ ¬ InPicture lcd i) ↔
      x ≤ 480 ∧ y ≤ 360 ∧
        if lcd.screenRotation = .rotation180 then y = 0 ∨ y = 1 ∧ x = 0
        else y = 360 ∨ y = 359 ∧ x = 480 := by
  have hplace := pixelIndex_eq lcd.screenRotation x y
  constructor
  · intro h
    obtain ⟨color, i, hchanged, hout⟩ := h
    obtain ⟨⟨hx, hy⟩, rfl⟩ := drawPixel_changes hchanged
    refine ⟨hx, hy, ?_⟩
    unfold InPicture at hout
    rw [hplace] at hout
    split
    case isTrue hrotated =>
      rw [if_pos hrotated] at hout
      omega
    case isFalse hplain =>
      rw [if_neg hplain] at hout
      omega
  · intro h
    obtain ⟨hx, hy, hout⟩ := h
    refine ⟨lcd.memory (lcd.workingBuffer + pixelIndex lcd.screenRotation x y) + 1,
      lcd.workingBuffer + pixelIndex lcd.screenRotation x y, ?_, ?_⟩
    · unfold Lcd.drawPixel
      rw [if_pos ⟨hx, hy⟩]
      simp
    · unfold InPicture
      rw [hplace]
      split at hout
      case isTrue hrotated =>
        rw [if_pos hrotated]
        omega
      case isFalse hplain =>
        rw [if_neg hplain]
        omega

end Mlx90640.Display.FrameBuffers
