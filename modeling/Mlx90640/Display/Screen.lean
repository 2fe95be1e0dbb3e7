import Mlx90640.Display.Extremes
import Mlx90640.Display.Colour
import Mlx90640.Display.Readout

/-!
# The screen

One pass of the loop of `thread1_entry` draws the picture, a cross on the hottest and one on
the coldest cell, and a label and a readout for each of the two temperatures. The frame buffer
has 480 pixels in each of its 360 lines; the guard of `lcd_draw_pixel` lets one more column and
one more line pass.
-/
namespace Mlx90640.Display.Screen

open Mlx90640.Calibration
open Mlx90640.Calibration.Extract
open Mlx90640.Display.Interpolation
open Mlx90640.Display.Extremes
open Mlx90640.Display.Colour
open Mlx90640.Display.Glyphs
open Mlx90640.Display.Font
open Mlx90640.Display.Numbers
open Mlx90640.Display.Readout
open Mlx90640.Lib.Journal

/-- `lcd_draw_pixel`; the screen is not rotated. -/
def lcdDrawPixel (buffer : Nat → UInt16) (x y : Nat) (color : UInt16) : Nat → UInt16 :=
  if x ≤ 480 ∧ y ≤ 360 then Function.update buffer (y * 480 + x) color else buffer

/-- The frame buffer after some calls. -/
def paint (buffer : Nat → UInt16) (calls : List Call) : Nat → UInt16 :=
  calls.foldl (fun buffer call => match call with
    | .pixel x y color => lcdDrawPixel buffer x y color
    | _ => buffer) buffer

/-- A label and where it and its readout stand. -/
structure Reading where
  label : List UInt8
  labelY : UInt16
  y : UInt16

/-- "MAX_temperature:" -/
def maxReading : Reading where
  label := [0x4D, 0x41, 0x58, 0x5F, 0x74, 0x65, 0x6D, 0x70, 0x65, 0x72, 0x61, 0x74, 0x75, 0x72, 0x65,
    0x3A]
  labelY := 315
  y := 320

/-- "MIN_temperature:" -/
def minReading : Reading where
  label := [0x4D, 0x49, 0x4E, 0x5F, 0x74, 0x65, 0x6D, 0x70, 0x65, 0x72, 0x61, 0x74, 0x75, 0x72, 0x65,
    0x3A]
  labelY := 0
  y := 5

section Code

variable {F : Type} [Add F] [Sub F] [Mul F] [Div F] [CFloat F] [LinearOrder F]

/-- The loops over `dest_matrix`. -/
def heatMap (cos sin : F → F) (frame : Frame F) : List Call :=
  (List.finRange 240).flatMap fun row => (List.finRange 320).map fun col =>
    .pixel (col.val + 80) (row.val + 60)
      (temp2RGB cos sin frame.hottest.temperature (frame.destMatrix row col))

/-- The cross on an extreme cell that is not too close to the border. -/
def cross (found : Found F) : List Call :=
  let row := found.destRow.val
  let col := found.destCol.val
  if row > 5 ∧ row < 235 ∧ col > 5 ∧ col < 315 then
    (List.range 10).map (fun k => .pixel (col + 80) (row - 5 + k + 60) 0xFFFF) ++
      (List.range 10).map fun k => .pixel (col - 5 + k + 80) (row + 60) 0xFFFF
  else []

/-- `LCD_ShowString`, `LCD_ShowFloatNum1` and `LCD_ShowIntNum` for one temperature. -/
def showReading (reading : Reading) (temperature : F) : Option (List Call) := do
  let label := showString fonts reading.labelY BLACK BLACK 32 1 30 reading.label
  let readout ← showTemperature fonts reading.y temperature
  return label ++ readout

/-- Both labels and readouts. -/
def showReadings (frame : Frame F) : Option (List Call) := do
  let hottest ← showReading maxReading frame.hottest.temperature
  let coldest ← showReading minReading frame.coldest.temperature
  return hottest ++ coldest

/-- The drawing part of the loop of `thread1_entry`. -/
def drawFrame (cos sin : F → F) (frame : Frame F) : Option (List Call) := do
  let readings ← showReadings frame
  return heatMap cos sin frame ++ cross frame.hottest ++ cross frame.coldest ++ readings

/-- Frame after frame. -/
def showFrames (cos sin : F → F) : (Nat → UInt16) → List (Frame F) → Option (Nat → UInt16)
  | buffer, [] => some buffer
  | buffer, frame :: frames => do
    let calls ← drawFrame cos sin frame
    showFrames cos sin (paint buffer calls) frames

end Code

/-- Nothing is drawn outside `P`. -/
def Confined (P : Nat → Nat → Prop) (calls : List Call) : Prop :=
  ∀ x y color, .pixel x y color ∈ calls → P x y

/-- All lookups are inside the tables: one of the 95 glyphs, and one of its bytes. -/
def InTables (calls : List Call) : Prop :=
  ∀ s n i, .lookup s n i ∈ calls →
    IsSize s ∧ n.toNat < 95 ∧ i < rowBytes (s / 2) * s.toNat

section Rules

variable {P Q : Nat → Nat → Prop} {calls rest : List Call}

theorem Confined.append (h : Confined P calls) (h' : Confined P rest) : Confined P (calls ++ rest) := by
  intro x y color hmem
  rcases List.mem_append.mp hmem with hcalls | hrest
  · exact h x y color hcalls
  · exact h' x y color hrest

theorem Confined.mono (h : Confined P calls) (hPQ : ∀ x y, P x y → Q x y) : Confined Q calls :=
  fun x y color hmem => hPQ x y (h x y color hmem)

theorem InTables.append (h : InTables calls) (h' : InTables rest) : InTables (calls ++ rest) := by
  intro s n i hmem
  rcases List.mem_append.mp hmem with hcalls | hrest
  · exact h s n i hcalls
  · exact h' s n i hrest

theorem InTables.flatMap {α : Type} {l : List α} {f : α → List Call} (h : ∀ a ∈ l, InTables (f a)) :
    InTables (l.flatMap f) := by
  intro s n i hmem
  obtain ⟨a, ha, hcall⟩ := List.mem_flatMap.mp hmem
  exact h a ha s n i hcall

end Rules

theorem showChar_inTables (fonts : Fonts) {sizey : UInt8} (hsize : IsSize sizey) {num : UInt8}
    (hnum : (num - 0x20).toNat < 95) {x0 y0 : UInt16} (fc bc : UInt16)
    (hx0 : x0.toNat + (sizey / 2).toNat ≤ 65535) (hy0 : y0.toNat + sizey.toNat ≤ 65535) :
    InTables (showChar fonts x0 y0 num fc bc sizey 1) := by
  intro s n i hmem
  have hdrawn := showChar_drawn fonts hsize (by decide : (1 : UInt8) ≠ 0) num fc bc hx0 hy0
  obtain ⟨rfl, rfl, hi⟩ := (hdrawn.lookup s n i).mp hmem
  exact ⟨hsize, hnum, hi⟩

theorem advance_toNat {x : UInt16} (hx : x.toNat + 16 ≤ 65535) :
    (x + (32 / 2 : UInt8).toUInt16).toNat = x.toNat + 16 := by
  rw [UInt16.toNat_add]
  change (x.toNat + 16) % 65536 = _
  omega

/-- A label stays in the cells of its characters. -/
theorem showString_confined {y : UInt16} (hy : y.toNat + 32 ≤ 65535) (p : List UInt8) {x : UInt16}
    (hx : x.toNat + 16 * p.length ≤ 65535) :
    Confined (fun px py => x.toNat ≤ px ∧ px < x.toNat + 16 * p.length ∧ y.toNat ≤ py ∧
      py < y.toNat + 32) (showString fonts y BLACK BLACK 32 1 x p) := by
  induction p generalizing x with
  | nil =>
    intro px py color hmem
    cases hmem
  | cons num p ih =>
    rw [List.length_cons] at hx
    have hnext := advance_toNat (show x.toNat + 16 ≤ 65535 by omega)
    have hrest := ih (x := x + (32 / 2 : UInt8).toUInt16) (by omega)
    rw [hnext] at hrest
    have hdrawn := showChar_drawn fonts isSize_32 (by decide : (1 : UInt8) ≠ 0) num BLACK BLACK
      (show x.toNat + (32 / 2 : UInt8).toNat ≤ 65535 by change x.toNat + 16 ≤ 65535; omega) hy
    rw [showString, List.length_cons]
    apply Confined.append
    · intro px py color hmem
      obtain ⟨c, hc, r, hr, -, hpx, hpy, -⟩ := (hdrawn.pixel px py color).mp hmem
      have hc : c < 16 := hc
      have hr : r < 32 := hr
      omega
    · refine hrest.mono ?_
      intro px py h
      omega

theorem showString_inTables {y : UInt16} (hy : y.toNat + 32 ≤ 65535) (p : List UInt8)
    (hp : ∀ num ∈ p, (num - 0x20).toNat < 95) {x : UInt16} (hx : x.toNat + 16 * p.length ≤ 65535) :
    InTables (showString fonts y BLACK BLACK 32 1 x p) := by
  induction p generalizing x with
  | nil =>
    intro s n i hmem
    cases hmem
  | cons num p ih =>
    rw [List.length_cons] at hx
    have hnext := advance_toNat (show x.toNat + 16 ≤ 65535 by omega)
    rw [showString]
    apply InTables.append
    · exact showChar_inTables fonts isSize_32 (hp num List.mem_cons_self) BLACK BLACK
        (by change x.toNat + 16 ≤ 65535; omega) hy
    · exact ih (fun n hn => hp n (List.mem_cons_of_mem _ hn)) (by omega)

/-- The characters of a number. -/
def numberChars : List UInt8 :=
  [0x20, 0x2E, 0x30, 0x31, 0x32, 0x33, 0x34, 0x35, 0x36, 0x37, 0x38, 0x39]

theorem digitChar_mem (n place : Nat) : digitChar n place ∈ numberChars := by
  have hall : ∀ d < 10, UInt8.ofNat d + 48 ∈ numberChars := by decide
  exact hall _ (Nat.mod_lt _ (by decide))

theorem floatChar_mem (n len k : Nat) : floatChar n len k ∈ numberChars := by
  rw [floatChar]
  split_ifs
  · exact digitChar_mem _ _
  · decide
  · exact digitChar_mem _ _

theorem intChar_mem (n len k : Nat) : intChar n len k ∈ numberChars := by
  rw [intChar]
  split_ifs
  · decide
  · exact digitChar_mem _ _

theorem row_pos {num : UInt8} (h : num ∈ numberChars) {c r : Nat} (hc : c < 12)
    (hbit : fonts.bit 24 (num - 0x20) c r) : 1 ≤ r := by
  rcases Nat.eq_zero_or_pos r with rfl | hpos
  · rw [top_row_empty num h c hc] at hbit
    cases hbit
  · exact hpos

/-- The box of a readout. -/
def InBox (y : UInt16) (px py : Nat) : Prop :=
  285 ≤ px ∧ px ≤ 369 ∧ y.toNat + 1 ≤ py ∧ py ≤ y.toNat + 25

theorem clearBox_confined (y : UInt16) : Confined (InBox y) (clearBox 325 y) := by
  intro px py color hmem
  have hsmall : px < 2 ^ 31 := by
    simp only [clearBox, List.mem_flatMap, List.mem_map, List.mem_range, Call.pixel.injEq] at hmem
    obtain ⟨col, hcol, row, -, hpx, -, -⟩ := hmem
    have hexact := toUInt32_eq (n := ((325 : UInt16).toNat : Int) - 40 + col)
      (by change (0 : Int) ≤ 325 - 40 + col; omega) (by change (325 : Int) - 40 + col < 2 ^ 32; omega)
    have hcolumn : ((325 : UInt16).toNat : Int) = 325 := rfl
    omega
  obtain ⟨h1, h2, h3, h4, -⟩ := (mem_clearBox hsmall).mp hmem
  have hcolumn : (325 : UInt16).toNat = 325 := rfl
  rw [InBox]
  omega

theorem readoutCalls_confined {y : UInt16} (hy : y.toNat + 24 ≤ 65535) (hundredths whole : Nat) :
    Confined (InBox y) (readoutCalls y hundredths whole) := by
  refine Confined.append (Confined.append (clearBox_confined y) ?_) ?_
  · intro px py color hmem
    obtain ⟨k, hk, c, hc, r, hr, hbit, hpx, hpy, -⟩ := mem_decimals hy hmem
    have hpos := row_pos (floatChar_mem _ _ _) hc hbit
    simp only [List.mem_cons, List.not_mem_nil, or_false] at hk
    rw [InBox]
    omega
  · intro px py color hmem
    obtain ⟨k, hk, c, hc, r, hr, hbit, hpx, hpy, -⟩ := mem_whole hy hmem
    have hpos := row_pos (intChar_mem _ _ _) hc hbit
    simp only [List.mem_cons, List.not_mem_nil, or_false] at hk
    rw [InBox]
    omega

theorem text_inTables {x y : UInt16} (hy : y.toNat + 24 ≤ 65535) {char : Nat → UInt8}
    (hchar : ∀ k, char k ∈ numberChars) {ks : List Nat}
    (hfits : ∀ k ∈ ks, x.toNat + (k + 1) * 12 ≤ 65535) :
    InTables (text fonts x y BLACK BLACK 24 char ks) := by
  have hnumber : ∀ num ∈ numberChars, (num - 0x20).toNat < 95 := by
    simp [numberChars]
  apply InTables.flatMap
  intro k hk
  have hfit := hfits k hk
  have hcell : (cell x 24 k).toNat = x.toNat + k * 12 := cell_toNat hfit
  apply showChar_inTables fonts isSize_24 (hnumber _ (hchar k)) BLACK BLACK _ hy
  change (cell x 24 k).toNat + 12 ≤ 65535
  omega

theorem readoutCalls_inTables {y : UInt16} (hy : y.toNat + 24 ≤ 65535) (hundredths whole : Nat) :
    InTables (readoutCalls y hundredths whole) := by
  refine InTables.append (InTables.append ?_ ?_) ?_
  · intro s n i hmem
    simp [clearBox] at hmem
  · exact text_inTables hy (floatChar_mem _ _) (by decide)
  · exact text_inTables hy (intChar_mem _ _) (by decide)

/-- The cells of a label. -/
def InLabel (reading : Reading) (px py : Nat) : Prop :=
  30 ≤ px ∧ px < 286 ∧ reading.labelY.toNat ≤ py ∧ py < reading.labelY.toNat + 32

/-- The two readings of the display. -/
def IsReading (reading : Reading) : Prop := reading = maxReading ∨ reading = minReading

/-- The calls of a reading. -/
def readingCalls (reading : Reading) (hundredths whole : Nat) : List Call :=
  showString fonts reading.labelY BLACK BLACK 32 1 30 reading.label ++
    readoutCalls reading.y hundredths whole

section Reading

variable {reading : Reading} (h : IsReading reading) (hundredths whole : Nat)
include h

theorem IsReading.fits : reading.labelY.toNat + 32 ≤ 65535 ∧ reading.y.toNat + 25 < 360 ∧
    reading.label.length = 16 ∧ ∀ num ∈ reading.label, (num - 0x20).toNat < 95 := by
  obtain rfl | rfl := h <;> decide +kernel

theorem readingCalls_confined :
    Confined (fun px py => InBox reading.y px py ∨ InLabel reading px py)
      (readingCalls reading hundredths whole) := by
  obtain ⟨hlabelY, hy, hlength, -⟩ := h.fits
  have hlabel := showString_confined hlabelY reading.label (x := 30) (by rw [hlength]; decide)
  rw [hlength] at hlabel
  refine Confined.append (hlabel.mono fun px py hin => Or.inr ?_)
    ((readoutCalls_confined (by omega) hundredths whole).mono fun px py hin => Or.inl hin)
  have hcolumn : (30 : UInt16).toNat = 30 := rfl
  rw [InLabel]
  omega

theorem readingCalls_inTables : InTables (readingCalls reading hundredths whole) := by
  obtain ⟨hlabelY, hy, hlength, hprintable⟩ := h.fits
  exact InTables.append (showString_inTables hlabelY _ hprintable (by rw [hlength]; decide))
    (readoutCalls_inTables (by omega) hundredths whole)

end Reading

theorem showReading_eq {F : Type} [Mul F] [Div F] [CFloat F] (reading : Reading) (temperature : F) :
    showReading reading temperature =
      some (readingCalls reading (toUInt16 (temperature * ofInt 100)).toNat
        (toUInt16 (temperature * ofInt 100 / ofInt 100)).toNat) := by
  rw [showReading, showTemperature_eq]
  rfl

/-- The stores of some calls. -/
def writes (calls : List Call) : List (Nat × UInt16) :=
  calls.filterMap fun call => match call with
    | .pixel x y color => if x ≤ 480 ∧ y ≤ 360 then some (y * 480 + x, color) else none
    | _ => none

theorem paint_eq_replay (buffer : Nat → UInt16) (calls : List Call) :
    paint buffer calls = replay buffer (writes calls) := by
  induction calls generalizing buffer with
  | nil => rfl
  | cons call calls ih =>
    cases call with
    | character x y num => exact ih buffer
    | lookup s n i => exact ih buffer
    | pixel x y color =>
      change paint (lcdDrawPixel buffer x y color) calls = _
      rw [ih, lcdDrawPixel]
      by_cases hguard : x ≤ 480 ∧ y ≤ 360
      · simp [writes, hguard, replay]
      · simp [writes, hguard]

theorem paint_append (buffer : Nat → UInt16) (calls rest : List Call) :
    paint buffer (calls ++ rest) = paint (paint buffer calls) rest :=
  List.foldl_append

theorem paint_congr {calls : List Call} {x y : Nat} {color : UInt16} (hx : x ≤ 480) (hy : y ≤ 360)
    (hmem : .pixel x y color ∈ calls) (buffer buffer' : Nat → UInt16) :
    paint buffer calls (y * 480 + x) = paint buffer' calls (y * 480 + x) := by
  have hwrite : (y * 480 + x, color) ∈ writes calls :=
    List.mem_filterMap.mpr ⟨_, hmem, if_pos ⟨hx, hy⟩⟩
  obtain ⟨v, hv⟩ := exists_latest hwrite
  rw [paint_eq_replay, paint_eq_replay, replay_eq, replay_eq, hv]
  rfl

/-- A pixel outside the area of the calls keeps its colour. -/
theorem Confined.paint_eq {P : Nat → Nat → Prop} {calls : List Call} (h : Confined P calls)
    (hscreen : ∀ x y, P x y → x < 480) {x y : Nat} (hx : x < 480) (hout : ¬ P x y)
    (buffer : Nat → UInt16) : paint buffer calls (y * 480 + x) = buffer (y * 480 + x) := by
  have hnone : latest (writes calls) (y * 480 + x) = none := by
    apply latest_eq_none
    rintro ⟨i, color⟩ hmem rfl
    obtain ⟨call, hcall, heq⟩ := List.mem_filterMap.mp hmem
    cases call with
    | character x' y' num => cases heq
    | lookup s n k => cases heq
    | pixel x' y' color' =>
      simp only [Option.ite_none_right_eq_some, Option.some.injEq, Prod.mk.injEq] at heq
      have hP := h x' y' color' hcall
      have hx' := hscreen x' y' hP
      -- both columns are below the width, so the index has one reading
      obtain rfl : x' = x := by omega
      obtain rfl : y' = y := by omega
      exact hout hP
  rw [paint_eq_replay, replay_eq, hnone]
  rfl

theorem mem_readingCalls_box {reading : Reading} {x y : Nat} (hbox : InBox reading.y x y)
    (hundredths whole : Nat) : .pixel x y WHITE ∈ readingCalls reading hundredths whole := by
  have hcolumn : (325 : UInt16).toNat = 325 := rfl
  rw [InBox] at hbox
  have hmem : .pixel x y WHITE ∈ clearBox 325 reading.y :=
    (mem_clearBox (by omega)).mpr ⟨by omega, by omega, by omega, by omega, rfl⟩
  exact List.mem_append_right _ (List.mem_append_left _ (List.mem_append_left _ hmem))

/-- The window of the picture. -/
def InWindow (px py : Nat) : Prop := (80 ≤ px ∧ px < 400) ∧ 60 ≤ py ∧ py < 300

/-- The pixels of the frame buffer. -/
def OnScreen (px py : Nat) : Prop := px < 480 ∧ py < 360

theorem cross_confined {F : Type} (found : Found F) : Confined InWindow (cross found) := by
  intro px py color hmem
  rw [cross] at hmem
  split at hmem
  case isTrue hinside =>
    rcases List.mem_append.mp hmem with hvertical | hhorizontal
    · simp only [List.mem_map, List.mem_range, Call.pixel.injEq] at hvertical
      obtain ⟨k, hk, rfl, rfl, -⟩ := hvertical
      rw [InWindow]
      omega
    · simp only [List.mem_map, List.mem_range, Call.pixel.injEq] at hhorizontal
      obtain ⟨k, hk, rfl, rfl, -⟩ := hhorizontal
      rw [InWindow]
      omega
  case isFalse => cases hmem

theorem cross_inTables {F : Type} (found : Found F) : InTables (cross found) := by
  intro s n i hmem
  rw [cross] at hmem
  split at hmem
  · simp at hmem
  · cases hmem

section Readings

variable {F : Type} [Mul F] [Div F] [CFloat F]

/-- The calls of the reading of a temperature. -/
def readingOf (reading : Reading) (temperature : F) : List Call :=
  readingCalls reading (toUInt16 (temperature * ofInt 100)).toNat
    (toUInt16 (temperature * ofInt 100 / ofInt 100)).toNat

theorem showReadings_eq (frame : Frame F) :
    showReadings frame = some (readingOf maxReading frame.hottest.temperature ++
      readingOf minReading frame.coldest.temperature) := by
  rw [showReadings, showReading_eq, showReading_eq]
  rfl

theorem reading_beside_window {reading : Reading} (h : IsReading reading) (temperature : F) :
    Confined (fun x y => OnScreen x y ∧ ¬ InWindow x y) (readingOf reading temperature) := by
  refine (readingCalls_confined h _ _).mono ?_
  intro px py hin
  obtain rfl | rfl := h
  · have hy : maxReading.y.toNat = 320 := rfl
    have hlabel : maxReading.labelY.toNat = 315 := rfl
    simp only [InBox, InLabel, OnScreen, InWindow] at hin ⊢
    omega
  · have hy : minReading.y.toNat = 5 := rfl
    have hlabel : minReading.labelY.toNat = 0 := rfl
    simp only [InBox, InLabel, OnScreen, InWindow] at hin ⊢
    omega

theorem paint_box_congr {reading : Reading} (h : IsReading reading) (temperature : F)
    (buffer buffer' : Nat → UInt16) (x y : Nat) (hbox : InBox reading.y x y) :
    paint buffer (readingOf reading temperature) (y * 480 + x) =
      paint buffer' (readingOf reading temperature) (y * 480 + x) := by
  have hmem := mem_readingCalls_box hbox (toUInt16 (temperature * ofInt 100)).toNat
    (toUInt16 (temperature * ofInt 100 / ofInt 100)).toNat
  have hfits := h.fits.2.1
  rw [InBox] at hbox
  exact paint_congr (by omega) (by omega) hmem buffer buffer'

/-- In the box of the maximum the later reading of the minimum leaves the reading alone. -/
theorem paint_max_box {calls : List Call} {temperature : F} {x y : Nat}
    (hbox : InBox maxReading.y x y) (cold : F) (ground : Nat → UInt16) :
    paint ground (calls ++ (readingOf maxReading temperature ++ readingOf minReading cold))
      (y * 480 + x) = paint (paint ground calls) (readingOf maxReading temperature) (y * 480 + x) := by
  have hmax : maxReading.y.toNat = 320 := rfl
  have hmin : minReading.y.toNat = 5 := rfl
  have hlabel : minReading.labelY.toNat = 0 := rfl
  rw [paint_append, paint_append]
  refine (readingCalls_confined (Or.inr rfl) _ _).paint_eq ?_ ?_ ?_ _
  · intro px py hin
    simp only [InBox, InLabel] at hin
    omega
  · rw [InBox] at hbox
    omega
  · simp only [InBox, InLabel] at hbox ⊢
    omega

end Readings

section Pass

variable {F : Type} [Add F] [Sub F] [Mul F] [Div F] [CFloat F] [LinearOrder F] (cos sin : F → F)

theorem heatMap_confined (frame : Frame F) : Confined InWindow (heatMap cos sin frame) := by
  intro px py color hmem
  simp only [heatMap, List.mem_flatMap, List.mem_map, Call.pixel.injEq] at hmem
  obtain ⟨row, -, col, -, rfl, rfl, -⟩ := hmem
  rw [InWindow]
  omega

/-- The picture with its crosses, before the readings. -/
def picture (frame : Frame F) : List Call :=
  heatMap cos sin frame ++ cross frame.hottest ++ cross frame.coldest

theorem picture_confined (frame : Frame F) : Confined InWindow (picture cos sin frame) :=
  ((heatMap_confined cos sin frame).append (cross_confined frame.hottest)).append
    (cross_confined frame.coldest)

theorem heatMap_inTables (frame : Frame F) : InTables (heatMap cos sin frame) := by
  intro s n i hmem
  simp [heatMap] at hmem

theorem picture_inTables (frame : Frame F) : InTables (picture cos sin frame) :=
  ((heatMap_inTables cos sin frame).append (cross_inTables frame.hottest)).append
    (cross_inTables frame.coldest)

theorem drawFrame_eq (frame : Frame F) :
    drawFrame cos sin frame = some (picture cos sin frame ++
      (readingOf maxReading frame.hottest.temperature ++
        readingOf minReading frame.coldest.temperature)) := by
  rw [drawFrame, showReadings_eq]
  rfl

/-- The frames before the last one only prepare its ground. -/
theorem showFrames_last (buffer : Nat → UInt16) (earlier : List (Frame F)) (last : Frame F) :
    ∃ ground, showFrames cos sin buffer (earlier ++ [last]) =
      some (paint ground (picture cos sin last ++
        (readingOf maxReading last.hottest.temperature ++
          readingOf minReading last.coldest.temperature))) := by
  induction earlier generalizing buffer with
  | nil =>
    refine ⟨buffer, ?_⟩
    rw [List.nil_append, showFrames, drawFrame_eq]
    rfl
  | cons frame earlier ih =>
    obtain ⟨ground, hground⟩ := ih (paint buffer (picture cos sin frame ++
      (readingOf maxReading frame.hottest.temperature ++
        readingOf minReading frame.coldest.temperature)))
    refine ⟨ground, ?_⟩
    rw [List.cons_append, showFrames, drawFrame_eq]
    exact hground

end Pass

/-- After a reading its box does not depend on what was there before, and only the box and the
cells of the label were drawn in; so, frame after frame, a box shows the last temperature. -/
theorem readings_leave_no_ghost {F : Type} [Add F] [Sub F] [Mul F] [Div F] [CFloat F] [LinearOrder F]
    (cos sin : F → F) :
    (∀ reading, reading = maxReading ∨ reading = minReading → ∀ temperature : F,
      ∃ calls, showReading reading temperature = some calls ∧
        (∀ buffer buffer' x y, InBox reading.y x y →
          paint buffer calls (y * 480 + x) = paint buffer' calls (y * 480 + x)) ∧
        Confined (fun x y => InBox reading.y x y ∨ InLabel reading x y) calls) ∧
    ∀ buffer buffer' (earlier earlier' : List (Frame F)) (last last' : Frame F),
      ∃ shown shown', showFrames cos sin buffer (earlier ++ [last]) = some shown ∧
        showFrames cos sin buffer' (earlier' ++ [last']) = some shown' ∧
        (last.hottest.temperature = last'.hottest.temperature → ∀ x y, InBox maxReading.y x y →
          shown (y * 480 + x) = shown' (y * 480 + x)) ∧
        (last.coldest.temperature = last'.coldest.temperature → ∀ x y, InBox minReading.y x y →
          shown (y * 480 + x) = shown' (y * 480 + x)) := by
  constructor
  · intro reading hreading temperature
    exact ⟨_, showReading_eq reading temperature, paint_box_congr hreading temperature,
      readingCalls_confined hreading _ _⟩
  · intro buffer buffer' earlier earlier' last last'
    obtain ⟨ground, hshown⟩ := showFrames_last cos sin buffer earlier last
    obtain ⟨ground', hshown'⟩ := showFrames_last cos sin buffer' earlier' last'
    refine ⟨_, _, hshown, hshown', ?_, ?_⟩
    · intro hsame x y hbox
      rw [paint_max_box hbox, paint_max_box hbox, hsame]
      exact paint_box_congr (Or.inl rfl) _ _ _ x y hbox
    · intro hsame x y hbox
      rw [paint_append, paint_append, paint_append, paint_append, hsame]
      exact paint_box_congr (Or.inr rfl) _ _ _ x y hbox

/-- The maximum at 36.6 degrees. -/
theorem readings_leave_no_ghost_body_temperature :
    ∃ calls, showReading maxReading (366 / 10 : ℚ) = some calls ∧
      (∀ buffer buffer' x y, InBox maxReading.y x y →
        paint buffer calls (y * 480 + x) = paint buffer' calls (y * 480 + x)) ∧
      Confined (fun x y => InBox maxReading.y x y ∨ InLabel maxReading x y) calls :=
  (readings_leave_no_ghost (fun _ : ℚ => 0) (fun _ => 0)).1 maxReading (Or.inl rfl) (366 / 10)

/-- For all temperatures a pass draws on the screen only, looks up inside the tables only, and
writes no text into the window of the picture. -/
theorem drawing_stays_on_screen (mlx90640To : Fin 768 → ℚ) (beyond : Int → Int → ℚ)
    (srcMatrix : Fin 24 → Fin 32 → ℚ) (destMatrix : Fin 240 → Fin 320 → ℚ) (cos sin : ℚ → ℚ) :
    ∃ frame calls readings, takeFrame mlx90640To beyond srcMatrix destMatrix = some frame ∧
      drawFrame cos sin frame = some calls ∧ showReadings frame = some readings ∧
      Confined OnScreen calls ∧ InTables calls ∧
      Confined (fun x y => ¬ InWindow x y) readings := by
  obtain ⟨_, -, _, -, hframe⟩ := takeFrame_run mlx90640To beyond srcMatrix destMatrix
  refine ⟨_, _, _, hframe, drawFrame_eq cos sin _, showReadings_eq _, ?_, ?_, ?_⟩
  · refine Confined.append ?_ (Confined.append ?_ ?_)
    · refine (picture_confined cos sin _).mono ?_
      intro px py hin
      rw [InWindow] at hin
      rw [OnScreen]
      omega
    · exact (reading_beside_window (Or.inl rfl) _).mono fun px py hin => hin.1
    · exact (reading_beside_window (Or.inr rfl) _).mono fun px py hin => hin.1
  · exact (picture_inTables cos sin _).append ((readingCalls_inTables (Or.inl rfl) _ _).append
      (readingCalls_inTables (Or.inr rfl) _ _))
  · exact ((reading_beside_window (Or.inl rfl) _).mono fun px py hin => hin.2).append
      ((reading_beside_window (Or.inr rfl) _).mono fun px py hin => hin.2)

end Mlx90640.Display.Screen
