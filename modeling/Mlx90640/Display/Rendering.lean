import Mlx90640.Display.Screen

/-!
# What a frame looks like

A frame determines the colour of every pixel that a pass draws, independently of the order of
the calls: the readings lie over the crosses, and these over the picture. Which pixels are
drawn does not depend on the frame, so nothing of an earlier frame is left.
-/
namespace Mlx90640.Display.Rendering

open Mlx90640.Calibration
open Mlx90640.Calibration.Extract
open Mlx90640.Display.Extremes
open Mlx90640.Display.Colour
open Mlx90640.Display.Glyphs
open Mlx90640.Display.Font
open Mlx90640.Display.Numbers
open Mlx90640.Display.Readout
open Mlx90640.Display.Screen
open Mlx90640.Lib.Journal

/-- A colour for each pixel that is drawn. -/
def Layer : Type := Nat → Nat → Option UInt16

/-- The back shows where the front is not drawn. -/
def onTop (front back : Layer) : Layer := fun x y => (front x y).or (back x y)

theorem onTop_eq_none {front back : Layer} {x y : Nat} :
    onTop front back x y = none ↔ front x y = none ∧ back x y = none :=
  Option.or_eq_none_iff

instance (px py : Nat) : Decidable (InWindow px py) :=
  inferInstanceAs (Decidable ((80 ≤ px ∧ px < 400) ∧ 60 ≤ py ∧ py < 300))

instance (y : UInt16) (px py : Nat) : Decidable (InBox y px py) :=
  inferInstanceAs (Decidable (285 ≤ px ∧ px ≤ 369 ∧ y.toNat + 1 ≤ py ∧ py ≤ y.toNat + 25))

/-- Has a line of characters, the first of them at (x0, y0), a dot here? -/
def lit (sizey : UInt8) (x0 y0 : Nat) (chars : List UInt8) (x y : Nat) : Bool :=
  let sizex := (sizey / 2).toNat
  decide (x0 ≤ x ∧ y0 ≤ y ∧ y < y0 + sizey.toNat) &&
    (chars[(x - x0) / sizex]?).any fun num =>
      fonts.bit sizey (num - 0x20) ((x - x0) % sizex) (y - y0)

def lettering (sizey : UInt8) (x0 y0 : UInt16) (chars : List UInt8) : Layer := fun x y =>
  if lit sizey x0.toNat y0.toNat chars x y then some BLACK else none

/-- The white box of a readout. -/
def plate (y0 : UInt16) : Layer := fun x y => if InBox y0 x y then some WHITE else none

/-- The two strokes of a cross. -/
def OnCross {F : Type} (found : Found F) (x y : Nat) : Prop :=
  (5 < found.destRow.val ∧ found.destRow.val < 235 ∧ 5 < found.destCol.val ∧
    found.destCol.val < 315) ∧
    ((x = found.destCol + 80 ∧ found.destRow + 55 ≤ y ∧ y < found.destRow + 65) ∨
      (y = found.destRow + 60 ∧ found.destCol + 75 ≤ x ∧ x < found.destCol + 85))

instance {F : Type} (found : Found F) (x y : Nat) : Decidable (OnCross found x y) :=
  inferInstanceAs (Decidable (_ ∧ _))

def marker {F : Type} (found : Found F) : Layer := fun x y =>
  if OnCross found x y then some 0xFFFF else none

theorem windowRow_lt {x y : Nat} (h : InWindow x y) : y - 60 < 240 := by
  unfold InWindow at h
  omega

theorem windowCol_lt {x y : Nat} (h : InWindow x y) : x - 80 < 320 := by
  unfold InWindow at h
  omega

section Layers

variable {F : Type} [Add F] [Sub F] [Mul F] [Div F] [CFloat F] [LinearOrder F]

/-- The picture in its window. -/
def heat (cos sin : F → F) (frame : Frame F) : Layer := fun x y =>
  if h : InWindow x y then
    some (temp2RGB cos sin frame.hottest.temperature
      (frame.destMatrix ⟨y - 60, windowRow_lt h⟩ ⟨x - 80, windowCol_lt h⟩))
  else none

/-- A label, and a temperature in black on white over its end. -/
def gauge (reading : Reading) (temperature : F) : Layer :=
  let hundredths := (toUInt16 (temperature * ofInt 100)).toNat
  let whole := (toUInt16 (temperature * ofInt 100 / ofInt 100)).toNat
  onTop (lettering 24 300 reading.y [intChar (whole % 100) 2 0, intChar (whole % 100) 2 1])
    (onTop (lettering 24 325 reading.y [0x2E, digitChar hundredths 1, digitChar hundredths 0])
      (onTop (plate reading.y) (lettering 32 30 reading.labelY reading.label)))

/-- A frame as it is seen. -/
def rendered (cos sin : F → F) (frame : Frame F) : Layer :=
  onTop (gauge minReading frame.coldest.temperature)
    (onTop (gauge maxReading frame.hottest.temperature)
      (onTop (marker frame.coldest) (onTop (marker frame.hottest) (heat cos sin frame))))

end Layers

theorem lastColour_eq {calls : List Call} {x y : Nat} {ink : Option UInt16}
    (h : ∀ color, .pixel x y color ∈ calls ↔ ink = some color) : lastColour calls x y = ink := by
  cases ink with
  | none =>
    apply lastColour_eq_none
    intro color hmem
    have hink := (h color).mp hmem
    cases hink
  | some color =>
    refine lastColour_eq_some ((h color).mpr rfl) ?_
    intro color' hmem
    exact (Option.some.inj ((h color').mp hmem)).symm

section Letters

variable {sizey : UInt8} (hsize : IsSize sizey) (fc bc : UInt16)
include hsize

/-- The dots of a line of characters, cell by cell. -/
theorem mem_showString {y0 : UInt16} (hy0 : y0.toNat + sizey.toNat ≤ 65535) (p : List UInt8)
    {x0 : UInt16} (hx0 : x0.toNat + (sizey / 2).toNat * p.length ≤ 65535) (x y : Nat)
    (color : UInt16) :
    .pixel x y color ∈ showString fonts y0 fc bc sizey 1 x0 p ↔
      ∃ k num, p[k]? = some num ∧ ∃ c < (sizey / 2).toNat, ∃ r < sizey.toNat,
        fonts.bit sizey (num - 0x20) c r ∧ x = x0.toNat + (sizey / 2).toNat * k + c ∧
          y = y0.toNat + r ∧ color = fc := by
  induction p generalizing x0 with
  | nil => simp [showString]
  | cons num p ih =>
    rw [List.length_cons, Nat.mul_succ] at hx0
    have hnext : (x0 + (sizey / 2).toUInt16).toNat = x0.toNat + (sizey / 2).toNat := by
      rw [UInt16.toNat_add, UInt8.toNat_toUInt16]
      change _ % 65536 = _
      omega
    have hdrawn := showChar_drawn fonts hsize (by decide : (1 : UInt8) ≠ 0) num fc bc
      (show x0.toNat + (sizey / 2).toNat ≤ 65535 by omega) hy0
    rw [showString, List.mem_append, hdrawn.pixel, ih (by rw [hnext]; omega), hnext]
    constructor
    · rintro (⟨c, hc, r, hr, hbit, hx, hy, hcolor⟩ | ⟨k, num', hk, c, hc, r, hr, hbit, hx, hy, hcolor⟩)
      · exact ⟨0, num, rfl, c, hc, r, hr, hbit, by rw [hx, Nat.mul_zero, Nat.add_zero], hy, hcolor⟩
      · refine ⟨k + 1, num', hk, c, hc, r, hr, hbit, ?_, hy, hcolor⟩
        rw [hx, Nat.mul_succ]
        omega
    · intro h
      obtain ⟨k, num', hk, c, hc, r, hr, hbit, hx, hy, hcolor⟩ := h
      cases k with
      | zero =>
        obtain rfl : num = num' := Option.some.inj hk
        exact Or.inl ⟨c, hc, r, hr, hbit, by rw [hx, Nat.mul_zero, Nat.add_zero], hy, hcolor⟩
      | succ k =>
        refine Or.inr ⟨k, num', hk, c, hc, r, hr, hbit, ?_, hy, hcolor⟩
        rw [hx, Nat.mul_succ]
        omega

/-- The cell and the column of a dot are the quotient and the remainder of its place. -/
theorem lit_iff {x0 y0 x y : Nat} {chars : List UInt8} :
    lit sizey x0 y0 chars x y ↔
      ∃ k num, chars[k]? = some num ∧ ∃ c < (sizey / 2).toNat, ∃ r < sizey.toNat,
        fonts.bit sizey (num - 0x20) c r ∧ x = x0 + (sizey / 2).toNat * k + c ∧ y = y0 + r := by
  have hpos : 0 < (sizey / 2).toNat := by
    obtain rfl | rfl | rfl | rfl := hsize <;> decide
  simp only [lit, Bool.and_eq_true, decide_eq_true_eq, Option.any_eq_true]
  constructor
  · intro h
    obtain ⟨⟨hx, hy, hbottom⟩, num, hnum, hbit⟩ := h
    refine ⟨_, num, hnum, _, Nat.mod_lt _ hpos, y - y0, by omega, hbit, ?_, by omega⟩
    have hsplit := Nat.div_add_mod (x - x0) (sizey / 2).toNat
    omega
  · intro h
    obtain ⟨k, num, hnum, c, hc, r, hr, hbit, rfl, rfl⟩ := h
    have hplace : x0 + (sizey / 2).toNat * k + c - x0 = (sizey / 2).toNat * k + c := by omega
    have hcell : (x0 + (sizey / 2).toNat * k + c - x0) / (sizey / 2).toNat = k := by
      rw [hplace, Nat.mul_add_div hpos, Nat.div_eq_of_lt hc, Nat.add_zero]
    have hcolumn : (x0 + (sizey / 2).toNat * k + c - x0) % (sizey / 2).toNat = c := by
      rw [hplace, Nat.mul_add_mod, Nat.mod_eq_of_lt hc]
    refine ⟨⟨by omega, by omega, by omega⟩, num, ?_, ?_⟩
    · rw [hcell]
      exact hnum
    · rw [hcolumn, Nat.add_sub_cancel_left]
      exact hbit

theorem lastColour_showString {y0 : UInt16} (hy0 : y0.toNat + sizey.toNat ≤ 65535)
    (x0 : UInt16) (p : List UInt8) (hx0 : x0.toNat + (sizey / 2).toNat * p.length ≤ 65535)
    (x y : Nat) :
    lastColour (showString fonts y0 BLACK bc sizey 1 x0 p) x y = lettering sizey x0 y0 p x y := by
  apply lastColour_eq
  intro color
  rw [mem_showString hsize BLACK bc hy0 p hx0, lettering]
  constructor
  · intro h
    obtain ⟨k, num, hk, c, hc, r, hr, hbit, hx, hy, rfl⟩ := h
    rw [if_pos ((lit_iff hsize).mpr ⟨k, num, hk, c, hc, r, hr, hbit, hx, hy⟩)]
  · intro hink
    obtain ⟨hlit, hcolor⟩ := Option.ite_none_right_eq_some.mp hink
    obtain ⟨k, num, hk, c, hc, r, hr, hbit, hx, hy⟩ := (lit_iff hsize).mp hlit
    exact ⟨k, num, hk, c, hc, r, hr, hbit, hx, hy, (Option.some.inj hcolor).symm⟩

end Letters

theorem lastColour_plate (y0 : UInt16) {x y : Nat} (hx : x < 480) :
    lastColour (clearBox 325 y0) x y = plate y0 x y := by
  have hcolumn : (325 : UInt16).toNat = 325 := rfl
  have hbox : ((325 : UInt16).toNat ≤ x + 40 ∧ x < (325 : UInt16).toNat + 45 ∧ y0.toNat < y ∧
      y ≤ y0.toNat + 25) ↔ InBox y0 x y := by
    rw [hcolumn, InBox]
    omega
  rw [lastColour_clearBox 325 y0 (by omega), plate]
  simp only [hbox]

section Strokes

variable {F : Type}

theorem lastColour_cross (found : Found F) (x y : Nat) :
    lastColour (cross found) x y = marker found x y := by
  apply lastColour_eq
  intro color
  rw [cross, marker, Option.ite_none_right_eq_some, Option.some.injEq, OnCross]
  constructor
  · intro hmem
    split at hmem
    case isTrue hinside =>
      simp only [List.mem_append, List.mem_map, List.mem_range, Call.pixel.injEq] at hmem
      obtain ⟨k, hk, rfl, rfl, rfl⟩ | ⟨k, hk, rfl, rfl, rfl⟩ := hmem
      · exact ⟨⟨hinside, Or.inl (by omega)⟩, rfl⟩
      · exact ⟨⟨hinside, Or.inr (by omega)⟩, rfl⟩
    case isFalse => cases hmem
  · intro h
    obtain ⟨⟨hinside, hstroke⟩, rfl⟩ := h
    rw [if_pos hinside]
    simp only [List.mem_append, List.mem_map, List.mem_range, Call.pixel.injEq]
    obtain ⟨rfl, hlow, hhigh⟩ | ⟨rfl, hlow, hhigh⟩ := hstroke
    · exact Or.inl ⟨y - (found.destRow + 55), by omega, rfl, by omega, trivial⟩
    · exact Or.inr ⟨x - (found.destCol + 75), by omega, by omega, rfl, trivial⟩

theorem marker_none {found : Found F} {x y : Nat} (hout : ¬ InWindow x y) :
    marker found x y = none := by
  rw [marker, if_neg]
  intro hcross
  apply hout
  unfold OnCross at hcross
  unfold InWindow
  omega

end Strokes

section Frame

variable {F : Type} [Add F] [Sub F] [Mul F] [Div F] [CFloat F] [LinearOrder F] (cos sin : F → F)

theorem lastColour_heatMap (frame : Frame F) (x y : Nat) :
    lastColour (heatMap cos sin frame) x y = heat cos sin frame x y := by
  apply lastColour_eq
  intro color
  simp only [heatMap, List.mem_flatMap, List.mem_map, List.mem_finRange, true_and,
    Call.pixel.injEq]
  rw [heat]
  constructor
  · intro h
    obtain ⟨row, col, rfl, rfl, rfl⟩ := h
    have hin : InWindow (col.val + 80) (row.val + 60) := by
      unfold InWindow
      omega
    rw [dif_pos hin]
    simp only [Nat.add_sub_cancel]
  · intro hink
    split at hink
    case isTrue hin =>
      refine ⟨⟨y - 60, windowRow_lt hin⟩, ⟨x - 80, windowCol_lt hin⟩, ?_, ?_, Option.some.inj hink⟩
      · unfold InWindow at hin
        simp only
        omega
      · unfold InWindow at hin
        simp only
        omega
    case isFalse => cases hink

end Frame

theorem text_decimals (y : UInt16) (char : Nat → UInt8) :
    text fonts 325 y BLACK BLACK 24 char [0, 1, 2] =
      showString fonts y BLACK BLACK 24 1 325 [char 0, char 1, char 2] := by
  simp [text, showString, cell]

theorem text_whole (y : UInt16) (char : Nat → UInt8) :
    text fonts 300 y BLACK BLACK 24 char [0, 1] =
      showString fonts y BLACK BLACK 24 1 300 [char 0, char 1] := by
  simp [text, showString, cell]

section Reading

variable {F : Type} [Mul F] [Div F] [CFloat F]

theorem lastColour_reading {reading : Reading} (h : IsReading reading) (temperature : F) {x : Nat}
    (hx : x < 480) (y : Nat) :
    lastColour (readingOf reading temperature) x y = gauge reading temperature x y := by
  obtain ⟨hlabelY, hy, hlength, -⟩ := h.fits
  have hlabel := lastColour_showString isSize_32 BLACK hlabelY 30 reading.label
    (by rw [hlength]; decide) x y
  have hbottom : reading.y.toNat + (24 : UInt8).toNat ≤ 65535 := by
    change reading.y.toNat + 24 ≤ 65535
    omega
  have hdecimals := fun a b c => lastColour_showString isSize_24 BLACK hbottom 325 [a, b, c]
    (show 325 + 12 * 3 ≤ 65535 by decide) x y
  have hwhole := fun a b => lastColour_showString isSize_24 BLACK hbottom 300 [a, b]
    (show 300 + 12 * 2 ≤ 65535 by decide) x y
  unfold readingOf readingCalls readoutCalls gauge onTop
  rw [text_decimals, text_whole, lastColour_append, lastColour_append, lastColour_append, hlabel,
    lastColour_plate reading.y hx, hdecimals, hwhole, Option.or_assoc, Option.or_assoc]
  rfl

theorem lettering_readout_none {y0 : UInt16} {x y : Nat} (hout : ¬ InBox y0 x y) {x0 : UInt16}
    (hleft : 300 ≤ x0.toNat) {chars : List UInt8} (hright : x0.toNat + 12 * chars.length ≤ 361)
    (hchars : ∀ num ∈ chars, num ∈ numberChars) : lettering 24 x0 y0 chars x y = none := by
  rw [lettering, if_neg]
  intro hlit
  obtain ⟨k, num, hk, c, hc, r, hr, hbit, rfl, rfl⟩ := (lit_iff isSize_24).mp hlit
  obtain ⟨hlt, hnum⟩ := List.getElem?_eq_some_iff.mp hk
  have hc : c < 12 := hc
  have hr : r < 24 := hr
  have hpos := row_pos (hchars num (hnum ▸ List.getElem_mem hlt)) hc hbit
  apply hout
  rw [InBox]
  change _ ∧ x0.toNat + 12 * k + c ≤ _ ∧ _
  have hcell : 285 ≤ x0.toNat + 12 * k + c := by omega
  exact ⟨hcell, by omega, by omega, by omega⟩

/-- A reading is drawn in its box and on the dots of its label, whatever the temperature. -/
theorem gauge_eq_none_iff {reading : Reading} (temperature : F) {x y : Nat} :
    gauge reading temperature x y = none ↔
      ¬ InBox reading.y x y ∧ lettering 32 30 reading.labelY reading.label x y = none := by
  unfold gauge
  rw [onTop_eq_none, onTop_eq_none, onTop_eq_none]
  constructor
  · intro h
    obtain ⟨-, -, hplate, hlabel⟩ := h
    refine ⟨fun hbox => ?_, hlabel⟩
    rw [plate, if_pos hbox] at hplate
    cases hplate
  · intro h
    obtain ⟨hout, hlabel⟩ := h
    have hwhole := intChar_mem ((toUInt16 (temperature * ofInt 100 / ofInt 100)).toNat % 100) 2
    refine ⟨lettering_readout_none hout (by decide) (show 300 + 12 * 2 ≤ 361 by decide) ?_,
      lettering_readout_none hout (by decide) (show 325 + 12 * 3 ≤ 361 by decide) ?_,
      if_neg hout, hlabel⟩
    · intro num hnum
      simp only [List.mem_cons, List.not_mem_nil, or_false] at hnum
      obtain rfl | rfl := hnum
      · exact hwhole 0
      · exact hwhole 1
    · intro num hnum
      simp only [List.mem_cons, List.not_mem_nil, or_false] at hnum
      obtain rfl | rfl | rfl := hnum
      · decide
      · exact digitChar_mem _ _
      · exact digitChar_mem _ _

end Reading

section Pass

variable {F : Type} [Add F] [Sub F] [Mul F] [Div F] [CFloat F] [LinearOrder F] (cos sin : F → F)

/-- The calls of a pass. -/
def frameCalls (frame : Frame F) : List Call :=
  picture cos sin frame ++ (readingOf maxReading frame.hottest.temperature ++
    readingOf minReading frame.coldest.temperature)

theorem drawFrame_frameCalls (frame : Frame F) :
    drawFrame cos sin frame = some (frameCalls cos sin frame) := by
  unfold frameCalls
  exact drawFrame_eq cos sin frame

theorem lastColour_frame (frame : Frame F) {x : Nat} (hx : x < 480) (y : Nat) :
    lastColour (frameCalls cos sin frame) x y = rendered cos sin frame x y := by
  unfold frameCalls picture rendered onTop
  rw [lastColour_append, lastColour_append, lastColour_append, lastColour_append,
    lastColour_reading (Or.inl rfl) _ hx, lastColour_reading (Or.inr rfl) _ hx, lastColour_cross,
    lastColour_cross, lastColour_heatMap, Option.or_assoc]

/-- The pixels that a pass does not draw are those beside the window, the two boxes and the
dots of the two labels. -/
theorem rendered_eq_none_iff (frame : Frame F) {x y : Nat} :
    rendered cos sin frame x y = none ↔ ¬ InWindow x y ∧
      (¬ InBox maxReading.y x y ∧ lettering 32 30 maxReading.labelY maxReading.label x y = none) ∧
      ¬ InBox minReading.y x y ∧ lettering 32 30 minReading.labelY minReading.label x y = none := by
  unfold rendered
  rw [onTop_eq_none, onTop_eq_none, onTop_eq_none, onTop_eq_none, gauge_eq_none_iff, gauge_eq_none_iff]
  constructor
  · intro h
    obtain ⟨hmin, hmax, -, -, hheat⟩ := h
    refine ⟨fun hin => ?_, hmax, hmin⟩
    rw [heat, dif_pos hin] at hheat
    cases hheat
  · intro h
    obtain ⟨hout, hmax, hmin⟩ := h
    exact ⟨hmin, hmax, marker_none hout, marker_none hout, dif_neg hout⟩

theorem frame_onScreen (frame : Frame F) : Confined OnScreen (frameCalls cos sin frame) := by
  refine Confined.append ?_ (Confined.append ?_ ?_)
  · refine (picture_confined cos sin frame).mono ?_
    intro px py hin
    rw [InWindow] at hin
    rw [OnScreen]
    omega
  · exact (reading_beside_window (Or.inl rfl) _).mono fun px py hin => hin.1
  · exact (reading_beside_window (Or.inr rfl) _).mono fun px py hin => hin.1

end Pass

/-- Two pixels of the screen are stored at different places, so the latest store is the last
colour. -/
theorem latest_writes {calls : List Call} (h : Confined OnScreen calls) {x y : Nat} (hx : x < 480) :
    latest (writes calls) (y * 480 + x) = lastColour calls x y := by
  induction calls with
  | nil => rfl
  | cons call calls ih =>
    have hrest := ih fun px py color hmem => h px py color (List.mem_cons_of_mem _ hmem)
    cases call with
    | character x' y' num => exact hrest
    | lookup s n i => exact hrest
    | pixel x' y' color =>
      have hcall := h x' y' color List.mem_cons_self
      unfold OnScreen at hcall
      have hplace : y' * 480 + x' = y * 480 + x ↔ (x', y') = (x, y) := by
        rw [Prod.mk.injEq]
        omega
      have hwrites : writes (.pixel x' y' color :: calls) =
          (y' * 480 + x', color) :: writes calls :=
        List.filterMap_cons_some (if_pos ⟨by omega, by omega⟩)
      have hpixels : pixels (.pixel x' y' color :: calls) = ((x', y'), color) :: pixels calls := rfl
      unfold lastColour at hrest ⊢
      rw [hwrites, hpixels, latest, latest, hrest]
      simp only [hplace]

theorem paint_onScreen {calls : List Call} (h : Confined OnScreen calls) (buffer : Nat → UInt16)
    {x y : Nat} (hx : x < 480) :
    paint buffer calls (y * 480 + x) = (lastColour calls x y).getD (buffer (y * 480 + x)) := by
  rw [paint_eq_replay, replay_eq, latest_writes h hx]

theorem paint_behind {calls : List Call} (h : Confined OnScreen calls) (buffer : Nat → UInt16)
    {i : Nat} (hi : 172800 ≤ i) : paint buffer calls i = buffer i := by
  have hsplit := Nat.div_add_mod' i 480
  have hx := Nat.mod_lt i (show 480 > 0 by decide)
  rw [← hsplit, paint_onScreen h buffer hx, lastColour_eq_none]
  · rfl
  · intro color hmem
    have hin := h _ _ color hmem
    unfold OnScreen at hin
    omega

section Frames

variable {F : Type} [Add F] [Sub F] [Mul F] [Div F] [CFloat F] [LinearOrder F] (cos sin : F → F)

/-- The buffer shows a layer over what was there before. -/
structure Displays (layer : Layer) (before after : Nat → UInt16) : Prop where
  shown : ∀ x y, x < 480 → y < 360 →
    after (y * 480 + x) = (layer x y).getD (before (y * 480 + x))
  behind : ∀ i, 172800 ≤ i → after i = before i

theorem paint_displays (frame : Frame F) (buffer : Nat → UInt16) :
    Displays (rendered cos sin frame) buffer (paint buffer (frameCalls cos sin frame)) := by
  constructor
  · intro x y hx _
    rw [paint_onScreen (frame_onScreen cos sin frame) buffer hx, lastColour_frame cos sin frame hx]
  · intro i hi
    exact paint_behind (frame_onScreen cos sin frame) buffer hi

/-- A frame hides every earlier one. -/
theorem Displays.hides {frame frame' : Frame F} {buffer shown shown' : Nat → UInt16}
    (h : Displays (rendered cos sin frame) buffer shown)
    (h' : Displays (rendered cos sin frame') shown shown') :
    Displays (rendered cos sin frame') buffer shown' := by
  constructor
  · intro x y hx hy
    rw [h'.shown x y hx hy]
    cases hlast : rendered cos sin frame' x y with
    | some color => rfl
    | none =>
      have hfirst : rendered cos sin frame x y = none :=
        (rendered_eq_none_iff cos sin frame).mpr ((rendered_eq_none_iff cos sin frame').mp hlast)
      show shown (y * 480 + x) = buffer (y * 480 + x)
      rw [h.shown x y hx hy, hfirst]
      rfl
  · intro i hi
    rw [h'.behind i hi, h.behind i hi]

theorem showFrames_cons (buffer : Nat → UInt16) (frame : Frame F) (frames : List (Frame F)) :
    showFrames cos sin buffer (frame :: frames) =
      showFrames cos sin (paint buffer (frameCalls cos sin frame)) frames := by
  rw [showFrames, drawFrame_frameCalls]
  rfl

theorem showFrames_displays {buffer shown : Nat → UInt16} {frame : Frame F}
    (h : Displays (rendered cos sin frame) buffer shown) (earlier : List (Frame F))
    (last : Frame F) : ∃ shown', showFrames cos sin shown (earlier ++ [last]) = some shown' ∧
      Displays (rendered cos sin last) buffer shown' := by
  induction earlier generalizing shown frame with
  | nil =>
    rw [List.nil_append, showFrames_cons]
    exact ⟨_, rfl, h.hides cos sin (paint_displays cos sin last shown)⟩
  | cons next earlier ih =>
    rw [List.cons_append, showFrames_cons]
    exact ih (h.hides cos sin (paint_displays cos sin next shown))

end Frames

/-- After any number of frames the screen is the rendering of the last one, over what was there
before the first; nothing behind the last line was stored. -/
theorem screen_shows_last_frame {F : Type} [Add F] [Sub F] [Mul F] [Div F] [CFloat F]
    [LinearOrder F] (cos sin : F → F) (buffer : Nat → UInt16) (earlier : List (Frame F))
    (last : Frame F) : ∃ shown, showFrames cos sin buffer (earlier ++ [last]) = some shown ∧
      (∀ x y, x < 480 → y < 360 →
        shown (y * 480 + x) = (rendered cos sin last x y).getD (buffer (y * 480 + x))) ∧
      ∀ i, 172800 ≤ i → shown i = buffer i := by
  cases earlier with
  | nil =>
    rw [List.nil_append, showFrames_cons]
    have hlast := paint_displays cos sin last buffer
    exact ⟨_, rfl, hlast.shown, hlast.behind⟩
  | cons frame earlier =>
    rw [List.cons_append, showFrames_cons]
    obtain ⟨shown, hshown, hlast⟩ :=
      showFrames_displays cos sin (paint_displays cos sin frame buffer) earlier last
    exact ⟨shown, hshown, hlast.shown, hlast.behind⟩

end Mlx90640.Display.Rendering
