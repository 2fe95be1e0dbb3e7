import Mlx90640.Lib.Loops
import Mlx90640.Lib.Bilinear
import Mlx90640.Calibration.Decoding

/-!
# Enlarging the image

`bilinear_interpolation` fills the 240 by 320 picture from the 24 by 32 temperatures. Each
cell of the picture reads four cells of the source, the lower and the right ones at an index
one larger than the truncated coordinate. A read is a parameter of the model: checked, it
answers `none` outside the matrix; unchecked, it gives whatever the memory holds there.
-/
namespace Mlx90640.Display.Interpolation

open Mlx90640.Calibration
open Mlx90640.Calibration.Extract
open Mlx90640.Calibration.Decoding
open Mlx90640.Lib.Bilinear
open Mlx90640.Lib.Loops

/-- `(int)x`, which truncates towards zero. -/
class CInt (F : Type) where
  castInt : F → Int

export CInt (castInt)

instance exactInt {K : Type} [Field K] [LinearOrder K] [FloorRing K] : CInt K where
  castInt := truncate

section Code

variable {F : Type} [Add F] [Sub F] [Mul F] [Div F] [CFloat F] [CInt F]

/-- The loop body: the value of `dest_matrix[y][x]`, with `read r c` for `src_matrix[r][c]`. -/
def interpolate (read : Int → Int → Option F) (y x : Nat) : Option F := do
  let xRatio : F := ofInt (32 - 1) / ofInt (320 - 1)
  let yRatio : F := ofInt (24 - 1) / ofInt (240 - 1)
  let xSrc := ofInt x * xRatio
  let ySrc := ofInt y * yRatio
  let x1 := castInt xSrc
  let y1 := castInt ySrc
  let x2 := x1 + 1
  let y2 := y1 + 1
  let xDiff := xSrc - ofInt x1
  let yDiff := ySrc - ofInt y1
  let topLeft := (← read y1 x1) * (ofInt 1 - xDiff) * (ofInt 1 - yDiff)
  let topRight := (← read y1 x2) * xDiff * (ofInt 1 - yDiff)
  let bottomLeft := (← read y2 x1) * (ofInt 1 - xDiff) * yDiff
  let bottomRight := (← read y2 x2) * xDiff * yDiff
  return topLeft + topRight + bottomLeft + bottomRight

def bilinearInterpolation (read : Int → Int → Option F) (destMatrix : Fin 240 → Fin 320 → F) :
    Option (Fin 240 → Fin 320 → F) :=
  Nat.fold 240 (fun y hy destMatrix => destMatrix.bind fun destMatrix =>
    Nat.fold 320 (fun x hx destMatrix => destMatrix.bind fun destMatrix =>
      (interpolate read y x).map (updateCell destMatrix ⟨y, hy⟩ ⟨x, hx⟩)) (some destMatrix))
    (some destMatrix)

/-- A read of the source that faults outside it. -/
def checked (srcMatrix : Fin 24 → Fin 32 → F) (r c : Int) : Option F :=
  if h : (0 ≤ r ∧ r < 24) ∧ 0 ≤ c ∧ c < 32 then
    some (srcMatrix ⟨r.toNat, by omega⟩ ⟨c.toNat, by omega⟩)
  else none

/-- The cell of the source, or what lies `beyond` it. -/
def contents (srcMatrix : Fin 24 → Fin 32 → F) (beyond : Int → Int → F) (r c : Int) : F :=
  (checked srcMatrix r c).getD (beyond r c)

/-- A read of the source that does not check its index. -/
def memory (srcMatrix : Fin 24 → Fin 32 → F) (beyond : Int → Int → F) (r c : Int) : Option F :=
  some (contents srcMatrix beyond r c)

end Code

/-- The whole part of `k * (n / m)`. -/
def whole (n m k : Nat) : Nat := n * k / m

/-- The fractional part of `k * (n / m)`. -/
def fraction (n m k : Nat) : ℚ := (n * k % m : Nat) / m

theorem whole_add_fraction {n m : Nat} (hm : 0 < m) (k : Nat) :
    (whole n m k : ℚ) + fraction n m k = k * (n / m) := by
  have hm' : (m : ℚ) ≠ 0 := by positivity
  have hdiv : (m : ℚ) * (n * k / m : Nat) + (n * k % m : Nat) = n * k := by
    exact_mod_cast Nat.div_add_mod (n * k) m
  rw [whole, fraction]
  field_simp
  linarith

theorem fraction_nonneg (n m k : Nat) : 0 ≤ fraction n m k := by
  rw [fraction]
  positivity

theorem fraction_lt_one {n m : Nat} (hm : 0 < m) (k : Nat) : fraction n m k < 1 := by
  have hm' : (0 : ℚ) < m := by exact_mod_cast hm
  rw [fraction, div_lt_one hm']
  exact_mod_cast Nat.mod_lt _ hm

theorem fraction_ne_zero {n m k : Nat} (h : fraction n m k ≠ 0) : n * k % m ≠ 0 := by
  intro hzero
  apply h
  rw [fraction, hzero]
  simp

theorem truncate_scaled {n m : Nat} (hm : 0 < m) (k : Nat) :
    truncate ((k : ℚ) * (n / m)) = whole n m k := by
  rw [← whole_add_fraction hm k]
  have hnonneg : 0 ≤ (whole n m k : ℚ) + fraction n m k :=
    add_nonneg (Nat.cast_nonneg _) (fraction_nonneg n m k)
  rw [truncate, if_pos hnonneg, Int.floor_natCast_add]
  have hfloor : ⌊fraction n m k⌋ = 0 :=
    Int.floor_eq_zero_iff.mpr ⟨fraction_nonneg n m k, fraction_lt_one hm k⟩
  rw [hfloor, add_zero]

theorem coordinate_eq {n m : Nat} (hm : 0 < m) (k : Nat) :
    castInt (ofInt k * (ofInt n / ofInt m) : ℚ) = whole n m k ∧
      (ofInt k * (ofInt n / ofInt m) - ofInt (whole n m k) : ℚ) = fraction n m k := by
  simp only [ofInt_exact, Int.cast_natCast]
  refine ⟨truncate_scaled hm k, ?_⟩
  rw [← whole_add_fraction hm k, add_sub_cancel_left]

/-- In exact arithmetic a cell of the picture blends the four source cells around it. -/
theorem interpolate_eq (read : Int → Int → Option ℚ) (y x : Nat) :
    interpolate read y x = (do
      let topLeft ← read (whole 23 239 y) (whole 31 319 x)
      let topRight ← read (whole 23 239 y) (whole 31 319 x + 1)
      let bottomLeft ← read (whole 23 239 y + 1) (whole 31 319 x)
      let bottomRight ← read (whole 23 239 y + 1) (whole 31 319 x + 1)
      return blend topLeft topRight bottomLeft bottomRight (fraction 31 319 x)
        (fraction 23 239 y)) := by
  have hx : castInt (ofInt x * (ofInt (32 - 1) / ofInt (320 - 1)) : ℚ) = whole 31 319 x ∧
      (ofInt x * (ofInt (32 - 1) / ofInt (320 - 1)) - ofInt (whole 31 319 x) : ℚ) =
        fraction 31 319 x := coordinate_eq (by decide) x
  have hy : castInt (ofInt y * (ofInt (24 - 1) / ofInt (240 - 1)) : ℚ) = whole 23 239 y ∧
      (ofInt y * (ofInt (24 - 1) / ofInt (240 - 1)) - ofInt (whole 23 239 y) : ℚ) =
        fraction 23 239 y := coordinate_eq (by decide) y
  have hone : (ofInt 1 : ℚ) = 1 := by simp
  simp only [interpolate, hx.1, hy.1, hx.2, hy.2, hone]
  rfl

section Reads

variable {F : Type} (srcMatrix : Fin 24 → Fin 32 → F)

theorem checked_eq {r c : Nat} (hr : r < 24) (hc : c < 32) :
    checked srcMatrix r c = some (srcMatrix ⟨r, hr⟩ ⟨c, hc⟩) := by
  have hrange : ((0 : Int) ≤ r ∧ (r : Int) < 24) ∧ (0 : Int) ≤ c ∧ (c : Int) < 32 := by omega
  rw [checked, dif_pos hrange]
  rfl

theorem checked_some {r c : Int} {value : F} (h : checked srcMatrix r c = some value) :
    r < 24 ∧ c < 32 := by
  rw [checked] at h
  split at h
  case isTrue hrange => exact ⟨hrange.1.2, hrange.2.2⟩
  case isFalse => cases h

end Reads

/-- The last row and the last column of the picture read past the source. -/
theorem lt_of_interpolate_checked {srcMatrix : Fin 24 → Fin 32 → ℚ} {y x : Nat} {value : ℚ}
    (h : interpolate (checked srcMatrix) y x = some value) : y < 239 ∧ x < 319 := by
  rw [interpolate_eq] at h
  simp only [Option.bind_eq_bind, Option.bind_eq_some_iff] at h
  obtain ⟨-, -, -, -, -, -, bottomRight, hread, -⟩ := h
  have hrange := checked_some srcMatrix hread
  simp only [whole] at hrange
  omega

/-- A cell of the picture reads inside the source exactly when it is neither in the last row
nor in the last column. -/
theorem interpolation_in_bounds_iff (srcMatrix : Fin 24 → Fin 32 → ℚ) (y : Fin 240)
    (x : Fin 320) :
    (∃ value, interpolate (checked srcMatrix) y x = some value) ↔ y.val < 239 ∧ x.val < 319 := by
  constructor
  · intro hfound
    obtain ⟨value, h⟩ := hfound
    exact lt_of_interpolate_checked h
  · intro hboth
    obtain ⟨hy, hx⟩ := hboth
    have hrow : whole 23 239 y + 1 < 24 := by
      rw [whole]
      omega
    have hcolumn : whole 31 319 x + 1 < 32 := by
      rw [whole]
      omega
    have hread : ∀ i j : Nat, i ≤ 1 → j ≤ 1 →
        ∃ v, checked srcMatrix (whole 23 239 y + i : Nat) (whole 31 319 x + j : Nat) = some v :=
      fun i j hi hj => ⟨_, checked_eq srcMatrix (by omega) (by omega)⟩
    obtain ⟨topLeft, h1⟩ := hread 0 0 (by decide) (by decide)
    obtain ⟨topRight, h2⟩ := hread 0 1 (by decide) (by decide)
    obtain ⟨bottomLeft, h3⟩ := hread 1 0 (by decide) (by decide)
    obtain ⟨bottomRight, h4⟩ := hread 1 1 (by decide) (by decide)
    simp only [Nat.add_zero, Nat.cast_add, Nat.cast_one] at h1 h2 h3 h4
    rw [interpolate_eq, h1, h2, h3, h4]
    exact ⟨_, rfl⟩

/-- The last cell of a picture of uniform temperature. -/
theorem interpolation_out_of_bounds_last_cell :
    ¬∃ value, interpolate (checked fun _ _ => (20 : ℚ)) 239 319 = some value := by
  intro hfound
  obtain ⟨value, h⟩ := hfound
  exact absurd (lt_of_interpolate_checked h).1 (by decide)

/-- The value of a cell of the picture, with `beyond` outside the source. -/
def blended (srcMatrix : Fin 24 → Fin 32 → ℚ) (beyond : Int → Int → ℚ) (y x : Nat) : ℚ :=
  let read := contents srcMatrix beyond
  blend (read (whole 23 239 y) (whole 31 319 x)) (read (whole 23 239 y) (whole 31 319 x + 1))
    (read (whole 23 239 y + 1) (whole 31 319 x)) (read (whole 23 239 y + 1) (whole 31 319 x + 1))
    (fraction 31 319 x) (fraction 23 239 y)

/-- The whole picture, whatever it held before. -/
theorem bilinearInterpolation_memory (srcMatrix : Fin 24 → Fin 32 → ℚ) (beyond : Int → Int → ℚ)
    (destMatrix : Fin 240 → Fin 320 → ℚ) :
    bilinearInterpolation (memory srcMatrix beyond) destMatrix =
      some fun (y : Fin 240) (x : Fin 320) => blended srcMatrix beyond y x := by
  have hcell : ∀ y x, interpolate (memory srcMatrix beyond) y x =
      some (blended srcMatrix beyond y x) := fun y x => interpolate_eq _ y x
  have hrow : ∀ (y : Nat) (hy : y < 240) (destMatrix : Fin 240 → Fin 320 → ℚ),
      Nat.fold 320 (fun x hx destMatrix => destMatrix.bind fun destMatrix =>
        (interpolate (memory srcMatrix beyond) y x).map
          (updateCell destMatrix ⟨y, hy⟩ ⟨x, hx⟩)) (some destMatrix) =
      some (Nat.fold 320 (fun x hx destMatrix =>
        updateCell destMatrix ⟨y, hy⟩ ⟨x, hx⟩ (blended srcMatrix beyond y x)) destMatrix) := by
    intro y hy destMatrix
    apply fold_bind_some
    intro x hx destMatrix
    rw [hcell]
    rfl
  rw [bilinearInterpolation, fold_bind_some hrow]
  exact congrArg some (fold_matrix (fun (y : Fin 240) (x : Fin 320) =>
    blended srcMatrix beyond y x) destMatrix)

theorem contents_eq (srcMatrix : Fin 24 → Fin 32 → ℚ) (beyond : Int → Int → ℚ) {r c : Nat}
    (hr : r < 24) (hc : c < 32) :
    contents srcMatrix beyond r c = srcMatrix ⟨r, hr⟩ ⟨c, hc⟩ := by
  rw [contents, checked_eq srcMatrix hr hc, Option.getD_some]

theorem in_source (y : Fin 240) (x : Fin 320) :
    whole 23 239 y < 24 ∧ whole 31 319 x < 32 ∧
      (fraction 23 239 y ≠ 0 → whole 23 239 y + 1 < 24) ∧
      (fraction 31 319 x ≠ 0 → whole 31 319 x + 1 < 32) := by
  have hrow : fraction 23 239 y ≠ 0 → 23 * y.val % 239 ≠ 0 := fraction_ne_zero
  have hcolumn : fraction 31 319 x ≠ 0 → 31 * x.val % 319 ≠ 0 := fraction_ne_zero
  simp only [whole]
  refine ⟨by omega, by omega, fun h => ?_, fun h => ?_⟩
  · have hmod := hrow h
    omega
  · have hmod := hcolumn h
    omega

theorem blended_mono {srcMatrix srcMatrix' : Fin 24 → Fin 32 → ℚ}
    (h : ∀ r c, srcMatrix r c ≤ srcMatrix' r c) (beyond beyond' : Int → Int → ℚ) (y : Fin 240)
    (x : Fin 320) : blended srcMatrix beyond y x ≤ blended srcMatrix' beyond' y x := by
  obtain ⟨hr, hc, hr1, hc1⟩ := in_source y x
  have hcell : ∀ {r c : Nat}, r < 24 → c < 32 →
      contents srcMatrix beyond r c ≤ contents srcMatrix' beyond' r c := by
    intro r c hr hc
    rw [contents_eq srcMatrix beyond hr hc, contents_eq srcMatrix' beyond' hr hc]
    exact h _ _
  apply blend_mono (fraction_nonneg _ _ _) (fraction_lt_one (by decide) _).le
    (fraction_nonneg _ _ _) (fraction_lt_one (by decide) _).le
  · exact hcell hr hc
  · exact fun hu => hcell hr (hc1 hu)
  · exact fun hv => hcell (hr1 hv) hc
  · exact fun hu hv => hcell (hr1 hv) (hc1 hu)

theorem blended_affine (a b d : ℚ) (beyond : Int → Int → ℚ) (y : Fin 240) (x : Fin 320) :
    blended (fun r c => a + b * r.val + d * c.val) beyond y x =
      a + b * (23 * y / 239) + d * (31 * x / 319) := by
  obtain ⟨hr, hc, hr1, hc1⟩ := in_source y x
  have hcell : ∀ {r c : Nat}, r < 24 → c < 32 →
      contents (fun r c => a + b * r.val + d * c.val) beyond r c = a + b * r + d * c :=
    fun hr hc => contents_eq _ beyond hr hc
  have hy : (whole 23 239 y : ℚ) + fraction 23 239 y = 23 * y / 239 := by
    rw [whole_add_fraction (by decide)]
    push_cast
    ring
  have hx : (whole 31 319 x : ℚ) + fraction 31 319 x = 31 * x / 319 := by
    rw [whole_add_fraction (by decide)]
    push_cast
    ring
  simp only [blended, hcell hr hc]
  rw [blend_affine _ b d]
  · rw [← hy, ← hx]
    ring
  · intro hu
    have := hcell hr (hc1 hu)
    push_cast at this
    rw [this]
    ring
  · intro hv
    have := hcell (hr1 hv) hc
    push_cast at this
    rw [this]
    ring
  · intro hu hv
    have := hcell (hr1 hv) (hc1 hu)
    push_cast at this
    rw [this]
    ring

/-- At a corner of the picture both fractions vanish. -/
theorem blended_corner (srcMatrix : Fin 24 → Fin 32 → ℚ) (beyond : Int → Int → ℚ) {y : Fin 240}
    {x : Fin 320} {r : Fin 24} {c : Fin 32} (hr : 23 * y.val = 239 * r.val)
    (hc : 31 * x.val = 319 * c.val) : blended srcMatrix beyond y x = srcMatrix r c := by
  have hrow : whole 23 239 y = r := by
    rw [whole]
    omega
  have hcolumn : whole 31 319 x = c := by
    rw [whole]
    omega
  have hv : fraction 23 239 y = 0 := by
    rw [fraction, hr]
    simp
  have hu : fraction 31 319 x = 0 := by
    rw [fraction, hc]
    simp
  simp only [blended, hu, hv, blend_zero_zero, hrow, hcolumn]
  exact contents_eq srcMatrix beyond r.isLt c.isLt

/-- The picture that the code computes from a source and from what lies beyond it. -/
structure InterpolationLaw : Prop where
  total : ∀ srcMatrix beyond destMatrix, ∃ picture,
    bilinearInterpolation (F := ℚ) (memory srcMatrix beyond) destMatrix = some picture
  monotone : ∀ srcMatrix srcMatrix' beyond beyond' destMatrix destMatrix' picture picture',
    (∀ r c, srcMatrix r c ≤ srcMatrix' r c) →
    bilinearInterpolation (F := ℚ) (memory srcMatrix beyond) destMatrix = some picture →
    bilinearInterpolation (memory srcMatrix' beyond') destMatrix' = some picture' →
    ∀ y x, picture y x ≤ picture' y x
  affine : ∀ (a b d : ℚ) beyond destMatrix picture,
    bilinearInterpolation (memory (fun r c => a + b * r.val + d * c.val) beyond) destMatrix =
      some picture →
    ∀ y x, picture y x = a + b * (23 * y / 239) + d * (31 * x / 319)
  corners : ∀ srcMatrix beyond destMatrix picture,
    bilinearInterpolation (F := ℚ) (memory srcMatrix beyond) destMatrix = some picture →
    ∀ y x r c, (y.val = 0 ∧ r.val = 0 ∨ y.val = 239 ∧ r.val = 23) →
      (x.val = 0 ∧ c.val = 0 ∨ x.val = 319 ∧ c.val = 31) → picture y x = srcMatrix r c

/-- For all sources: the picture is monotone in the source, exact on planes and exact in the
four corners. -/
theorem interpolation_law : InterpolationLaw where
  total srcMatrix beyond destMatrix := ⟨_, bilinearInterpolation_memory srcMatrix beyond destMatrix⟩
  monotone srcMatrix srcMatrix' beyond beyond' destMatrix destMatrix' picture picture' h hp hp' := by
    rw [bilinearInterpolation_memory, Option.some.injEq] at hp hp'
    subst hp hp'
    exact blended_mono h beyond beyond'
  affine a b d beyond destMatrix picture hp := by
    rw [bilinearInterpolation_memory, Option.some.injEq] at hp
    subst hp
    exact blended_affine a b d beyond
  corners srcMatrix beyond destMatrix picture hp y x r c hrow hcolumn := by
    rw [bilinearInterpolation_memory, Option.some.injEq] at hp
    subst hp
    exact blended_corner srcMatrix beyond (by omega) (by omega)

end Mlx90640.Display.Interpolation
