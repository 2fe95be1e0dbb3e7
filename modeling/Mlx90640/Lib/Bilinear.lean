import Mathlib.Algebra.Order.Field.Basic
import Mathlib.Tactic.Ring
import Mathlib.Tactic.Linarith

/-!
# Blending the four corners of a cell

The bilinear mean of four corner values with the fractions `u` across and `v` down. A corner
of weight zero does not contribute, so every rule asks for it only when its weight is not
zero.
-/
namespace Mlx90640.Lib.Bilinear

variable {K : Type*} [Field K]

/-- The corners in reading order, then the fractions across and down. -/
def blend (topLeft topRight bottomLeft bottomRight u v : K) : K :=
  topLeft * (1 - u) * (1 - v) + topRight * u * (1 - v) + bottomLeft * (1 - u) * v +
    bottomRight * u * v

@[simp] theorem blend_zero_zero (topLeft topRight bottomLeft bottomRight : K) :
    blend topLeft topRight bottomLeft bottomRight 0 0 = topLeft := by
  simp [blend]

/-- The blend is exact on a plane: slope `d` across and `b` down. -/
theorem blend_affine {topRight bottomLeft bottomRight u v : K} (a b d : K)
    (hright : u ≠ 0 → topRight = a + d) (hleft : v ≠ 0 → bottomLeft = a + b)
    (hcorner : u ≠ 0 → v ≠ 0 → bottomRight = a + b + d) :
    blend a topRight bottomLeft bottomRight u v = a + b * v + d * u := by
  by_cases hu : u = 0
  · subst hu
    by_cases hv : v = 0
    · subst hv
      simp
    · rw [blend, hleft hv]
      ring
  · by_cases hv : v = 0
    · subst hv
      rw [blend, hright hu]
      ring
    · rw [blend, hright hu, hleft hv, hcorner hu hv]
      ring

variable [LinearOrder K] [IsStrictOrderedRing K]

theorem mul_weight_le {x y w : K} (hw : 0 ≤ w) (h : w ≠ 0 → x ≤ y) : x * w ≤ y * w := by
  by_cases hzero : w = 0
  · rw [hzero, mul_zero, mul_zero]
  · exact mul_le_mul_of_nonneg_right (h hzero) hw

theorem blend_mono {tl tr bl br tl' tr' bl' br' u v : K} (hu : 0 ≤ u) (hu' : u ≤ 1) (hv : 0 ≤ v)
    (hv' : v ≤ 1) (htl : tl ≤ tl') (htr : u ≠ 0 → tr ≤ tr') (hbl : v ≠ 0 → bl ≤ bl')
    (hbr : u ≠ 0 → v ≠ 0 → br ≤ br') :
    blend tl tr bl br u v ≤ blend tl' tr' bl' br' u v := by
  have hu1 : 0 ≤ 1 - u := sub_nonneg.mpr hu'
  have hv1 : 0 ≤ 1 - v := sub_nonneg.mpr hv'
  have h1 := mul_weight_le (mul_nonneg hu1 hv1) fun _ => htl
  have h2 := mul_weight_le (mul_nonneg hu hv1) fun h => htr (left_ne_zero_of_mul h)
  have h3 := mul_weight_le (mul_nonneg hu1 hv) fun h => hbl (right_ne_zero_of_mul h)
  have h4 := mul_weight_le (mul_nonneg hu hv) fun h =>
    hbr (left_ne_zero_of_mul h) (right_ne_zero_of_mul h)
  simp only [blend, mul_assoc]
  linarith

end Mlx90640.Lib.Bilinear
