import Mathlib.Algebra.Order.Round
import Mathlib.Tactic.Linarith

/-!
# Rounding half away from zero

C code rounds by adding or subtracting one half before a conversion that truncates. The
result is a nearest integer; of two nearest ones it is the one farther from zero.
-/
namespace Mlx90640.Lib.Rounding

variable {K : Type*} [Field K] [LinearOrder K] [IsStrictOrderedRing K] [FloorRing K]

def roundAway (x : K) : ℤ := if x < 0 then -round (-x) else round x

theorem abs_roundAway_sub (x : K) : |(roundAway x : K) - x| ≤ 1 / 2 := by
  rw [roundAway]
  split
  · have hneg := abs_sub_round (-x)
    rw [Int.cast_neg]
    rwa [neg_sub_left, abs_neg, add_comm, ← sub_neg_eq_add, abs_sub_comm]
  · rw [abs_sub_comm]
    exact abs_sub_round x

theorem roundAway_intCast (z : ℤ) : roundAway (z : K) = z := by
  rw [roundAway, ← Int.cast_neg, round_intCast, round_intCast, neg_neg, ite_self]

theorem roundAway_le_iff (x : K) (n : ℕ) : roundAway x ≤ n ↔ x < n + 1 / 2 := by
  rw [roundAway]
  split
  · rename_i hx
    have hround : 0 ≤ round (-x) := by
      rw [round_eq, Int.floor_nonneg]
      linarith
    have hn : (0 : K) ≤ n := Nat.cast_nonneg n
    exact iff_of_true (by omega) (by linarith)
  · rw [round_eq, ← Int.lt_add_one_iff, Int.floor_lt]
    push_cast
    constructor <;> intro h <;> linarith

theorem le_roundAway_iff (x : K) (n : ℕ) : -(n : ℤ) ≤ roundAway x ↔ -(n : K) - 1 / 2 < x := by
  rw [roundAway]
  split
  · rw [neg_le_neg_iff, round_eq, ← Int.lt_add_one_iff, Int.floor_lt]
    push_cast
    constructor <;> intro h <;> linarith
  · rename_i hx
    have hround : 0 ≤ round x := by
      rw [round_eq, Int.floor_nonneg]
      linarith
    have hn : (0 : K) ≤ n := Nat.cast_nonneg n
    exact iff_of_true (by omega) (by linarith)

end Mlx90640.Lib.Rounding
