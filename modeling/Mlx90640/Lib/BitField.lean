import Mathlib.Algebra.Order.Ring.Int
import Mathlib.Tactic.NormNum

/-!
# Bit fields of a 16-bit word

`field w low width` is the number that the `width` bits of `w` from bit `low` on spell, and
`signedField` reads the same bits as two's complement. C code gets at a field by masking
and shifting, and at its sign by comparing with the largest positive value.
-/
namespace Mlx90640.Lib.BitField

def field (w : UInt16) (low width : Nat) : Nat := w.toNat / 2 ^ low % 2 ^ width

def signedField (w : UInt16) (low width : Nat) : Int := Int.bmod (field w low width) (2 ^ width)

theorem field_lt (w : UInt16) (low width : Nat) : field w low width < 2 ^ width :=
  Nat.mod_lt _ (Nat.two_pow_pos width)

theorem field_word (w : UInt16) : field w 0 16 = w.toNat := by
  rw [field, pow_zero, Nat.div_one, Nat.mod_eq_of_lt w.toNat_lt]

/-- `(w & mask) >> shift` for a mask of `width` ones above `shift` zeros. -/
theorem toNat_and_shiftRight {w mask shift : UInt16} (width : Nat) (hshift : shift.toNat < 16)
    (hmask : mask.toNat = (2 ^ width - 1) * 2 ^ shift.toNat) :
    ((w &&& mask) >>> shift).toNat = field w shift.toNat width := by
  have hones : ((2 ^ width - 1) * 2 ^ shift.toNat) >>> shift.toNat = 2 ^ width - 1 := by
    rw [Nat.shiftRight_eq_div_pow, Nat.mul_div_cancel _ (Nat.two_pow_pos _)]
  rw [UInt16.toNat_shiftRight, UInt16.toNat_and, Nat.mod_eq_of_lt hshift, hmask,
    Nat.shiftRight_and_distrib, hones, Nat.and_two_pow_sub_one_eq_mod, Nat.shiftRight_eq_div_pow]
  rfl

theorem toNat_and {w mask : UInt16} (width : Nat) (hmask : mask.toNat = 2 ^ width - 1) :
    (w &&& mask).toNat = field w 0 width := by
  rw [UInt16.toNat_and, hmask, Nat.and_two_pow_sub_one_eq_mod, field, pow_zero, Nat.div_one]

/-- `if(x > half - 1) x = x - 2 * half;` is the two's complement reading. -/
theorem bmod_eq_ite {x : Int} {half : Nat} (h0 : 0 ≤ x) (hx : x < 2 * half) :
    Int.bmod x (2 * half) = if x > half - 1 then x - 2 * half else x := by
  rw [Int.bmod_def, Int.emod_eq_of_lt h0 (by push_cast; exact hx)]
  push_cast
  split <;> split <;> omega

theorem signedField_eq_ite (w : UInt16) (low width : Nat) :
    signedField w low (width + 1) =
      if (field w low (width + 1) : Int) > 2 ^ width - 1 then
        (field w low (width + 1) : Int) - 2 ^ (width + 1)
      else field w low (width + 1) := by
  have hlt : (field w low (width + 1) : Int) < 2 * (2 ^ width : Nat) := by
    have h := field_lt w low (width + 1)
    rw [pow_succ] at h
    omega
  have hbmod := bmod_eq_ite (Int.natCast_nonneg (field w low (width + 1))) hlt
  rw [signedField, pow_succ, Nat.mul_comm, hbmod]
  push_cast
  rw [pow_succ, mul_comm]

theorem signedField_bounds (w : UInt16) (low width : Nat) :
    -2 ^ width ≤ signedField w low (width + 1) ∧ signedField w low (width + 1) < 2 ^ width := by
  have hlt := field_lt w low (width + 1)
  rw [pow_succ] at hlt
  have hint : (field w low (width + 1) : Int) < 2 ^ width * 2 := by exact_mod_cast hlt
  rw [signedField_eq_ite, pow_succ]
  split <;> omega

end Mlx90640.Lib.BitField
