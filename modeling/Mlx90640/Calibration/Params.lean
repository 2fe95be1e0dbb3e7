import Mathlib.Algebra.Order.Floor.Ring
import Mathlib.Data.Rat.Floor
import Mathlib.Data.Rat.Cast.Order

/-!
# Float arithmetic and the calibration record

The C code computes in `float` and `double`. The model is generic in one number type `F`
for both, with the operations the code uses and no laws: what is proved for every `F`
holds for any rounding. Read over a linearly ordered field the same definitions are exact
arithmetic. Narrowing a number to an integer type truncates towards zero; C leaves the
result open when it is out of range, and the exact reading then wraps.
-/
namespace Mlx90640.Calibration

/-- Float literals and converted integers. -/
class FloatLit (F : Type) where
  lit : ℚ → F

export FloatLit (lit)

class CFloat (F : Type) extends FloatLit F where
  fabs : F → F
  /-- `pow(2, (double)n)` -/
  pow2 : Nat → F
  toUInt16 : F → UInt16
  toInt8 : F → Int8

export CFloat (fabs pow2 toUInt16 toInt8)

/-- Truncation towards zero. -/
def truncate {K : Type} [Field K] [LinearOrder K] [FloorRing K] (x : K) : Int :=
  if 0 ≤ x then ⌊x⌋ else ⌈x⌉

section Exact

variable {K : Type} [Field K] [LinearOrder K]

instance exactLit : FloatLit K where
  lit q := (q : K)

instance exactFloat [FloorRing K] : CFloat K where
  fabs x := |x|
  pow2 n := 2 ^ n
  toUInt16 x := UInt16.ofInt (truncate x)
  toInt8 x := Int8.ofInt (truncate x)

end Exact

/-! The sizes of the small arrays, for literals as their indices. -/

scoped instance neZeroTwo : NeZero 2 := ⟨by decide⟩

scoped instance neZeroThree : NeZero 3 := ⟨by decide⟩

scoped instance neZeroFour : NeZero 4 := ⟨by decide⟩

scoped instance neZeroFive : NeZero 5 := ⟨by decide⟩

/-- `paramsMLX90640`; an array of `n` elements is a function on `Fin n`. -/
structure ParamsMLX90640 (F : Type) where
  kVdd : Int16
  vdd25 : Int16
  kvPTAT : F
  ktPTAT : F
  vPTAT25 : UInt16
  alphaPTAT : F
  gainEE : Int16
  tgc : F
  cpKv : F
  cpKta : F
  resolutionEE : UInt8
  calibrationModeEE : UInt8
  ksTa : F
  ksTo : Fin 5 → F
  ct : Fin 5 → Int16
  alpha : Fin 768 → UInt16
  alphaScale : UInt8
  offset : Fin 768 → Int16
  kta : Fin 768 → Int8
  ktaScale : UInt8
  kv : Fin 768 → Int8
  kvScale : UInt8
  cpAlpha : Fin 2 → F
  cpOffset : Fin 2 → Int16
  ilChessC : Fin 3 → F
  brokenPixels : Fin 5 → UInt16
  outlierPixels : Fin 5 → UInt16
deriving Inhabited

/-- The 832 EEPROM words; nothing is read past the last. -/
abbrev EEPROM := Nat → UInt16

end Mlx90640.Calibration
