import Mlx90640.Display.Numbers
import Mathlib.Data.List.Sort
import Mathlib.Algebra.Order.Floor.Semifield

/-!
# The readout of a temperature

`thread1_entry` shows a temperature in two parts: its two decimals with the point at column
325, and then its whole part, two digits wide, at column 300.
-/
namespace Mlx90640.Display.Readout

open Mlx90640.Calibration
open Mlx90640.Calibration.Extract
open Mlx90640.Calibration.Decoding
open Mlx90640.Display.Glyphs
open Mlx90640.Display.Font
open Mlx90640.Display.Numbers

section Code

variable {F : Type} [Mul F] [Div F] [CFloat F]

/-- `LCD_ShowFloatNum1(325, y, T, 2, BLACK, BLACK, 24)` and
`LCD_ShowIntNum(300, y, T, 2, BLACK, BLACK, 24)`. -/
def showTemperature (fonts : Fonts) (y : UInt16) (temperature : F) : Option (List Call) := do
  let decimals ← showFloatNum1 fonts 325 y temperature 2 BLACK BLACK 24
  let whole ← showIntNum fonts 300 y temperature 2 BLACK BLACK 24
  return decimals ++ whole

end Code

/-- The calls for the temperature `whole`, of which the last two digits are shown, with the
decimals of `hundredths`. -/
def readoutCalls (y : UInt16) (hundredths whole : Nat) : List Call :=
  clearBox 325 y ++ text fonts 325 y BLACK BLACK 24 (floatChar hundredths 2) [0, 1, 2] ++
    text fonts 300 y BLACK BLACK 24 (intChar (whole % 100) 2) [0, 1]

theorem showTemperature_eq {F : Type} [Mul F] [Div F] [CFloat F] (y : UInt16) (temperature : F) :
    showTemperature fonts y temperature =
      some (readoutCalls y (toUInt16 (temperature * ofInt 100)).toNat
        (toUInt16 (temperature * ofInt 100 / ofInt 100)).toNat) := by
  have hlen : (2 : UInt8).toNat ≤ 32 := by decide
  have hdecimals := showFloatDigits_eq fonts 325 y (toUInt16 (temperature * ofInt 100)) BLACK BLACK 24
    hlen 0 (t := 0) rfl
  have hwhole := showIntDigits_all fonts 300 y (toUInt16 (temperature * ofInt 100 / ofInt 100)) BLACK
    BLACK 24 hlen
  simp only [showTemperature, showFloatNum1, showIntNum]
  rw [hdecimals, hwhole]
  rfl

/-- The characters of a line, ordered by column. -/
def leftToRight (calls : List Call) : List UInt8 :=
  ((characters calls).insertionSort fun a b => a.1.toNat ≤ b.1.toNat).map fun char => char.2.2

def digitValue (char : UInt8) : Option Nat :=
  if 48 ≤ char.toNat ∧ char.toNat ≤ 57 then some (char.toNat - 48) else none

/-- The value of digits, most significant one first. -/
def digitsValue (chars : List UInt8) : Option Nat :=
  chars.foldl (fun value char => value.bind fun value =>
    (digitValue char).map fun digit => 10 * value + digit) (some 0)

/-- The value of a decimal numeral behind blanks. -/
def numeralValue (chars : List UInt8) : Option ℚ := do
  let numeral := chars.dropWhile (· = 0x20)
  let whole ← digitsValue (numeral.takeWhile (· ≠ 0x2E))
  let decimals := (numeral.dropWhile (· ≠ 0x2E)).drop 1
  let fraction ← digitsValue decimals
  return (whole : ℚ) + (fraction : ℚ) / 10 ^ decimals.length

/-- A digit as a character of a numeral. -/
structure IsDigit (char : UInt8) (d : Nat) : Prop where
  value : digitValue char = some d
  notBlank : char ≠ 0x20
  notPoint : char ≠ 0x2E

theorem isDigit_ofNat {d : Nat} (h : d < 10) : IsDigit (UInt8.ofNat d + 48) d := by
  have hall : ∀ d < 10, digitValue (UInt8.ofNat d + 48) = some d ∧
      UInt8.ofNat d + 48 ≠ 0x20 ∧ UInt8.ofNat d + 48 ≠ 0x2E := by
    decide
  exact ⟨(hall d h).1, (hall d h).2.1, (hall d h).2.2⟩

theorem isDigit_digitChar (n place : Nat) : IsDigit (digitChar n place) (n / 10 ^ place % 10) :=
  isDigit_ofNat (Nat.mod_lt _ (by decide))

section Numeral

variable {units tenths hundredths : UInt8} {u t h : Nat} (hu : IsDigit units u)
  (ht : IsDigit tenths t) (hh : IsDigit hundredths h)
include hu ht hh

theorem numeralValue_blank :
    numeralValue [0x20, units, 0x2E, tenths, hundredths] =
      some ((u : ℚ) + (10 * t + h : ℚ) / 100) := by
  simp [numeralValue, digitsValue, hu.value, ht.value, hh.value, hu.notBlank, hu.notPoint]
  norm_num

theorem numeralValue_digit {tens : UInt8} {d : Nat} (hd : IsDigit tens d) :
    numeralValue [tens, units, 0x2E, tenths, hundredths] =
      some ((10 * d + u : ℚ) + (10 * t + h : ℚ) / 100) := by
  simp [numeralValue, digitsValue, hd.value, hu.value, ht.value, hh.value, hd.notBlank, hd.notPoint,
    hu.notPoint]
  norm_num

end Numeral

/-- The value of the five characters of a readout. -/
theorem numeralValue_readout (whole hundredths : Nat) :
    numeralValue [intChar (whole % 100) 2 0, intChar (whole % 100) 2 1, 0x2E,
      digitChar hundredths 1, digitChar hundredths 0] =
        some (((whole % 100 : Nat) : ℚ) + ((hundredths % 100 : Nat) : ℚ) / 100) := by
  have hunits : intChar (whole % 100) 2 1 = digitChar (whole % 100) 0 := by
    rw [intChar, if_neg (by omega)]
  have hfraction : (hundredths % 100 : Nat) =
      10 * (hundredths / 10 ^ 1 % 10) + hundredths / 10 ^ 0 % 10 := by omega
  rw [hunits, hfraction]
  by_cases hzero : whole % 100 / 10 ^ 1 = 0
  · have hblank : intChar (whole % 100) 2 0 = 0x20 := by
      rw [intChar, if_pos ⟨by decide, hzero⟩]
    have hvalue : (whole % 100 : Nat) = whole % 100 / 10 ^ 0 % 10 := by omega
    rw [hblank, numeralValue_blank (isDigit_digitChar _ _) (isDigit_digitChar _ _)
      (isDigit_digitChar _ _), ← hvalue]
    push_cast
    rfl
  · have htens : intChar (whole % 100) 2 0 = digitChar (whole % 100) 1 := by
      rw [intChar, if_neg fun h => hzero h.2]
    have hvalue : ((whole % 100 : Nat) : ℚ) =
        10 * (whole % 100 / 10 ^ 1 % 10 : Nat) + (whole % 100 / 10 ^ 0 % 10 : Nat) := by
      have : whole % 100 = 10 * (whole % 100 / 10 ^ 1 % 10) + whole % 100 / 10 ^ 0 % 10 := by omega
      exact_mod_cast this
    rw [htens, numeralValue_digit (isDigit_digitChar _ _) (isDigit_digitChar _ _)
      (isDigit_digitChar _ _) (isDigit_digitChar _ _), hvalue]
    push_cast
    rfl

theorem characters_readout {y : UInt16} (hy : y.toNat + 24 ≤ 65535) (hundredths whole : Nat) :
    characters (readoutCalls y hundredths whole) =
      [(325, y, 0x2E), (337, y, digitChar hundredths 1), (349, y, digitChar hundredths 0),
        (300, y, intChar (whole % 100) 2 0), (312, y, intChar (whole % 100) 2 1)] := by
  rw [readoutCalls, characters_append, characters_append, characters_clearBox,
    characters_text fonts isSize_24 BLACK BLACK hy _ (by decide),
    characters_text fonts isSize_24 BLACK BLACK hy _ (by decide)]
  rfl

theorem leftToRight_readout {y : UInt16} (hy : y.toNat + 24 ≤ 65535) (hundredths whole : Nat) :
    leftToRight (readoutCalls y hundredths whole) =
      [intChar (whole % 100) 2 0, intChar (whole % 100) 2 1, 0x2E, digitChar hundredths 1,
        digitChar hundredths 0] := by
  rw [leftToRight, characters_readout hy]
  rfl

theorem mem_decimals {y : UInt16} (hy : y.toNat + 24 ≤ 65535) {char : Nat → UInt8} {px py : Nat}
    {color : UInt16} (h : .pixel px py color ∈ text fonts 325 y BLACK BLACK 24 char [0, 1, 2]) :
    ∃ k ∈ [0, 1, 2], ∃ c < 12, ∃ r < 24, fonts.bit 24 (char k - 0x20) c r ∧
      px = 325 + k * 12 + c ∧ py = y.toNat + r ∧ color = BLACK :=
  mem_text_pixel fonts isSize_24 BLACK BLACK hy char (by decide) h

theorem mem_whole {y : UInt16} (hy : y.toNat + 24 ≤ 65535) {char : Nat → UInt8} {px py : Nat}
    {color : UInt16} (h : .pixel px py color ∈ text fonts 300 y BLACK BLACK 24 char [0, 1]) :
    ∃ k ∈ [0, 1], ∃ c < 12, ∃ r < 24, fonts.bit 24 (char k - 0x20) c r ∧
      px = 300 + k * 12 + c ∧ py = y.toNat + r ∧ color = BLACK :=
  mem_text_pixel fonts isSize_24 BLACK BLACK hy char (by decide) h

/-- Every character of a readout is seen once the readout is complete. -/
def Legible (calls : List Call) : Prop :=
  ∀ x y num, (x, y, num) ∈ characters calls → Shows fonts calls x.toNat y.toNat num BLACK 24

theorem readout_legible {y : UInt16} (hy : y.toNat + 24 ≤ 65535) (hundredths whole : Nat) :
    Legible (readoutCalls y hundredths whole) := by
  have hdecimals : ∀ k ∈ [0, 1, 2], Shows fonts (readoutCalls y hundredths whole) (325 + k * 12)
      y.toNat (floatChar hundredths 2 k) BLACK 24 := by
    intro k hk
    refine Shows.append (Shows.prepend (shows_text fonts isSize_24 BLACK BLACK hy _ (by decide) hk)
      (by decide) ?_) ?_
    · intro c hc r color hbox
      exact ((mem_clearBox (by simp at hk hc; omega)).mp hbox).2.2.2.2
    · intro c hc r color hmem
      obtain ⟨j, hj, c', hc', -, -, -, hx, -, -⟩ := mem_whole hy hmem
      simp at hj
      omega
  have hwhole : ∀ k ∈ [0, 1], Shows fonts (readoutCalls y hundredths whole) (300 + k * 12)
      y.toNat (intChar (whole % 100) 2 k) BLACK 24 := by
    intro k hk
    refine Shows.prepend (shows_text fonts isSize_24 BLACK BLACK hy _ (by decide) hk) (by decide) ?_
    intro c hc r color hmem
    have hc : c < 12 := hc
    simp at hk
    rcases List.mem_append.mp hmem with hbox | htext
    · exact ((mem_clearBox (by omega)).mp hbox).2.2.2.2
    · obtain ⟨j, -, c', -, -, -, -, hx, -, -⟩ := mem_decimals hy htext
      omega
  intro x y' num hmem
  rw [characters_readout hy] at hmem
  simp only [List.mem_cons, List.not_mem_nil, or_false, Prod.mk.injEq] at hmem
  rcases hmem with ⟨rfl, rfl, rfl⟩ | ⟨rfl, rfl, rfl⟩ | ⟨rfl, rfl, rfl⟩ | ⟨rfl, rfl, rfl⟩ | ⟨rfl, rfl, rfl⟩
  · exact hdecimals 0 (by decide)
  · exact hdecimals 1 (by decide)
  · exact hdecimals 2 (by decide)
  · exact hwhole 0 (by decide)
  · exact hwhole 1 (by decide)

/-- The readout reads as the temperature, cut off after two decimals. -/
def ReadsAs (y : UInt16) (temperature : ℚ) : Prop :=
  ∃ calls, showTemperature fonts y temperature = some calls ∧ Legible calls ∧
    numeralValue (leftToRight calls) = some ((⌊100 * temperature⌋ : ℚ) / 100)

theorem readsAs_iff {y : UInt16} (hy : y.toNat + 24 ≤ 65535) {temperature : ℚ}
    (h0 : 0 ≤ temperature) (h400 : temperature ≤ 400) : ReadsAs y temperature ↔ temperature < 100 := by
  have hhundred : ⌊100 * temperature⌋₊ < 65536 := by
    rw [Nat.floor_lt (by positivity)]
    push_cast
    linarith
  have hwhole : ⌊temperature⌋₊ < 65536 := by
    rw [Nat.floor_lt h0]
    push_cast
    linarith
  have hdiv : ⌊temperature⌋₊ = ⌊100 * temperature⌋₊ / 100 := by
    have := Nat.floor_div_natCast (100 * temperature) 100
    rwa [Nat.cast_ofNat, mul_div_cancel_left₀ _ (by norm_num)] at this
  have hcast : (⌊100 * temperature⌋ : ℚ) = (⌊100 * temperature⌋₊ : ℚ) := by
    rw [← Int.natCast_floor_eq_floor (by positivity : 0 ≤ 100 * temperature), Int.cast_natCast]
  have hsmall : temperature < 100 ↔ ⌊temperature⌋₊ < 100 := (Nat.floor_lt h0).symm
  have hshown := showTemperature_eq y temperature
  rw [toUInt16_hundredths h0 hhundred, toUInt16_whole h0 hwhole] at hshown
  -- the numeral is the temperature without its hundreds
  have hvalue : numeralValue (leftToRight (readoutCalls y ⌊100 * temperature⌋₊ ⌊temperature⌋₊)) =
      some (((⌊100 * temperature⌋₊ / 100 % 100 : Nat) : ℚ) +
        ((⌊100 * temperature⌋₊ % 100 : Nat) : ℚ) / 100) := by
    rw [leftToRight_readout hy, numeralValue_readout, hdiv]
  have hsplit : (⌊100 * temperature⌋₊ : ℚ) / 100 =
      ((⌊100 * temperature⌋₊ / 100 : Nat) : ℚ) + ((⌊100 * temperature⌋₊ % 100 : Nat) : ℚ) / 100 := by
    have : (⌊100 * temperature⌋₊ : ℚ) = 100 * (⌊100 * temperature⌋₊ / 100 : Nat) +
        (⌊100 * temperature⌋₊ % 100 : Nat) := by
      exact_mod_cast (Nat.div_add_mod ⌊100 * temperature⌋₊ 100).symm
    linarith
  have hequal : ((⌊100 * temperature⌋₊ / 100 % 100 : Nat) : ℚ) =
      ((⌊100 * temperature⌋₊ / 100 : Nat) : ℚ) ↔ ⌊100 * temperature⌋₊ / 100 < 100 := by
    rw [Nat.cast_inj]
    omega
  rw [hsmall, hdiv, ← hequal]
  constructor
  · intro h
    obtain ⟨calls, hcalls, -, hreads⟩ := h
    obtain rfl := Option.some.inj (hshown.symm.trans hcalls)
    rw [hvalue, hcast, hsplit, Option.some.injEq] at hreads
    exact add_right_cancel hreads
  · intro hsame
    refine ⟨_, hshown, readout_legible hy _ _, ?_⟩
    rw [hvalue, hcast, hsplit, hsame]

/-- The readout of a temperature that the sensor is made for reads as the temperature
exactly when it has no hundreds. -/
theorem readout_correct_iff (y : UInt16) (hy : y = 320 ∨ y = 5) (temperature : ℚ)
    (h0 : 0 ≤ temperature) (h400 : temperature ≤ 400) : ReadsAs y temperature ↔ temperature < 100 := by
  refine readsAs_iff ?_ h0 h400
  obtain rfl | rfl := hy <;> decide

/-- 36.6 degrees at the place of the maximum. -/
theorem readout_correct_body_temperature : ReadsAs 320 (366 / 10 : ℚ) :=
  (readout_correct_iff 320 (Or.inl rfl) (366 / 10) (by norm_num) (by norm_num)).mpr (by norm_num)

/-- 105 degrees reads as 5.00. -/
theorem readout_drops_hundreds : ¬ ReadsAs 320 (105 : ℚ) := by
  rw [readsAs_iff (by decide) (by norm_num) (by norm_num)]
  norm_num

end Mlx90640.Display.Readout
