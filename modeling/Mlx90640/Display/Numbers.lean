import Mlx90640.Display.Font
import Mlx90640.Lib.Journal
import Mlx90640.Calibration.Decoding

/-!
# Numbers

`LCD_ShowIntNum` and `LCD_ShowFloatNum1` split a number into decimal digits by dividing by
powers of ten, which `mypow` computes modulo 2^32. A division by zero makes the model answer
`none`. The loop of `LCD_ShowFloatNum1` changes its own counter and its own bound when it
comes to the point, and paints a white box there before it goes on.
-/
namespace Mlx90640.Display.Numbers

open Mlx90640.Calibration
open Mlx90640.Calibration.Extract
open Mlx90640.Calibration.Decoding
open Mlx90640.Display.Glyphs
open Mlx90640.Display.Font
open Mlx90640.Lib.Journal

def WHITE : UInt16 := 0xFFFF
def BLACK : UInt16 := 0x0000

/-- `while(n--) result *= m;` -/
def mypow (m n : UInt8) : UInt32 :=
  Nat.fold n.toNat (fun _ _ result => result * m.toUInt32) 1

/-- `(num1 / mypow(10, n)) % 10` -/
def digit (num1 : UInt16) (n : UInt8) : Option UInt8 :=
  let divisor := mypow 10 n
  if divisor = 0 then none else some (num1.toUInt32 / divisor % 10).toUInt8

/-- The conversion of an `int` to the `uint32_t` of `lcd_draw_pixel`. -/
def toUInt32 (n : Int) : Nat := (n % 2 ^ 32).toNat

/-- The two loops that paint the box, columns `x - 40` to `x + 44`, rows `y + 25` to `y + 1`. -/
def clearBox (x y : UInt16) : List Call :=
  (List.range 85).flatMap fun (col : Nat) => (List.range 25).map fun row =>
    .pixel (toUInt32 ((x.toNat : Int) - 40 + col)) (y.toNat + 25 - row) WHITE

/-- `x + t * sizex`, narrowed to the `uint16_t` of `LCD_ShowChar`. -/
def cell (x : UInt16) (sizey : UInt8) (t : Nat) : UInt16 :=
  UInt16.ofNat (x.toNat + t * (sizey / 2).toNat)

/-- The loop of `LCD_ShowFloatNum1`. -/
def showFloatDigits (fonts : Fonts) (x y num1 fc bc : UInt16) (sizey t len : UInt8) :
    Option (List Call) :=
  if t < len then do
    let temp ← digit num1 (len - t - 1)
    if (t.toNat : Int) = len.toNat - 2 then
      let point := showChar fonts (cell x sizey (len.toNat - 2)) y 0x2E fc bc sizey 1
      let glyph := showChar fonts (cell x sizey (t + 1).toNat) y (temp + 48) fc bc sizey 1
      let rest ← showFloatDigits fonts x y num1 fc bc sizey (t + 1 + 1) (len + 1)
      return clearBox x y ++ point ++ glyph ++ rest
    else
      let glyph := showChar fonts (cell x sizey t.toNat) y (temp + 48) fc bc sizey 1
      let rest ← showFloatDigits fonts x y num1 fc bc sizey (t + 1) len
      return glyph ++ rest
  else some []
termination_by len.toNat - t.toNat
decreasing_by
  · simp only [UInt8.toNat_add, UInt8.toNat_one]
    omega
  · have ht : t.toNat < len.toNat := by assumption
    have hlen := len.toNat_lt
    simp only [UInt8.toNat_add, UInt8.toNat_one]
    omega

/-- The loop of `LCD_ShowIntNum` with `left` passes to go. -/
def showIntDigits (fonts : Fonts) (x y num1 fc bc : UInt16) (sizey len : UInt8) :
    Nat → Bool → Option (List Call)
  | 0, _ => some []
  | left + 1, enshow => do
    let t := len - UInt8.ofNat (left + 1)
    let temp ← digit num1 (len - t - 1)
    if !enshow ∧ (t.toNat : Int) < len.toNat - 1 then
      if temp = 0 then
        let glyph := showChar fonts (cell x sizey t.toNat) y 0x20 fc bc sizey 1
        let rest ← showIntDigits fonts x y num1 fc bc sizey len left enshow
        return glyph ++ rest
      else
        let glyph := showChar fonts (cell x sizey t.toNat) y (temp + 48) fc bc sizey 1
        let rest ← showIntDigits fonts x y num1 fc bc sizey len left true
        return glyph ++ rest
    else
      let glyph := showChar fonts (cell x sizey t.toNat) y (temp + 48) fc bc sizey 1
      let rest ← showIntDigits fonts x y num1 fc bc sizey len left enshow
      return glyph ++ rest

section Code

variable {F : Type} [Mul F] [Div F] [CFloat F]

/-- `LCD_ShowFloatNum1`. -/
def showFloatNum1 (fonts : Fonts) (x y : UInt16) (num : F) (len : UInt8) (fc bc : UInt16)
    (sizey : UInt8) : Option (List Call) :=
  let num1 := toUInt16 (num * ofInt 100)
  showFloatDigits fonts x y num1 fc bc sizey 0 len

/-- `LCD_ShowIntNum`. -/
def showIntNum (fonts : Fonts) (x y : UInt16) (num : F) (len : UInt8) (fc bc : UInt16)
    (sizey : UInt8) : Option (List Call) :=
  let num1 := toUInt16 (num * ofInt 100 / ofInt 100)
  showIntDigits fonts x y num1 fc bc sizey len len.toNat false

end Code

theorem mypow_toNat (m n : UInt8) : (mypow m n).toNat = m.toNat ^ n.toNat % 2 ^ 32 := by
  have hpow : ∀ k : Nat, (Nat.fold k (fun _ _ result => result * m.toUInt32) (1 : UInt32)).toNat =
      m.toNat ^ k % 2 ^ 32 := by
    intro k
    induction k with
    | zero => rfl
    | succ k ih =>
      rw [Nat.fold_succ, UInt32.toNat_mul, ih, UInt8.toNat_toUInt32, Nat.pow_succ]
      exact Nat.mod_mul_mod _ _ _
  exact hpow n.toNat

/-- A power of ten that wraps stays above every 16-bit number, up to the exponent 31. -/
theorem wrapped_power : ∀ n < 32, 10 ^ n % 2 ^ 32 = 10 ^ n ∨
    65535 < 10 ^ n % 2 ^ 32 ∧ 65535 < 10 ^ n := by
  decide

/-- Wrapped or not, the power of ten extracts the digit. -/
theorem digit_eq (num1 : UInt16) {n : UInt8} (hn : n.toNat < 32) :
    digit num1 n = some (UInt8.ofNat (num1.toNat / 10 ^ n.toNat % 10)) := by
  have hlt := num1.toNat_lt
  have hpow : (mypow 10 n).toNat = 10 ^ n.toNat % 2 ^ 32 := mypow_toNat 10 n
  have hpos : 0 < 10 ^ n.toNat := Nat.pow_pos (by decide)
  have hdiv : num1.toNat / (10 ^ n.toNat % 2 ^ 32) = num1.toNat / 10 ^ n.toNat ∧
      10 ^ n.toNat % 2 ^ 32 ≠ 0 := by
    rcases wrapped_power n.toNat hn with hsmall | ⟨hwrapped, hbig⟩
    · rw [hsmall]
      exact ⟨rfl, hpos.ne'⟩
    · rw [Nat.div_eq_of_lt (by omega), Nat.div_eq_of_lt (by omega)]
      exact ⟨rfl, by omega⟩
  have hne : mypow 10 n ≠ 0 := by
    intro hzero
    apply hdiv.2
    rw [← hpow, hzero]
    rfl
  rw [digit, if_neg hne]
  congr 1
  apply UInt8.toNat_inj.mp
  rw [UInt32.toNat_toUInt8, UInt32.toNat_mod, UInt32.toNat_div, UInt16.toNat_toUInt32, hpow, hdiv.1]
  rfl

/-- The digit of `n` at a decimal place. -/
def digitChar (n place : Nat) : UInt8 := UInt8.ofNat (n / 10 ^ place % 10) + 48

/-- The characters of a number with two decimals, over `len + 1` cells. -/
def floatChar (n len k : Nat) : UInt8 :=
  if k + 2 < len then digitChar n (len - 1 - k)
  else if k + 2 = len then 0x2E else digitChar n (len - k)

/-- The characters of a whole number over `len` cells: zeros before the first other digit are
blank, except in the last cell. -/
def intChar (n len k : Nat) : UInt8 :=
  if k + 1 < len ∧ n / 10 ^ (len - 1 - k) = 0 then 0x20 else digitChar n (len - 1 - k)

theorem exponent_toNat {t len : UInt8} (h : t.toNat < len.toNat) :
    (len - t - 1).toNat = len.toNat - 1 - t.toNat := by
  have hlen := len.toNat_lt
  rw [UInt8.toNat_sub, UInt8.toNat_sub, UInt8.toNat_one]
  omega

section Loops

variable (fonts : Fonts) (x y num1 fc bc : UInt16) (sizey : UInt8)

/-- Characters side by side, in the cells `ks`. -/
def text (char : Nat → UInt8) (ks : List Nat) : List Call :=
  ks.flatMap fun k => showChar fonts (cell x sizey k) y (char k) fc bc sizey 1

theorem text_cons (char : Nat → UInt8) (k : Nat) (ks : List Nat) :
    text fonts x y fc bc sizey char (k :: ks) =
      showChar fonts (cell x sizey k) y (char k) fc bc sizey 1 ++
        text fonts x y fc bc sizey char ks := rfl

theorem showFloatDigits_plain {t len : UInt8} (hlt : t.toNat < len.toNat)
    (hplain : t.toNat + 2 ≠ len.toNat) (hexp : len.toNat - 1 - t.toNat < 32) :
    showFloatDigits fonts x y num1 fc bc sizey t len =
      (showFloatDigits fonts x y num1 fc bc sizey (t + 1) len).map
        (showChar fonts (cell x sizey t.toNat) y (digitChar num1.toNat (len.toNat - 1 - t.toNat)) fc bc
          sizey 1 ++ ·) := by
  have hpoint : ¬ (t.toNat : Int) = len.toNat - 2 := by omega
  rw [showFloatDigits, if_pos (UInt8.lt_iff_toNat_lt.mpr hlt),
    digit_eq num1 (by rwa [exponent_toNat hlt]), exponent_toNat hlt]
  simp only [Option.bind_eq_bind, Option.bind_some, if_neg hpoint]
  rw [Option.map_eq_bind]
  rfl

theorem showFloatDigits_end {t len : UInt8} (h : len.toNat ≤ t.toNat) :
    showFloatDigits fonts x y num1 fc bc sizey t len = some [] := by
  rw [showFloatDigits, if_neg]
  rw [UInt8.lt_iff_toNat_lt]
  omega

/-- The pass that comes to the point: it steps over a cell and moves the bound. -/
theorem showFloatDigits_point {t len : UInt8} (h : t.toNat + 2 = len.toNat) :
    showFloatDigits fonts x y num1 fc bc sizey t len =
      (showFloatDigits fonts x y num1 fc bc sizey (t + 1 + 1) (len + 1)).map
        (clearBox x y ++ showChar fonts (cell x sizey (len.toNat - 2)) y 0x2E fc bc sizey 1 ++
          showChar fonts (cell x sizey (t + 1).toNat) y (digitChar num1.toNat 1) fc bc sizey 1 ++ ·) := by
  have hlt : t.toNat < len.toNat := by omega
  have hpoint : (t.toNat : Int) = len.toNat - 2 := by omega
  have hexp : (len - t - 1).toNat = 1 := by
    rw [exponent_toNat hlt]
    omega
  rw [showFloatDigits, if_pos (UInt8.lt_iff_toNat_lt.mpr hlt), digit_eq num1 (by omega), hexp]
  simp only [Option.bind_eq_bind, Option.bind_some, if_pos hpoint]
  rw [Option.map_eq_bind]
  rfl

/-- The three cells from the point on. -/
theorem showFloatDigits_decimals {t len : UInt8} (h : t.toNat + 2 = len.toNat)
    (hlen : len.toNat ≤ 32) :
    showFloatDigits fonts x y num1 fc bc sizey t len =
      some (clearBox x y ++ text fonts x y fc bc sizey (floatChar num1.toNat len.toNat)
        [len.toNat - 2, len.toNat - 1, len.toNat]) := by
  have hone : (t + 1).toNat = len.toNat - 1 := by
    rw [UInt8.toNat_add, UInt8.toNat_one]
    omega
  have htwo : (t + 1 + 1).toNat = len.toNat := by
    rw [UInt8.toNat_add, UInt8.toNat_one, hone]
    omega
  have hgrown : (len + 1).toNat = len.toNat + 1 := by
    rw [UInt8.toNat_add, UInt8.toNat_one]
    omega
  have hthree : (t + 1 + 1 + 1).toNat = len.toNat + 1 := by
    rw [UInt8.toNat_add, UInt8.toNat_one, htwo]
    omega
  have hzero : (len + 1).toNat - 1 - (t + 1 + 1).toNat = 0 := by omega
  have hchars : floatChar num1.toNat len.toNat (len.toNat - 2) = 0x2E ∧
      floatChar num1.toNat len.toNat (len.toNat - 1) = digitChar num1.toNat 1 ∧
      floatChar num1.toNat len.toNat len.toNat = digitChar num1.toNat 0 := by
    have hplace : len.toNat - (len.toNat - 1) = 1 := by omega
    refine ⟨?_, ?_, ?_⟩
    · rw [floatChar, if_neg (by omega), if_pos (by omega)]
    · rw [floatChar, if_neg (by omega), if_neg (by omega), hplace]
    · rw [floatChar, if_neg (by omega), if_neg (by omega), Nat.sub_self]
  rw [showFloatDigits_point fonts x y num1 fc bc sizey h,
    showFloatDigits_plain fonts x y num1 fc bc sizey (by omega) (by omega) (by omega),
    showFloatDigits_end fonts x y num1 fc bc sizey (by omega), hone, hzero, htwo]
  simp only [Option.map_some, text, List.flatMap_cons, List.flatMap_nil, hchars, List.append_nil,
    List.append_assoc]

/-- The whole loop, from any cell before the point. -/
theorem showFloatDigits_eq {len : UInt8} (hlen : len.toNat ≤ 32) (left : Nat) {t : UInt8}
    (ht : t.toNat + left + 2 = len.toNat) :
    showFloatDigits fonts x y num1 fc bc sizey t len =
      some (text fonts x y fc bc sizey (floatChar num1.toNat len.toNat) (List.range' t.toNat left) ++
        clearBox x y ++ text fonts x y fc bc sizey (floatChar num1.toNat len.toNat)
          [len.toNat - 2, len.toNat - 1, len.toNat]) := by
  induction left generalizing t with
  | zero => exact showFloatDigits_decimals fonts x y num1 fc bc sizey ht hlen
  | succ left ih =>
    have hnext : (t + 1).toNat = t.toNat + 1 := by
      rw [UInt8.toNat_add, UInt8.toNat_one]
      omega
    have hchar : floatChar num1.toNat len.toNat t.toNat =
        digitChar num1.toNat (len.toNat - 1 - t.toNat) := by
      rw [floatChar, if_pos (by omega)]
    rw [showFloatDigits_plain fonts x y num1 fc bc sizey (by omega) (by omega) (by omega),
      ih (by omega), List.range'_succ, text_cons fonts x y fc bc sizey _ t.toNat, hchar, hnext]
    simp only [Option.map_some, List.append_assoc]

theorem mod_pow_div (n : Nat) {len place : Nat} (h : place < len) :
    n % 10 ^ len / 10 ^ place % 10 = n / 10 ^ place % 10 := by
  obtain ⟨k, rfl⟩ : ∃ k, len = place + (k + 1) := ⟨len - place - 1, by omega⟩
  rw [Nat.pow_add, Nat.mod_mul_right_div_self, Nat.pow_succ, Nat.mod_mul_left_mod]

theorem digitChar_mod (n : Nat) {len place : Nat} (h : place < len) :
    digitChar (n % 10 ^ len) place = digitChar n place := by
  rw [digitChar, mod_pow_div n h, digitChar]

/-- A number is zero from a place on when it is zero above the place and at the place. -/
theorem leading_zero_iff (n : Nat) {len place : Nat} (h : place < len) :
    n % 10 ^ len / 10 ^ place = 0 ↔
      n % 10 ^ len / 10 ^ (place + 1) = 0 ∧ n / 10 ^ place % 10 = 0 := by
  have hsplit : n % 10 ^ len / 10 ^ place =
      10 * (n % 10 ^ len / 10 ^ (place + 1)) + n / 10 ^ place % 10 := by
    rw [Nat.pow_succ, ← Nat.div_div_eq_div_mul, ← mod_pow_div n h]
    exact (Nat.div_add_mod _ _).symm
  omega

/-- One pass: the digit of its place, or a blank for a zero while nothing was shown before;
the last place is never blank. -/
theorem showIntDigits_pass {len : UInt8} (hlen : len.toNat ≤ 32) {left : Nat}
    (hleft : left + 1 ≤ len.toNat) (enshow : Bool) :
    showIntDigits fonts x y num1 fc bc sizey len (left + 1) enshow =
      (showIntDigits fonts x y num1 fc bc sizey len left
        (enshow || decide (0 < left ∧ num1.toNat / 10 ^ left % 10 ≠ 0))).map
        (showChar fonts (cell x sizey (len.toNat - (left + 1))) y
          (if enshow = false ∧ 0 < left ∧ num1.toNat / 10 ^ left % 10 = 0 then 0x20
            else digitChar num1.toNat left) fc bc sizey 1 ++ ·) := by
  have ht : (len - UInt8.ofNat (left + 1)).toNat = len.toNat - (left + 1) := by
    rw [UInt8.toNat_sub, UInt8.toNat_ofNat']
    omega
  have hexp : (len - (len - UInt8.ofNat (left + 1)) - 1).toNat = left := by
    rw [exponent_toNat (by omega), ht]
    omega
  have hinner : ((len.toNat - (left + 1) : Nat) : Int) < len.toNat - 1 ↔ 0 < left := by omega
  have hzero : UInt8.ofNat (num1.toNat / 10 ^ left % 10) = 0 ↔ num1.toNat / 10 ^ left % 10 = 0 := by
    rw [← UInt8.toNat_inj, UInt8.toNat_ofNat']
    change num1.toNat / 10 ^ left % 10 % 256 = 0 ↔ _
    omega
  rw [showIntDigits, digit_eq num1 (by omega), hexp, Option.map_eq_bind]
  simp only [Option.bind_eq_bind, Option.bind_some, ht, hinner, hzero]
  cases enshow with
  | true =>
    simp only [Bool.not_true, Bool.false_eq_true, Bool.true_eq_false, false_and, if_false, Bool.true_or]
    rfl
  | false =>
    simp only [Bool.not_false, true_and, Bool.false_or]
    by_cases hlast : 0 < left
    · by_cases hdigit : num1.toNat / 10 ^ left % 10 = 0
      · simp only [hlast, hdigit, if_true, and_self, ne_eq, not_true_eq_false, and_false,
          decide_false]
        rfl
      · simp only [hlast, hdigit, if_true, if_false, and_false, true_and, ne_eq, not_false_eq_true,
          decide_true]
        rfl
    · simp only [hlast, if_false, false_and, decide_false]
      rfl

/-- The loop of the whole number: once a digit other than zero was shown, the number from
there on is not zero. -/
theorem showIntDigits_eq {len : UInt8} (hlen : len.toNat ≤ 32) (left : Nat)
    (hleft : left ≤ len.toNat) (enshow : Bool)
    (henshow : enshow = decide (num1.toNat % 10 ^ len.toNat / 10 ^ left ≠ 0)) :
    showIntDigits fonts x y num1 fc bc sizey len left enshow =
      some (text fonts x y fc bc sizey (intChar (num1.toNat % 10 ^ len.toNat) len.toNat)
        (List.range' (len.toNat - left) left)) := by
  induction left generalizing enshow with
  | zero => rfl
  | succ left ih =>
    have hzero := leading_zero_iff num1.toNat (show left < len.toNat by omega)
    have hplace : len.toNat - 1 - (len.toNat - (left + 1)) = left := by omega
    have hrange : List.range' (len.toNat - (left + 1)) (left + 1) =
        (len.toNat - (left + 1)) :: List.range' (len.toNat - left) left := by
      rw [List.range'_succ]
      congr 2
      omega
    have hupper : enshow = false ↔ num1.toNat % 10 ^ len.toNat / 10 ^ (left + 1) = 0 := by
      simp [henshow]
    have hblank : (enshow = false ∧ 0 < left ∧ num1.toNat / 10 ^ left % 10 = 0) ↔
        len.toNat - (left + 1) + 1 < len.toNat ∧ num1.toNat % 10 ^ len.toNat / 10 ^ left = 0 := by
      rw [hzero, hupper]
      omega
    have hrest : showIntDigits fonts x y num1 fc bc sizey len left
        (enshow || decide (0 < left ∧ num1.toNat / 10 ^ left % 10 ≠ 0)) =
          some (text fonts x y fc bc sizey (intChar (num1.toNat % 10 ^ len.toNat) len.toNat)
            (List.range' (len.toNat - left) left)) := by
      cases left with
      | zero => rfl
      | succ left =>
        apply ih (by omega)
        rw [henshow, ← Bool.decide_or]
        apply decide_eq_decide.mpr
        omega
    rw [showIntDigits_pass fonts x y num1 fc bc sizey hlen hleft, hrest, hrange, text_cons, intChar,
      hplace, digitChar_mod num1.toNat (show left < len.toNat by omega)]
    simp only [hblank, Option.map_some]

theorem showIntDigits_all {len : UInt8} (hlen : len.toNat ≤ 32) :
    showIntDigits fonts x y num1 fc bc sizey len len.toNat false =
      some (text fonts x y fc bc sizey (intChar (num1.toNat % 10 ^ len.toNat) len.toNat)
        (List.range' 0 len.toNat)) := by
  have hnone : num1.toNat % 10 ^ len.toNat / 10 ^ len.toNat = 0 :=
    Nat.div_eq_of_lt (Nat.mod_lt _ (Nat.pow_pos (by decide)))
  rw [showIntDigits_eq fonts x y num1 fc bc sizey hlen len.toNat le_rfl false (by simp [hnone]),
    Nat.sub_self]

end Loops

/-- The characters that were shown, with their places, in order. -/
def characters (calls : List Call) : List (UInt16 × UInt16 × UInt8) :=
  calls.filterMap fun call => match call with
    | .character x y num => some (x, y, num)
    | _ => none

/-- The calls of `lcd_draw_pixel`, as a journal. -/
def pixels (calls : List Call) : List ((Nat × Nat) × UInt16) :=
  calls.filterMap fun call => match call with
    | .pixel x y color => some ((x, y), color)
    | _ => none

/-- The colour that a pixel was drawn in last. -/
def lastColour (calls : List Call) (x y : Nat) : Option UInt16 := latest (pixels calls) (x, y)

@[simp] theorem characters_append (calls rest : List Call) :
    characters (calls ++ rest) = characters calls ++ characters rest :=
  List.filterMap_append

@[simp] theorem pixels_append (calls rest : List Call) :
    pixels (calls ++ rest) = pixels calls ++ pixels rest :=
  List.filterMap_append

@[simp] theorem lastColour_append (calls rest : List Call) (x y : Nat) :
    lastColour (calls ++ rest) x y = (lastColour rest x y).or (lastColour calls x y) := by
  simp [lastColour]

theorem mem_characters {calls : List Call} {x y : UInt16} {num : UInt8} :
    (x, y, num) ∈ characters calls ↔ .character x y num ∈ calls := by
  simp only [characters, List.mem_filterMap]
  constructor
  · intro hfound
    obtain ⟨call, hcall, heq⟩ := hfound
    cases call with
    | character x' y' num' =>
      injection heq with heq
      injection heq with hx heq
      injection heq with hy hnum
      subst hx hy hnum
      exact hcall
    | lookup => cases heq
    | pixel => cases heq
  · intro h
    exact ⟨_, h, rfl⟩

theorem mem_pixels {calls : List Call} {x y : Nat} {color : UInt16} :
    ((x, y), color) ∈ pixels calls ↔ .pixel x y color ∈ calls := by
  simp only [pixels, List.mem_filterMap]
  constructor
  · intro hfound
    obtain ⟨call, hcall, heq⟩ := hfound
    cases call with
    | character => cases heq
    | lookup => cases heq
    | pixel x' y' color' =>
      injection heq with heq
      injection heq with hplace hcolor
      injection hplace with hx hy
      subst hx hy hcolor
      exact hcall
  · intro h
    exact ⟨_, h, rfl⟩

theorem lastColour_eq_none {calls : List Call} {x y : Nat}
    (h : ∀ color, .pixel x y color ∉ calls) : lastColour calls x y = none := by
  apply latest_eq_none
  rintro ⟨⟨x', y'⟩, color⟩ hmem heq
  obtain ⟨rfl, rfl⟩ : x' = x ∧ y' = y := by simpa using heq
  exact h color (mem_pixels.mp hmem)

theorem lastColour_mem {calls : List Call} {x y : Nat} {color : UInt16}
    (h : lastColour calls x y = some color) : .pixel x y color ∈ calls :=
  mem_pixels.mp (latest_mem h)

theorem lastColour_eq_some {calls : List Call} {x y : Nat} {color : UInt16}
    (hmem : .pixel x y color ∈ calls) (hall : ∀ color', .pixel x y color' ∈ calls → color' = color) :
    lastColour calls x y = some color := by
  apply latest_eq_some (mem_pixels.mpr hmem)
  rintro ⟨⟨x', y'⟩, color'⟩ hmem' heq
  obtain ⟨rfl, rfl⟩ : x' = x ∧ y' = y := by simpa using heq
  exact hall color' (mem_pixels.mp hmem')

theorem toUInt32_eq {n : Int} (h0 : 0 ≤ n) (h1 : n < 2 ^ 32) : (toUInt32 n : Int) = n := by
  rw [toUInt32, Int.emod_eq_of_lt h0 h1]
  omega

/-- The pixels of the box. -/
theorem mem_clearBox {x0 y0 : UInt16} {x y : Nat} {color : UInt16} (hx : x < 2 ^ 31) :
    .pixel x y color ∈ clearBox x0 y0 ↔
      x0.toNat ≤ x + 40 ∧ x < x0.toNat + 45 ∧ y0.toNat < y ∧ y ≤ y0.toNat + 25 ∧ color = WHITE := by
  have hx0 := x0.toNat_lt
  simp only [clearBox, List.mem_flatMap, List.mem_map, List.mem_range, Call.pixel.injEq]
  constructor
  · intro h
    obtain ⟨col, hcol, row, hrow, hcolumn, hline, hcolor⟩ := h
    by_cases hleft : (x0.toNat : Int) - 40 + col < 0
    · -- a negative column becomes a huge one
      exfalso
      rw [toUInt32] at hcolumn
      omega
    · have hexact := toUInt32_eq (n := (x0.toNat : Int) - 40 + col) (by omega) (by omega)
      exact ⟨by omega, by omega, by omega, by omega, hcolor.symm⟩
  · intro h
    obtain ⟨hlow, hhigh, htop, hbottom, hcolor⟩ := h
    refine ⟨x + 40 - x0.toNat, by omega, y0.toNat + 25 - y, by omega, ?_, by omega, hcolor.symm⟩
    have hexact := toUInt32_eq (n := (x0.toNat : Int) - 40 + (x + 40 - x0.toNat : Nat)) (by omega)
      (by omega)
    omega

theorem characters_clearBox (x0 y0 : UInt16) : characters (clearBox x0 y0) = [] := by
  apply List.eq_nil_iff_forall_not_mem.mpr
  rintro ⟨x, y, num⟩ hmem
  have hcall := mem_characters.mp hmem
  simp [clearBox] at hcall

theorem lastColour_clearBox (x0 y0 : UInt16) {x y : Nat} (hx : x < 2 ^ 31) :
    lastColour (clearBox x0 y0) x y =
      if x0.toNat ≤ x + 40 ∧ x < x0.toNat + 45 ∧ y0.toNat < y ∧ y ≤ y0.toNat + 25
      then some WHITE else none := by
  split
  case isTrue h =>
    apply lastColour_eq_some ((mem_clearBox hx).mpr ⟨h.1, h.2.1, h.2.2.1, h.2.2.2, rfl⟩)
    intro color hmem
    exact ((mem_clearBox hx).mp hmem).2.2.2.2
  case isFalse h =>
    apply lastColour_eq_none
    intro color hmem
    obtain ⟨hlow, hhigh, htop, hbottom, -⟩ := (mem_clearBox hx).mp hmem
    exact h ⟨hlow, hhigh, htop, hbottom⟩

section Seen

variable (fonts : Fonts) {sizey : UInt8} (hsize : IsSize sizey) (fc bc : UInt16)
include hsize

theorem characters_showChar {x0 y0 : UInt16} (num : UInt8)
    (hx0 : x0.toNat + (sizey / 2).toNat ≤ 65535) (hy0 : y0.toNat + sizey.toNat ≤ 65535) :
    characters (showChar fonts x0 y0 num fc bc sizey 1) = [(x0, y0, num)] := by
  have hnone : characters ((List.range (rowBytes (sizey / 2) * sizey.toNat)).flatMap
      (byteCalls fonts sizey (num - 0x20) x0 y0 fc)) = [] := by
    apply List.eq_nil_iff_forall_not_mem.mpr
    rintro ⟨x, y, n⟩ hmem
    obtain ⟨i, -, hi⟩ := List.mem_flatMap.mp (mem_characters.mp hmem)
    exact not_mem_byteCalls_character fonts hi
  rw [showChar_eq fonts num hsize (by decide) hx0 hy0 bc]
  change (x0, y0, num) :: characters _ = _
  rw [hnone]

/-- A dot of a character at (x0, y0). -/
theorem lastColour_showChar {x0 y0 : UInt16} (num : UInt8)
    (hx0 : x0.toNat + (sizey / 2).toNat ≤ 65535) (hy0 : y0.toNat + sizey.toNat ≤ 65535)
    {c r : Nat} (hc : c < (sizey / 2).toNat) (hr : r < sizey.toNat) :
    lastColour (showChar fonts x0 y0 num fc bc sizey 1) (x0.toNat + c) (y0.toNat + r) =
      if fonts.bit sizey (num - 0x20) c r then some fc else none := by
  have hdrawn := showChar_drawn fonts hsize (by decide : (1 : UInt8) ≠ 0) num fc bc hx0 hy0
  split
  case isTrue hbit =>
    apply lastColour_eq_some ((hdrawn.pixel _ _ _).mpr ⟨c, hc, r, hr, hbit, rfl, rfl, rfl⟩)
    intro color hmem
    obtain ⟨-, -, -, -, -, -, -, hcolor⟩ := (hdrawn.pixel _ _ _).mp hmem
    exact hcolor
  case isFalse hbit =>
    apply lastColour_eq_none
    intro color hmem
    obtain ⟨c', -, r', -, hbit', hx, hy, -⟩ := (hdrawn.pixel _ _ _).mp hmem
    obtain rfl : c' = c := by omega
    obtain rfl : r' = r := by omega
    exact hbit hbit'

theorem lastColour_showChar_outside {x0 y0 : UInt16} (num : UInt8)
    (hx0 : x0.toNat + (sizey / 2).toNat ≤ 65535) (hy0 : y0.toNat + sizey.toNat ≤ 65535)
    {x y : Nat} (h : x < x0.toNat ∨ x0.toNat + (sizey / 2).toNat ≤ x) :
    lastColour (showChar fonts x0 y0 num fc bc sizey 1) x y = none := by
  have hdrawn := showChar_drawn fonts hsize (by decide : (1 : UInt8) ≠ 0) num fc bc hx0 hy0
  apply lastColour_eq_none
  intro color hmem
  obtain ⟨c, hc, -, -, -, hx, -, -⟩ := (hdrawn.pixel _ _ _).mp hmem
  omega

omit hsize in
theorem cell_toNat {x : UInt16} {k : Nat}
    (h : x.toNat + (k + 1) * (sizey / 2).toNat ≤ 65535) :
    (cell x sizey k).toNat = x.toNat + k * (sizey / 2).toNat := by
  rw [Nat.add_mul] at h
  rw [cell, UInt16.toNat_ofNat']
  change _ % 65536 = _
  omega

section Text

variable {x y : UInt16} (hy : y.toNat + sizey.toNat ≤ 65535) (char : Nat → UInt8)
include hy

theorem characters_text {ks : List Nat}
    (hfits : ∀ k ∈ ks, x.toNat + (k + 1) * (sizey / 2).toNat ≤ 65535) :
    characters (text fonts x y fc bc sizey char ks) = ks.map fun k => (cell x sizey k, y, char k) := by
  induction ks with
  | nil => rfl
  | cons k ks ih =>
    have hk := hfits k List.mem_cons_self
    have hcell := cell_toNat hk
    rw [Nat.add_mul] at hk
    rw [text_cons, characters_append, ih fun j hj => hfits j (List.mem_cons_of_mem _ hj),
      characters_showChar fonts hsize fc bc (char k) (by omega) hy]
    rfl

/-- A pixel of cell `k` shows the character of cell `k`. -/
theorem lastColour_text (ks : List Nat)
    (hfits : ∀ k ∈ ks, x.toNat + (k + 1) * (sizey / 2).toNat ≤ 65535) (k : Nat) {c r : Nat}
    (hc : c < (sizey / 2).toNat) (hr : r < sizey.toNat) :
    lastColour (text fonts x y fc bc sizey char ks) (x.toNat + k * (sizey / 2).toNat + c)
        (y.toNat + r) =
      if k ∈ ks ∧ fonts.bit sizey (char k - 0x20) c r then some fc else none := by
  induction ks with
  | nil => simp [text, lastColour, pixels]
  | cons j ks ih =>
    have hj := hfits j List.mem_cons_self
    have hcell := cell_toNat hj
    have hwidth : (j + 1) * (sizey / 2).toNat = j * (sizey / 2).toNat + (sizey / 2).toNat := by
      rw [Nat.add_mul, Nat.one_mul]
    rw [text_cons, lastColour_append, ih fun i hi => hfits i (List.mem_cons_of_mem _ hi)]
    by_cases hjk : k = j
    · subst hjk
      rw [← hcell, lastColour_showChar fonts hsize fc bc (char k) (by omega) hy hc hr]
      by_cases hbit : fonts.bit sizey (char k - 0x20) c r
      · by_cases hmem : k ∈ ks
        · simp [hbit, hmem]
        · simp [hbit, hmem]
      · simp [hbit]
    · have hother : x.toNat + k * (sizey / 2).toNat + c < (cell x sizey j).toNat ∨
          (cell x sizey j).toNat + (sizey / 2).toNat ≤ x.toNat + k * (sizey / 2).toNat + c := by
        rw [hcell]
        rcases Nat.lt_or_gt_of_ne hjk with hlt | hgt
        · left
          have := Nat.mul_le_mul_right (sizey / 2).toNat (Nat.succ_le_of_lt hlt)
          rw [Nat.succ_mul] at this
          omega
        · right
          have := Nat.mul_le_mul_right (sizey / 2).toNat (Nat.succ_le_of_lt hgt)
          rw [Nat.succ_mul] at this
          omega
      rw [lastColour_showChar_outside fonts hsize fc bc (char j) (by omega) hy hother]
      simp [hjk]

theorem mem_text_pixel {ks : List Nat}
    (hfits : ∀ k ∈ ks, x.toNat + (k + 1) * (sizey / 2).toNat ≤ 65535) {px py : Nat}
    {color : UInt16} (h : .pixel px py color ∈ text fonts x y fc bc sizey char ks) :
    ∃ k ∈ ks, ∃ c < (sizey / 2).toNat, ∃ r < sizey.toNat, fonts.bit sizey (char k - 0x20) c r ∧
      px = x.toNat + k * (sizey / 2).toNat + c ∧ py = y.toNat + r ∧ color = fc := by
  obtain ⟨k, hk, hmem⟩ := List.mem_flatMap.mp h
  have hcell := cell_toNat (hfits k hk)
  have hfit := hfits k hk
  rw [Nat.add_mul] at hfit
  have hdrawn := showChar_drawn fonts hsize (by decide : (1 : UInt8) ≠ 0) (char k) fc bc
    (show (cell x sizey k).toNat + (sizey / 2).toNat ≤ 65535 by omega) hy
  obtain ⟨c, hc, r, hr, hbit, hx, hy, hcolor⟩ := (hdrawn.pixel _ _ _).mp hmem
  exact ⟨k, hk, c, hc, r, hr, hbit, by rw [hx, hcell], hy, hcolor⟩

end Text

end Seen

/-- The character is seen at (x0, y0): its dots were drawn last in the colour of the text, between
them there is nothing or the white of the box, and that is not the colour of the text. -/
structure Shows (fonts : Fonts) (calls : List Call) (x0 y0 : Nat) (num : UInt8) (fc : UInt16)
    (sizey : UInt8) : Prop where
  ink : ∀ c < (sizey / 2).toNat, ∀ r < sizey.toNat, fonts.bit sizey (num - 0x20) c r →
    lastColour calls (x0 + c) (y0 + r) = some fc
  paper : ∀ c < (sizey / 2).toNat, ∀ r < sizey.toNat, fonts.bit sizey (num - 0x20) c r = false →
    lastColour calls (x0 + c) (y0 + r) = none ∨ lastColour calls (x0 + c) (y0 + r) = some WHITE
  apart : ∀ c < (sizey / 2).toNat, ∀ r < sizey.toNat, fonts.bit sizey (num - 0x20) c r = false →
    lastColour calls (x0 + c) (y0 + r) ≠ some fc

/-- What is drawn elsewhere later does not matter. -/
theorem Shows.append {fonts : Fonts} {calls rest : List Call} {x0 y0 : Nat} {num : UInt8}
    {fc : UInt16} {sizey : UInt8} (h : Shows fonts calls x0 y0 num fc sizey)
    (hrest : ∀ c < (sizey / 2).toNat, ∀ r color, .pixel (x0 + c) (y0 + r) color ∉ rest) :
    Shows fonts (calls ++ rest) x0 y0 num fc sizey := by
  have hsame : ∀ c < (sizey / 2).toNat, ∀ r,
      lastColour (calls ++ rest) (x0 + c) (y0 + r) = lastColour calls (x0 + c) (y0 + r) := by
    intro c hc r
    rw [lastColour_append, lastColour_eq_none (hrest c hc r), Option.none_or]
  constructor
  · intro c hc r hr hbit
    rw [hsame c hc r]
    exact h.ink c hc r hr hbit
  · intro c hc r hr hbit
    rw [hsame c hc r]
    exact h.paper c hc r hr hbit
  · intro c hc r hr hbit
    rw [hsame c hc r]
    exact h.apart c hc r hr hbit

/-- A white ground below a text of another colour does not matter. -/
theorem Shows.prepend {fonts : Fonts} {calls rest : List Call} {x0 y0 : Nat} {num : UInt8}
    {fc : UInt16} {sizey : UInt8} (h : Shows fonts rest x0 y0 num fc sizey) (hfc : fc ≠ WHITE)
    (hcalls : ∀ c < (sizey / 2).toNat, ∀ r color, .pixel (x0 + c) (y0 + r) color ∈ calls →
      color = WHITE) : Shows fonts (calls ++ rest) x0 y0 num fc sizey := by
  constructor
  · intro c hc r hr hbit
    rw [lastColour_append, h.ink c hc r hr hbit, Option.some_or]
  · intro c hc r hr hbit
    rw [lastColour_append]
    rcases h.paper c hc r hr hbit with hnone | hwhite
    · rw [hnone, Option.none_or]
      cases hlast : lastColour calls (x0 + c) (y0 + r) with
      | none => exact Or.inl rfl
      | some color =>
        right
        rw [hcalls c hc r color (lastColour_mem hlast)]
    · rw [hwhite]
      exact Or.inr rfl
  · intro c hc r hr hbit hlast
    rw [lastColour_append, Option.or_eq_some_iff] at hlast
    rcases hlast with hrest | ⟨-, hground⟩
    · exact h.apart c hc r hr hbit hrest
    · exact hfc (hcalls c hc r fc (lastColour_mem hground))

theorem shows_text (fonts : Fonts) {sizey : UInt8} (hsize : IsSize sizey) (fc bc : UInt16)
    {x y : UInt16} (hy : y.toNat + sizey.toNat ≤ 65535) (char : Nat → UInt8) {ks : List Nat}
    (hfits : ∀ k ∈ ks, x.toNat + (k + 1) * (sizey / 2).toNat ≤ 65535) {k : Nat} (hk : k ∈ ks) :
    Shows fonts (text fonts x y fc bc sizey char ks) (x.toNat + k * (sizey / 2).toNat) y.toNat
      (char k) fc sizey := by
  constructor
  · intro c hc r hr hbit
    rw [lastColour_text fonts hsize fc bc hy char ks hfits k hc hr, if_pos ⟨hk, hbit⟩]
  · intro c hc r hr hbit
    rw [lastColour_text fonts hsize fc bc hy char ks hfits k hc hr, if_neg (by simp [hbit])]
    exact Or.inl rfl
  · intro c hc r hr hbit
    rw [lastColour_text fonts hsize fc bc hy char ks hfits k hc hr, if_neg (by simp [hbit])]
    exact (Option.some_ne_none fc).symm

theorem toUInt16_hundredths {num : ℚ} (hnum : 0 ≤ num) (hfloor : ⌊100 * num⌋₊ < 65536) :
    (toUInt16 (num * ofInt 100)).toNat = ⌊100 * num⌋₊ := by
  have hscaled : num * ofInt 100 = 100 * num := by
    rw [ofInt_exact]
    push_cast
    ring
  rw [hscaled]
  exact toUInt16_floor (by positivity) hfloor

theorem toUInt16_whole {num : ℚ} (hnum : 0 ≤ num) (hfloor : ⌊num⌋₊ < 65536) :
    (toUInt16 (num * ofInt 100 / ofInt 100)).toNat = ⌊num⌋₊ := by
  have hscaled : num * ofInt 100 / ofInt 100 = num := by
    rw [ofInt_exact]
    push_cast
    field_simp
  rw [hscaled]
  exact toUInt16_floor hnum hfloor

section Values

variable (sizey : UInt8) (fc bc x y : UInt16) {len : UInt8}

theorem showFloatNum1_eq (hlen : 2 ≤ len.toNat ∧ len.toNat ≤ 32) {num : ℚ} (hnum : 0 ≤ num)
    (hfloor : ⌊100 * num⌋₊ < 65536) :
    showFloatNum1 fonts x y num len fc bc sizey =
      some (text fonts x y fc bc sizey (floatChar ⌊100 * num⌋₊ len.toNat)
          (List.range' 0 (len.toNat - 2)) ++ clearBox x y ++
        text fonts x y fc bc sizey (floatChar ⌊100 * num⌋₊ len.toNat)
          [len.toNat - 2, len.toNat - 1, len.toNat]) := by
  rw [showFloatNum1, ← toUInt16_hundredths hnum hfloor]
  exact showFloatDigits_eq fonts x y _ fc bc sizey hlen.2 (len.toNat - 2) (by simp; omega)

theorem showIntNum_eq (hlen : len.toNat ≤ 32) {num : ℚ} (hnum : 0 ≤ num)
    (hfloor : ⌊num⌋₊ < 65536) :
    showIntNum fonts x y num len fc bc sizey =
      some (text fonts x y fc bc sizey (intChar (⌊num⌋₊ % 10 ^ len.toNat) len.toNat)
        (List.range' 0 len.toNat)) := by
  rw [showIntNum, ← toUInt16_whole hnum hfloor]
  exact showIntDigits_all fonts x y _ fc bc sizey hlen

end Values

theorem cells_fit {x : UInt16} {sizey : UInt8} {n : Nat}
    (hx : x.toNat + n * (sizey / 2).toNat ≤ 65535) {k : Nat} (hk : k < n) :
    x.toNat + (k + 1) * (sizey / 2).toNat ≤ 65535 := by
  have hle : (k + 1) * (sizey / 2).toNat ≤ n * (sizey / 2).toNat :=
    Nat.mul_le_mul_right _ (Nat.succ_le_of_lt hk)
  omega

section Numbers

variable {sizey : UInt8} (hsize : IsSize sizey) (fc bc : UInt16) {x y : UInt16}
  (hy : y.toNat + sizey.toNat ≤ 65535) {len : UInt8}
include hsize hy

/-- A cell of a number with two decimals, once everything is drawn. -/
theorem lastColour_float (hlen : 2 ≤ len.toNat)
    (hx : x.toNat + (len.toNat + 1) * (sizey / 2).toNat ≤ 65535) (char : Nat → UInt8)
    ⦃k c r : Nat⦄ (hk : k ≤ len.toNat) (hc : c < (sizey / 2).toNat) (hr : r < sizey.toNat) :
    lastColour (text fonts x y fc bc sizey char (List.range' 0 (len.toNat - 2)) ++ clearBox x y ++
        text fonts x y fc bc sizey char [len.toNat - 2, len.toNat - 1, len.toNat])
        (x.toNat + k * (sizey / 2).toNat + c) (y.toNat + r) =
      if fonts.bit sizey (char k - 0x20) c r ∧ len.toNat ≤ k + 2 then some fc
      else if k * (sizey / 2).toNat + c < 45 ∧ 1 ≤ r ∧ r ≤ 25 then some WHITE
      else if fonts.bit sizey (char k - 0x20) c r then some fc else none := by
  have hfits : ∀ j, j ≤ len.toNat → x.toNat + (j + 1) * (sizey / 2).toNat ≤ 65535 :=
    fun j hj => cells_fit hx (Nat.lt_succ_of_le hj)
  have hcell := hfits k hk
  rw [Nat.add_mul] at hcell
  have hlead := lastColour_text fonts hsize fc bc (x := x) hy char (List.range' 0 (len.toNat - 2))
    (fun j hj => hfits j (by simp at hj; omega)) k hc hr
  have htail := lastColour_text fonts hsize fc bc (x := x) hy char
    [len.toNat - 2, len.toNat - 1, len.toNat]
    (fun j hj => hfits j (by simp at hj; omega)) k hc hr
  have hbox := lastColour_clearBox x y (x := x.toNat + k * (sizey / 2).toNat + c)
    (y := y.toNat + r) (by omega)
  have hmem : k ∈ [len.toNat - 2, len.toNat - 1, len.toNat] ↔ len.toNat ≤ k + 2 := by
    simp only [List.mem_cons, List.not_mem_nil, or_false]
    omega
  have hmem' : k ∈ List.range' 0 (len.toNat - 2) ↔ ¬ len.toNat ≤ k + 2 := by
    simp only [List.mem_range'_1]
    omega
  have hin : (x.toNat ≤ x.toNat + k * (sizey / 2).toNat + c + 40 ∧
      x.toNat + k * (sizey / 2).toNat + c < x.toNat + 45 ∧ y.toNat < y.toNat + r ∧
      y.toNat + r ≤ y.toNat + 25) ↔ k * (sizey / 2).toNat + c < 45 ∧ 1 ≤ r ∧ r ≤ 25 := by
    omega
  rw [lastColour_append, lastColour_append, hlead, htail, hbox]
  simp only [hmem, hmem', hin]
  by_cases hbit : fonts.bit sizey (char k - 0x20) c r
  · by_cases hpast : len.toNat ≤ k + 2
    · simp [hbit, hpast]
    · by_cases hwhite : k * (sizey / 2).toNat + c < 45 ∧ 1 ≤ r ∧ r ≤ 25
      · rw [if_pos hwhite, if_pos hwhite]
        simp [hbit, hpast]
      · rw [if_neg hwhite, if_neg hwhite]
        simp [hbit, hpast]
  · by_cases hwhite : k * (sizey / 2).toNat + c < 45 ∧ 1 ≤ r ∧ r ≤ 25
    · rw [if_pos hwhite, if_pos hwhite]
      simp [hbit]
    · rw [if_neg hwhite, if_neg hwhite]
      simp [hbit]

theorem characters_float (hlen : 2 ≤ len.toNat)
    (hx : x.toNat + (len.toNat + 1) * (sizey / 2).toNat ≤ 65535) (char : Nat → UInt8) :
    characters (text fonts x y fc bc sizey char (List.range' 0 (len.toNat - 2)) ++ clearBox x y ++
        text fonts x y fc bc sizey char [len.toNat - 2, len.toNat - 1, len.toNat]) =
      (List.range (len.toNat + 1)).map fun k => (cell x sizey k, y, char k) := by
  have hfits : ∀ j, j ≤ len.toNat → x.toNat + (j + 1) * (sizey / 2).toNat ≤ 65535 :=
    fun j hj => cells_fit hx (Nat.lt_succ_of_le hj)
  have hrange : List.range (len.toNat + 1) = List.range' 0 (len.toNat - 2) ++
      [len.toNat - 2, len.toNat - 1, len.toNat] := by
    obtain ⟨n, hn⟩ : ∃ n, len.toNat = n + 2 := ⟨len.toNat - 2, by omega⟩
    rw [hn, List.range_succ, List.range_succ, List.range_succ, List.range_eq_range']
    simp
  rw [characters_append, characters_append, characters_clearBox,
    characters_text fonts hsize fc bc hy char fun j hj => hfits j (by simp at hj; omega),
    characters_text fonts hsize fc bc hy char fun j hj => hfits j (by simp at hj; omega),
    List.append_nil, ← List.map_append, ← hrange]

omit hy in
theorem float_has_dot (hlen : 2 < len.toNat) (n : Nat) :
    ∃ c < (sizey / 2).toNat, ∃ r < sizey.toNat,
      fonts.bit sizey (floatChar n len.toNat 0 - 0x20) c r ∧ 1 ≤ r ∧ r ≤ 25 := by
  rw [floatChar, if_pos (by omega)]
  exact digit_has_dot sizey hsize.mem _ (Nat.mod_lt _ (by decide))

omit hy in
theorem float_has_gap (hlen : 2 ≤ len.toNat) (n : Nat) :
    ∃ c < (sizey / 2).toNat, ∃ r < sizey.toNat,
      fonts.bit sizey (floatChar n len.toNat 0 - 0x20) c r = false ∧ 1 ≤ r ∧ r ≤ 25 := by
  by_cases htwo : len.toNat = 2
  · rw [floatChar, if_neg (by omega), if_pos (by omega)]
    exact point_has_gap sizey hsize.mem
  · rw [floatChar, if_pos (by omega)]
    exact digit_has_gap sizey hsize.mem _ (Nat.mod_lt _ (by decide))

/-- With two decimals every cell is seen exactly when there is no digit before the point, which
the box would wipe out, and the text is not as white as the box. -/
theorem float_shown_iff (hlen : 2 ≤ len.toNat ∧ len.toNat ≤ 32)
    (hx : x.toNat + (len.toNat + 1) * (sizey / 2).toNat ≤ 65535) {num : ℚ} (hnum : 0 ≤ num)
    (hfloor : ⌊100 * num⌋₊ < 65536) :
    ∃ calls, showFloatNum1 fonts x y num len fc bc sizey = some calls ∧
      characters calls = (List.range (len.toNat + 1)).map (fun k =>
        (cell x sizey k, y, floatChar ⌊100 * num⌋₊ len.toNat k)) ∧
      ((∀ k ≤ len.toNat, Shows fonts calls (x.toNat + k * (sizey / 2).toNat) y.toNat
        (floatChar ⌊100 * num⌋₊ len.toNat k) fc sizey) ↔ len.toNat = 2 ∧ fc ≠ WHITE) := by
  have hseen := lastColour_float hsize fc bc hy hlen.1 hx (floatChar ⌊100 * num⌋₊ len.toNat)
  have hwidth : (sizey / 2).toNat ≤ 16 := by
    obtain rfl | rfl | rfl | rfl := hsize <;> decide
  refine ⟨_, showFloatNum1_eq sizey fc bc x y hlen hnum hfloor, ?_, ?_, ?_⟩
  · exact characters_float hsize fc bc hy hlen.1 hx _
  · intro hshown
    have hcolour : fc ≠ WHITE := by
      obtain ⟨c, hc, r, hr, hbit, hlow, hhigh⟩ := float_has_gap hsize hlen.1 ⌊100 * num⌋₊
      have hapart := (hshown 0 (by omega)).apart c hc r hr hbit
      rw [hseen (by omega) hc hr, if_neg (by simp [hbit]), if_pos (by omega)] at hapart
      exact fun hwhite => hapart (congrArg some hwhite.symm)
    refine ⟨?_, hcolour⟩
    by_contra hne
    have hlong : 2 < len.toNat := by omega
    -- the first digit has a dot inside the box
    obtain ⟨c, hc, r, hr, hbit, hlow, hhigh⟩ := float_has_dot hsize hlong ⌊100 * num⌋₊
    have hink := (hshown 0 (by omega)).ink c hc r hr hbit
    rw [hseen (by omega) hc hr, if_neg (by omega), if_pos (by omega)] at hink
    exact hcolour (Option.some.inj hink).symm
  · rintro ⟨htwo, hcolour⟩ k hk
    constructor
    · intro c hc r hr hbit
      rw [hseen hk hc hr, if_pos ⟨hbit, by omega⟩]
    · intro c hc r hr hbit
      rw [hseen hk hc hr, if_neg (by simp [hbit])]
      split
      · exact Or.inr rfl
      · simp [hbit]
    · intro c hc r hr hbit
      rw [hseen hk hc hr, if_neg (by simp [hbit])]
      split
      · exact fun hwhite => hcolour (Option.some.inj hwhite).symm
      · simp [hbit]

theorem int_shown (hlen : len.toNat ≤ 32) (hx : x.toNat + len.toNat * (sizey / 2).toNat ≤ 65535)
    {num : ℚ} (hnum : 0 ≤ num) (hfloor : ⌊num⌋₊ < 65536) :
    ∃ calls, showIntNum fonts x y num len fc bc sizey = some calls ∧
      characters calls = (List.range len.toNat).map (fun k =>
        (cell x sizey k, y, intChar (⌊num⌋₊ % 10 ^ len.toNat) len.toNat k)) ∧
      ∀ k < len.toNat, Shows fonts calls (x.toNat + k * (sizey / 2).toNat) y.toNat
        (intChar (⌊num⌋₊ % 10 ^ len.toNat) len.toNat k) fc sizey := by
  have hfits : ∀ k ∈ List.range' 0 len.toNat, x.toNat + (k + 1) * (sizey / 2).toNat ≤ 65535 :=
    fun k hk => cells_fit hx (by simpa using hk)
  refine ⟨_, showIntNum_eq sizey fc bc x y hlen hnum hfloor, ?_, fun k hk => ?_⟩
  · rw [characters_text fonts hsize fc bc hy _ hfits, List.range_eq_range']
  · exact shows_text fonts hsize fc bc hy _ hfits (by simpa using hk)

end Numbers

/-- Both routines divide by no zero and show the decimal digits of the number: the routine
for whole numbers in all its cells, and the routine for two decimals in all of them exactly
when there is no digit before the point and the text is not as white as the box. -/
theorem numbers_shown_iff (sizey : UInt8)
    (hsize : sizey = 12 ∨ sizey = 16 ∨ sizey = 24 ∨ sizey = 32) (x y fc bc : UInt16)
    (hy : y.toNat + sizey.toNat ≤ 65535) (num : ℚ) (hnum : 0 ≤ num) (len : UInt8)
    (hlen : len.toNat ≤ 32) :
    (2 ≤ len.toNat → x.toNat + (len.toNat + 1) * (sizey / 2).toNat ≤ 65535 →
      ⌊100 * num⌋₊ < min 65536 (10 ^ len.toNat) →
      ∃ calls, showFloatNum1 fonts x y num len fc bc sizey = some calls ∧
        characters calls = (List.range (len.toNat + 1)).map (fun k =>
          (cell x sizey k, y, floatChar ⌊100 * num⌋₊ len.toNat k)) ∧
        ((∀ k ≤ len.toNat, Shows fonts calls (x.toNat + k * (sizey / 2).toNat) y.toNat
          (floatChar ⌊100 * num⌋₊ len.toNat k) fc sizey) ↔ len.toNat = 2 ∧ fc ≠ WHITE)) ∧
    (1 ≤ len.toNat → x.toNat + len.toNat * (sizey / 2).toNat ≤ 65535 →
      ⌊num⌋₊ < min 65536 (10 ^ len.toNat) →
      ∃ calls, showIntNum fonts x y num len fc bc sizey = some calls ∧
        characters calls = (List.range len.toNat).map (fun k =>
          (cell x sizey k, y, intChar ⌊num⌋₊ len.toNat k)) ∧
        ∀ k < len.toNat, Shows fonts calls (x.toNat + k * (sizey / 2).toNat) y.toNat
          (intChar ⌊num⌋₊ len.toNat k) fc sizey) := by
  constructor
  · intro htwo hx hfloor
    exact float_shown_iff hsize fc bc hy ⟨htwo, hlen⟩ hx hnum (lt_min_iff.mp hfloor).1
  · intro _ hx hfloor
    have hshown := int_shown hsize fc bc hy hlen hx hnum (lt_min_iff.mp hfloor).1
    rwa [Nat.mod_eq_of_lt (lt_min_iff.mp hfloor).2] at hshown

/-- 0.34 over three cells of 24 rows, as `.34`, and 12 over two cells, both in black at
(100, 100). -/
theorem numbers_shown_iff_hundredths :
    (∃ calls, showFloatNum1 fonts 100 100 (34 / 100 : ℚ) 2 BLACK BLACK 24 = some calls ∧
      ∀ k ≤ 2, Shows fonts calls (100 + k * 12) 100 (floatChar ⌊100 * (34 / 100 : ℚ)⌋₊ 2 k)
        BLACK 24) ∧
    ∃ calls, showIntNum fonts 100 100 (12 : ℚ) 2 BLACK BLACK 24 = some calls ∧
      ∀ k < 2, Shows fonts calls (100 + k * 12) 100 (intChar ⌊(12 : ℚ)⌋₊ 2 k) BLACK 24 := by
  have hhundredths : ⌊100 * (34 / 100 : ℚ)⌋₊ < min 65536 (10 ^ (2 : UInt8).toNat) := by
    have hfloor : ⌊100 * (34 / 100 : ℚ)⌋₊ = 34 := by norm_num
    rw [hfloor]
    decide
  have hwhole : ⌊(12 : ℚ)⌋₊ < min 65536 (10 ^ (2 : UInt8).toNat) := by
    have hfloor : ⌊(12 : ℚ)⌋₊ = 12 := by norm_num
    rw [hfloor]
    decide
  obtain ⟨calls, hcalls, -, hiff⟩ := (numbers_shown_iff 24 (by decide) 100 100 BLACK BLACK
    (by decide) (34 / 100) (by norm_num) 2 (by decide)).1 (by decide) (by decide) hhundredths
  obtain ⟨calls', hcalls', -, hshown'⟩ := (numbers_shown_iff 24 (by decide) 100 100 BLACK BLACK
    (by decide) 12 (by norm_num) 2 (by decide)).2 (by decide) (by decide) hwhole
  exact ⟨⟨calls, hcalls, hiff.mpr (by decide)⟩, calls', hcalls', hshown'⟩

theorem floor_twelve : ⌊100 * (1234 / 100 : ℚ)⌋₊ = 1234 := by norm_num

/-- The digits 1 and 2 of 12.34 are drawn and wiped out again. -/
theorem float_digits_wiped_out :
    ¬ ∃ calls, showFloatNum1 fonts 100 100 (1234 / 100 : ℚ) 4 BLACK BLACK 24 = some calls ∧
      ∀ k ≤ 4, Shows fonts calls (100 + k * 12) 100 (floatChar 1234 4 k) BLACK 24 := by
  intro h
  obtain ⟨calls, hcalls, hshown⟩ := h
  have hlen : 2 ≤ (4 : UInt8).toNat ∧ (4 : UInt8).toNat ≤ 32 := by decide
  have hnum : (0 : ℚ) ≤ 1234 / 100 := by norm_num
  obtain ⟨calls', hcalls', -, hiff⟩ := float_shown_iff isSize_24
    BLACK BLACK (x := 100) (y := 100) (by decide) hlen (by decide) hnum (by rw [floor_twelve]; decide)
  obtain rfl : calls = calls' := Option.some.inj (hcalls.symm.trans hcalls')
  rw [floor_twelve] at hiff
  exact absurd (hiff.mp hshown).1 (by decide)

end Mlx90640.Display.Numbers
