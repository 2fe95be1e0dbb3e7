import Mathlib.Data.Nat.Bitwise
import Mathlib.Data.List.Nodup
import Mathlib.Tactic.Linarith

/-!
# Characters

`LCD_ShowChar` walks through the bytes of a glyph and carries the place of the next dot in
`x` and `y`, which it moves inside the loop over the bits of a byte. The model returns what
the routine does, in order: that it was entered, the bytes it reads from the tables of
`font.h`, and its calls of `lcd_draw_pixel`. What those calls do to a frame buffer is the
subject of another module.
-/
namespace Mlx90640.Display.Glyphs

/-- One thing that the drawing routines do. -/
inductive Call where
  /-- `LCD_ShowChar` is entered. -/
  | character (x y : UInt16) (num : UInt8)
  /-- `ascii_<sizey>[num][i]` is read. -/
  | lookup (sizey num : UInt8) (i : Nat)
  /-- `lcd_draw_pixel(x, y, color)`. -/
  | pixel (x y : Nat) (color : UInt16)
  deriving DecidableEq, Repr

/-- The tables of `font.h`: the byte of a glyph. -/
structure Fonts where
  ascii1206 : Nat → Nat → UInt8
  ascii1608 : Nat → Nat → UInt8
  ascii2412 : Nat → Nat → UInt8
  ascii3216 : Nat → Nat → UInt8

/-- The byte that the chain of comparisons selects; in the last `else` the routine returns. -/
def Fonts.byte (fonts : Fonts) (sizey num : UInt8) (i : Nat) : Option UInt8 :=
  if sizey = 12 then some (fonts.ascii1206 num.toNat i)
  else if sizey = 16 then some (fonts.ascii1608 num.toNat i)
  else if sizey = 24 then some (fonts.ascii2412 num.toNat i)
  else if sizey = 32 then some (fonts.ascii3216 num.toNat i)
  else none

/-- The locals of `LCD_ShowChar` that its loops change. -/
structure Cursor where
  x : UInt16
  y : UInt16
  m : UInt8

/-- `for(t = 0; t < 8; t++)` with `left` passes to go. -/
def showBits (temp sizex : UInt8) (x0 fc : UInt16) (mode : UInt8) :
    Nat → Cursor → List Call × Cursor
  | 0, cursor => ([], cursor)
  | left + 1, cursor =>
    let t := 7 - left
    if mode = 0 then
      let m := cursor.m + 1
      if m % sizex = 0 then ([], { cursor with m := 0 })
      else showBits temp sizex x0 fc mode left { cursor with m := m }
    else
      let dot := if temp.toNat &&& (0x01 <<< t) ≠ 0
        then [Call.pixel cursor.x.toNat cursor.y.toNat fc] else []
      let x := cursor.x + 1
      if (x.toNat : Int) - x0.toNat = sizex.toNat then
        (dot, { cursor with x := x0, y := cursor.y + 1 })
      else
        let rest := showBits temp sizex x0 fc mode left { cursor with x := x }
        (dot ++ rest.1, rest.2)

/-- `for(i = 0; i < TypefaceNum; i++)` with `left` passes to go. -/
def showBytes (fonts : Fonts) (sizey sizex num : UInt8) (x0 fc : UInt16) (mode : UInt8) :
    Nat → Nat → Cursor → List Call
  | 0, _, _ => []
  | left + 1, i, cursor =>
    match fonts.byte sizey num i with
    | none => []
    | some temp =>
      let bits := showBits temp sizex x0 fc mode 8 cursor
      Call.lookup sizey num i :: bits.1 ++
        showBytes fonts sizey sizex num x0 fc mode left (i + 1) bits.2

/-- The bytes of a row of a glyph, `sizex / 8 + ((sizex % 8) ? 1 : 0)`. -/
def rowBytes (sizex : UInt8) : Nat := sizex.toNat / 8 + if sizex.toNat % 8 ≠ 0 then 1 else 0

/-- `LCD_ShowChar`. -/
def showChar (fonts : Fonts) (x y : UInt16) (num : UInt8) (fc _bc : UInt16) (sizey mode : UInt8) :
    List Call :=
  let sizex := sizey / 2
  let typefaceNum := rowBytes sizex * sizey.toNat
  Call.character x y num ::
    showBytes fonts sizey sizex (num - 0x20) x fc mode typefaceNum 0 ⟨x, y, 0⟩

/-- `LCD_ShowString`, on the bytes before the terminating zero. -/
def showString (fonts : Fonts) (y : UInt16) (fc bc : UInt16) (sizey mode : UInt8) :
    UInt16 → List UInt8 → List Call
  | _, [] => []
  | x, num :: p => showChar fonts x y num fc bc sizey mode ++
      showString fonts y fc bc sizey mode (x + (sizey / 2).toUInt16) p

/-- A dot for each set bit among the `n` bits of `temp` from bit `t` on, side by side. -/
def dots (temp : UInt8) (fc : UInt16) (t n x y : Nat) : List Call :=
  (List.range n).filterMap fun k =>
    if temp.toNat.testBit (t + k) then some (.pixel (x + k) y fc) else none

theorem dots_succ (temp : UInt8) (fc : UInt16) (t n x y : Nat) :
    dots temp fc t (n + 1) x y =
      (if temp.toNat.testBit t then [.pixel x y fc] else []) ++ dots temp fc (t + 1) n (x + 1) y := by
  rw [dots, List.range_succ_eq_map, List.filterMap_cons, List.filterMap_map]
  have hrest : List.filterMap ((fun k =>
      if temp.toNat.testBit (t + k) then some (Call.pixel (x + k) y fc) else none) ∘ Nat.succ)
        (List.range n) = dots temp fc (t + 1) n (x + 1) y := by
    rw [dots]
    congr 1
    funext k
    simp only [Function.comp_apply, Nat.succ_eq_add_one, Nat.add_assoc, Nat.add_comm 1]
  rw [hrest]
  by_cases hbit : temp.toNat.testBit t
  · simp [hbit]
  · simp [hbit]

theorem and_shiftLeft_ne_zero (n t : Nat) : n &&& (0x01 <<< t) ≠ 0 ↔ n.testBit t := by
  rw [Nat.one_shiftLeft, Nat.and_two_pow]
  cases n.testBit t <;> simp

section Bits

variable {temp sizex : UInt8} {x0 fc : UInt16} {mode : UInt8}

/-- The loop over the bits of one byte draws up to the end of the byte or of the row,
whichever comes first, and starts a new row in the second case. -/
theorem showBits_eq (hmode : mode ≠ 0) (hx0 : x0.toNat + sizex.toNat ≤ 65535) (left d : Nat)
    (hleft : left ≤ 8) (cursor : Cursor) (hx : cursor.x.toNat = x0.toNat + d)
    (hd : d < sizex.toNat) :
    showBits temp sizex x0 fc mode left cursor =
      (dots temp fc (8 - left) (min left (sizex.toNat - d)) (x0.toNat + d) cursor.y.toNat,
        if sizex.toNat - d ≤ left then { cursor with x := x0, y := cursor.y + 1 }
        else { cursor with x := cursor.x + UInt16.ofNat left }) := by
  induction left generalizing d cursor with
  | zero =>
    have hopen : ¬ sizex.toNat - d ≤ 0 := by omega
    simp [showBits, dots, hopen]
  | succ left ih =>
    have hnext : (cursor.x + 1).toNat = x0.toNat + (d + 1) := by
      rw [UInt16.toNat_add, hx]
      change (x0.toNat + d + 1) % 65536 = _
      omega
    have ht : 8 - (left + 1) = 7 - left := by omega
    have hedge : ((cursor.x + 1).toNat : Int) - x0.toNat = sizex.toNat ↔ d + 1 = sizex.toNat := by
      rw [hnext]
      omega
    simp only [showBits, if_neg hmode, and_shiftLeft_ne_zero, hedge]
    by_cases hend : d + 1 = sizex.toNat
    · have hone : min (left + 1) (sizex.toNat - d) = 0 + 1 := by omega
      have hrow : sizex.toNat - d ≤ left + 1 := by omega
      rw [if_pos hend, if_pos hrow, hone, dots_succ, ht, hx]
      simp [dots]
    · have hmin : min (left + 1) (sizex.toNat - d) = min left (sizex.toNat - (d + 1)) + 1 := by
        omega
      have hrow : sizex.toNat - d ≤ left + 1 ↔ sizex.toNat - (d + 1) ≤ left := by omega
      have hshift : 8 - (left + 1) + 1 = 8 - left := by omega
      have hcount : cursor.x + 1 + UInt16.ofNat left = cursor.x + UInt16.ofNat (left + 1) := by
        rw [UInt16.ofNat_add, UInt16.add_assoc, UInt16.add_comm 1]
        rfl
      rw [if_neg hend, ih (d + 1) (by omega) { cursor with x := cursor.x + 1 } hnext (by omega),
        hmin, dots_succ, hshift, ht]
      simp only [hrow, hcount, hx, Nat.add_assoc]

end Bits

/-- The sizes that there are tables for. -/
def IsSize (sizey : UInt8) : Prop := sizey = 12 ∨ sizey = 16 ∨ sizey = 24 ∨ sizey = 32

theorem isSize_24 : IsSize 24 := Or.inr (Or.inr (Or.inl rfl))
theorem isSize_32 : IsSize 32 := Or.inr (Or.inr (Or.inr rfl))

theorem IsSize.mem {sizey : UInt8} (h : IsSize sizey) : sizey ∈ [(12 : UInt8), 16, 24, 32] := by
  simpa [IsSize] using h

/-- A byte of a glyph, by the size of the font. -/
def Fonts.glyph (fonts : Fonts) (sizey num : UInt8) (i : Nat) : UInt8 :=
  (fonts.byte sizey num i).getD 0

theorem Fonts.byte_eq (fonts : Fonts) {sizey : UInt8} (h : IsSize sizey) (num : UInt8) (i : Nat) :
    fonts.byte sizey num i = some (fonts.glyph sizey num i) := by
  obtain rfl | rfl | rfl | rfl := h <;> rfl

theorem IsSize.rowBytes_cases {sizey : UInt8} (h : IsSize sizey) :
    (rowBytes (sizey / 2) = 1 ∨ rowBytes (sizey / 2) = 2) ∧
      8 * rowBytes (sizey / 2) < (sizey / 2).toNat + 8 ∧
      (sizey / 2).toNat ≤ 8 * rowBytes (sizey / 2) := by
  obtain rfl | rfl | rfl | rfl := h <;> decide

theorem IsSize.byte_inside {sizey : UInt8} (h : IsSize sizey) (i : Nat) :
    8 * (i % rowBytes (sizey / 2)) < (sizey / 2).toNat := by
  obtain ⟨hone | htwo, hlow, -⟩ := h.rowBytes_cases
  · rw [hone] at hlow ⊢
    omega
  · rw [htwo] at hlow ⊢
    omega

/-- After a byte that reaches the end of the row comes the first byte of the next row. -/
theorem IsSize.next_row {sizey : UInt8} (h : IsSize sizey) {i : Nat}
    (hend : (sizey / 2).toNat - 8 * (i % rowBytes (sizey / 2)) ≤ 8) :
    (i + 1) % rowBytes (sizey / 2) = 0 ∧
      (i + 1) / rowBytes (sizey / 2) = i / rowBytes (sizey / 2) + 1 := by
  obtain ⟨hone | htwo, hlow, -⟩ := h.rowBytes_cases
  · rw [hone]
    omega
  · rw [htwo] at hend hlow ⊢
    omega

theorem IsSize.same_row {sizey : UInt8} (h : IsSize sizey) {i : Nat}
    (hopen : ¬ (sizey / 2).toNat - 8 * (i % rowBytes (sizey / 2)) ≤ 8) :
    (i + 1) % rowBytes (sizey / 2) = i % rowBytes (sizey / 2) + 1 ∧
      (i + 1) / rowBytes (sizey / 2) = i / rowBytes (sizey / 2) := by
  obtain ⟨hone | htwo, -, hhigh⟩ := h.rowBytes_cases
  · rw [hone] at hopen hhigh
    omega
  · rw [htwo] at hopen hhigh ⊢
    omega

section Bytes

variable (fonts : Fonts) {sizey : UInt8} (num : UInt8) {x0 y0 fc : UInt16} {mode : UInt8}

/-- What the routine does with byte `i`. -/
def byteCalls (sizey num : UInt8) (x0 y0 fc : UInt16) (i : Nat) : List Call :=
  let b := i % rowBytes (sizey / 2)
  .lookup sizey num i :: dots (fonts.glyph sizey num i) fc 0
    (min 8 ((sizey / 2).toNat - 8 * b)) (x0.toNat + 8 * b) (y0.toNat + i / rowBytes (sizey / 2))

/-- The cursor is where byte `i` starts. -/
structure StartsByte (sizey : UInt8) (x0 y0 : UInt16) (i : Nat) (cursor : Cursor) : Prop where
  x : cursor.x.toNat = x0.toNat + 8 * (i % rowBytes (sizey / 2))
  y : cursor.y.toNat = y0.toNat + i / rowBytes (sizey / 2)

theorem showBits_byte (hsize : IsSize sizey) (hmode : mode ≠ 0)
    (hx0 : x0.toNat + (sizey / 2).toNat ≤ 65535) (temp : UInt8) (fc : UInt16) {i : Nat}
    {cursor : Cursor}
    (hstart : StartsByte sizey x0 y0 i cursor)
    (hy0 : y0.toNat + (i + 1) / rowBytes (sizey / 2) ≤ 65535) :
    (showBits temp (sizey / 2) x0 fc mode 8 cursor).1 =
        dots temp fc 0 (min 8 ((sizey / 2).toNat - 8 * (i % rowBytes (sizey / 2))))
          (x0.toNat + 8 * (i % rowBytes (sizey / 2))) (y0.toNat + i / rowBytes (sizey / 2)) ∧
      StartsByte sizey x0 y0 (i + 1) (showBits temp (sizey / 2) x0 fc mode 8 cursor).2 := by
  rw [showBits_eq hmode hx0 8 _ le_rfl cursor hstart.x (hsize.byte_inside i), hstart.y]
  refine ⟨rfl, ?_⟩
  split
  case isTrue hend =>
    have hnext := hsize.next_row hend
    constructor
    · simp [hnext.1]
    · rw [hnext.2] at hy0 ⊢
      rw [UInt16.toNat_add, hstart.y]
      change (_ + 1) % 65536 = _
      generalize i / rowBytes (sizey / 2) = row at hy0 ⊢
      omega
  case isFalse hopen =>
    have hnext := hsize.same_row hopen
    constructor
    · rw [hnext.1, UInt16.toNat_add, hstart.x]
      change (_ + 8) % 65536 = _
      omega
    · rw [hnext.2]
      exact hstart.y

theorem showBytes_eq (hsize : IsSize sizey) (hmode : mode ≠ 0)
    (hx0 : x0.toNat + (sizey / 2).toNat ≤ 65535) (left i : Nat) (cursor : Cursor)
    (hstart : StartsByte sizey x0 y0 i cursor)
    (hy0 : y0.toNat + (i + left) / rowBytes (sizey / 2) ≤ 65535) :
    showBytes fonts sizey (sizey / 2) num x0 fc mode left i cursor =
      (List.range left).flatMap fun k => byteCalls fonts sizey num x0 y0 fc (i + k) := by
  induction left generalizing i cursor with
  | zero => rfl
  | succ left ih =>
    have hnext : y0.toNat + (i + 1) / rowBytes (sizey / 2) ≤ 65535 :=
      le_trans (Nat.add_le_add_left (Nat.div_le_div_right (by omega)) _) hy0
    obtain ⟨hcalls, hstart'⟩ :=
      showBits_byte hsize hmode hx0 (fonts.glyph sizey num i) fc hstart hnext
    have hrest := ih (i + 1) _ hstart' (by rwa [Nat.add_right_comm, Nat.add_assoc])
    simp only [showBytes, fonts.byte_eq hsize, hcalls, hrest, byteCalls]
    rw [List.range_succ_eq_map, List.flatMap_cons, List.flatMap_map]
    simp only [Nat.add_zero, Nat.succ_eq_add_one, Nat.add_assoc, Nat.add_comm 1]

theorem showChar_eq (hsize : IsSize sizey) (hmode : mode ≠ 0)
    (hx0 : x0.toNat + (sizey / 2).toNat ≤ 65535) (hy0 : y0.toNat + sizey.toNat ≤ 65535)
    (bc : UInt16) :
    showChar fonts x0 y0 num fc bc sizey mode =
      .character x0 y0 num :: (List.range (rowBytes (sizey / 2) * sizey.toNat)).flatMap
        (byteCalls fonts sizey (num - 0x20) x0 y0 fc) := by
  obtain ⟨hcases, -, -⟩ := hsize.rowBytes_cases
  have hrows : (0 + rowBytes (sizey / 2) * sizey.toNat) / rowBytes (sizey / 2) = sizey.toNat := by
    rcases hcases with hone | htwo
    · rw [hone]
      omega
    · rw [htwo]
      omega
  have hstart : StartsByte sizey x0 y0 0 ⟨x0, y0, 0⟩ := ⟨by simp, by simp⟩
  rw [showChar, showBytes_eq fonts (num - 0x20) hsize hmode hx0 _ 0 _ hstart (by omega)]
  simp only [Nat.zero_add]

end Bytes

/-- Bit `c mod 8` of byte `r * rowBytes + c / 8` of a glyph. -/
def Fonts.bit (fonts : Fonts) (sizey num : UInt8) (c r : Nat) : Bool :=
  (fonts.glyph sizey num (r * rowBytes (sizey / 2) + c / 8)).toNat.testBit (c % 8)

theorem mem_dots {temp : UInt8} {fc color : UInt16} {t n x y x' y' : Nat} :
    Call.pixel x' y' color ∈ dots temp fc t n x y ↔
      ∃ k < n, temp.toNat.testBit (t + k) ∧ x' = x + k ∧ y' = y ∧ color = fc := by
  simp only [dots, List.mem_filterMap, List.mem_range]
  constructor
  · intro h
    obtain ⟨k, hk, hcall⟩ := h
    split at hcall
    case isTrue hbit =>
      injection hcall with hcall
      injection hcall with hx hy hc
      exact ⟨k, hk, hbit, hx.symm, hy.symm, hc.symm⟩
    case isFalse => cases hcall
  · intro h
    obtain ⟨k, hk, hbit, rfl, rfl, rfl⟩ := h
    exact ⟨k, hk, if_pos hbit⟩

theorem mem_dots_pixel {call : Call} {temp : UInt8} {fc : UInt16} {t n x y : Nat}
    (h : call ∈ dots temp fc t n x y) : ∃ x' y' color, call = .pixel x' y' color := by
  simp only [dots, List.mem_filterMap] at h
  obtain ⟨k, -, hcall⟩ := h
  split at hcall
  case isTrue =>
    injection hcall with hcall
    exact ⟨_, _, _, hcall.symm⟩
  case isFalse => cases hcall

theorem dots_nodup (temp : UInt8) (fc : UInt16) (t n x y : Nat) : (dots temp fc t n x y).Nodup := by
  refine List.Nodup.filterMap ?_ List.nodup_range
  intro k k' call hk hk'
  simp only [Option.mem_def, Option.ite_none_right_eq_some, Option.some.injEq] at hk hk'
  have heq := hk.2.trans hk'.2.symm
  injection heq with hx
  omega

section Dots

variable (fonts : Fonts) {sizey : UInt8} {num : UInt8} {x0 y0 fc : UInt16}

theorem IsSize.column (h : IsSize sizey) {c r : Nat} (hc : c < (sizey / 2).toNat) :
    (r * rowBytes (sizey / 2) + c / 8) % rowBytes (sizey / 2) = c / 8 ∧
      (r * rowBytes (sizey / 2) + c / 8) / rowBytes (sizey / 2) = r := by
  obtain ⟨hcases, -, hhigh⟩ := h.rowBytes_cases
  rcases hcases with hone | htwo
  · rw [hone] at hhigh ⊢
    omega
  · rw [htwo] at hhigh ⊢
    omega

theorem mem_byteCalls_pixel {i x y : Nat} {color : UInt16} :
    Call.pixel x y color ∈ byteCalls fonts sizey num x0 y0 fc i ↔
      ∃ k < min 8 ((sizey / 2).toNat - 8 * (i % rowBytes (sizey / 2))),
        (fonts.glyph sizey num i).toNat.testBit k ∧
        x = x0.toNat + 8 * (i % rowBytes (sizey / 2)) + k ∧
        y = y0.toNat + i / rowBytes (sizey / 2) ∧ color = fc := by
  simp only [byteCalls, List.mem_cons, reduceCtorEq, false_or, mem_dots, Nat.zero_add]

theorem mem_glyph_pixel (h : IsSize sizey) {x y : Nat} {color : UInt16} :
    Call.pixel x y color ∈ (List.range (rowBytes (sizey / 2) * sizey.toNat)).flatMap
        (byteCalls fonts sizey num x0 y0 fc) ↔
      ∃ c < (sizey / 2).toNat, ∃ r < sizey.toNat, fonts.bit sizey num c r ∧
        x = x0.toNat + c ∧ y = y0.toNat + r ∧ color = fc := by
  obtain ⟨hcases, hlow, hhigh⟩ := h.rowBytes_cases
  simp only [List.mem_flatMap, List.mem_range, mem_byteCalls_pixel]
  constructor
  · intro hfound
    obtain ⟨i, hi, k, hk, hbit, rfl, rfl, rfl⟩ := hfound
    have hrow : i / rowBytes (sizey / 2) < sizey.toNat := Nat.div_lt_of_lt_mul hi
    have hbyte : i / rowBytes (sizey / 2) * rowBytes (sizey / 2) +
        (8 * (i % rowBytes (sizey / 2)) + k) / 8 = i := by
      rw [Nat.mul_add_div (by decide), Nat.div_eq_of_lt (show k < 8 by omega), Nat.add_zero]
      exact Nat.div_add_mod' i _
    have hplace : (8 * (i % rowBytes (sizey / 2)) + k) % 8 = k := by omega
    refine ⟨8 * (i % rowBytes (sizey / 2)) + k, by omega, i / rowBytes (sizey / 2), hrow, ?_,
      by omega, rfl, rfl⟩
    rw [Fonts.bit, hbyte, hplace]
    exact hbit
  · intro hfound
    obtain ⟨c, hc, r, hr, hbit, rfl, rfl, rfl⟩ := hfound
    obtain ⟨hmod, hdiv⟩ := h.column (r := r) hc
    refine ⟨r * rowBytes (sizey / 2) + c / 8, ?_, c % 8, ?_, hbit, ?_, ?_, rfl⟩
    · rcases hcases with hone | htwo
      · rw [hone] at hhigh ⊢
        omega
      · rw [htwo] at hhigh ⊢
        omega
    · rw [hmod]
      omega
    · rw [hmod]
      omega
    · rw [hdiv]

theorem mem_byteCalls_lookup {s n : UInt8} {i j : Nat} :
    Call.lookup s n j ∈ byteCalls fonts sizey num x0 y0 fc i ↔ s = sizey ∧ n = num ∧ j = i := by
  simp only [byteCalls, List.mem_cons, Call.lookup.injEq]
  constructor
  · rintro (h | h)
    · exact h
    · obtain ⟨_, _, _, hcall⟩ := mem_dots_pixel h
      cases hcall
  · exact Or.inl

theorem not_mem_byteCalls_character {x y : UInt16} {n : UInt8} {i : Nat} :
    Call.character x y n ∉ byteCalls fonts sizey num x0 y0 fc i := by
  simp only [byteCalls, List.mem_cons, reduceCtorEq, false_or]
  intro h
  obtain ⟨_, _, _, hcall⟩ := mem_dots_pixel h
  cases hcall

theorem byteCalls_nodup (i : Nat) : (byteCalls fonts sizey num x0 y0 fc i).Nodup := by
  refine List.nodup_cons.mpr ⟨fun h => ?_, dots_nodup _ _ _ _ _ _⟩
  obtain ⟨_, _, _, hcall⟩ := mem_dots_pixel h
  cases hcall

theorem byteCalls_disjoint (h : IsSize sizey) {i j : Nat} (hij : i ≠ j) :
    List.Disjoint (byteCalls fonts sizey num x0 y0 fc i) (byteCalls fonts sizey num x0 y0 fc j) := by
  intro call hi hj
  cases call with
  | character x y n => exact not_mem_byteCalls_character fonts hi
  | lookup s n k =>
    have hki := (mem_byteCalls_lookup fonts).mp hi
    have hkj := (mem_byteCalls_lookup fonts).mp hj
    exact hij (hki.2.2.symm.trans hkj.2.2)
  | pixel x y color =>
    obtain ⟨k, hk, -, hx, hy, -⟩ := (mem_byteCalls_pixel fonts).mp hi
    obtain ⟨k', hk', -, hx', hy', -⟩ := (mem_byteCalls_pixel fonts).mp hj
    obtain ⟨hone | htwo, -, -⟩ := h.rowBytes_cases
    · rw [hone] at hk hk' hx hx' hy hy'
      omega
    · rw [htwo] at hk hk' hx hx' hy hy'
      omega

theorem glyph_nodup (h : IsSize sizey) (n : Nat) :
    ((List.range n).flatMap (byteCalls fonts sizey num x0 y0 fc)).Nodup := by
  refine List.nodup_flatMap.mpr ⟨fun i _ => byteCalls_nodup fonts i, ?_⟩
  exact List.nodup_range.imp fun hij => byteCalls_disjoint fonts h hij

end Dots

/-- The character is drawn: one call for each set bit of its glyph, no other call, and
every byte of the glyph read once. -/
structure GlyphDrawn (fonts : Fonts) (x0 y0 : UInt16) (num : UInt8) (fc : UInt16) (sizey : UInt8)
    (calls : List Call) : Prop where
  once : calls.Nodup
  pixel : ∀ x y color, .pixel x y color ∈ calls ↔
    ∃ c < (sizey / 2).toNat, ∃ r < sizey.toNat, fonts.bit sizey (num - 0x20) c r ∧
      x = x0.toNat + c ∧ y = y0.toNat + r ∧ color = fc
  lookup : ∀ s n i, .lookup s n i ∈ calls ↔
    s = sizey ∧ n = num - 0x20 ∧ i < rowBytes (sizey / 2) * sizey.toNat

theorem showChar_drawn (fonts : Fonts) {sizey mode : UInt8} (hsize : IsSize sizey)
    (hmode : mode ≠ 0) (num : UInt8) {x0 y0 : UInt16} (fc bc : UInt16)
    (hx0 : x0.toNat + (sizey / 2).toNat ≤ 65535) (hy0 : y0.toNat + sizey.toNat ≤ 65535) :
    GlyphDrawn fonts x0 y0 num fc sizey (showChar fonts x0 y0 num fc bc sizey mode) := by
  rw [showChar_eq fonts num hsize hmode hx0 hy0 bc]
  refine ⟨?_, fun x y color => ?_, fun s n i => ?_⟩
  · refine List.nodup_cons.mpr ⟨fun h => ?_, glyph_nodup fonts hsize _⟩
    obtain ⟨i, -, hi⟩ := List.mem_flatMap.mp h
    exact not_mem_byteCalls_character fonts hi
  · simp only [List.mem_cons, reduceCtorEq, false_or]
    exact mem_glyph_pixel fonts hsize
  · simp only [List.mem_cons, reduceCtorEq, false_or, List.mem_flatMap, List.mem_range,
      mem_byteCalls_lookup]
    constructor
    · intro hfound
      obtain ⟨k, hk, hs, hn, rfl⟩ := hfound
      exact ⟨hs, hn, hk⟩
    · intro hboth
      obtain ⟨hs, hn, hi⟩ := hboth
      exact ⟨i, hi, hs, hn, rfl⟩

/-- In mode 1 `LCD_ShowChar` draws the glyph of a printable character, in each of the four
sizes, wherever the cursor does not leave the range of its type; the glyph is one of the 95
of the table. -/
theorem showChar_draws_glyph (fonts : Fonts) (sizey : UInt8)
    (hsize : sizey = 12 ∨ sizey = 16 ∨ sizey = 24 ∨ sizey = 32) (num : UInt8)
    (hnum : 0x20 ≤ num.toNat ∧ num.toNat ≤ 0x7E) (x0 y0 fc bc : UInt16)
    (hx0 : x0.toNat + (sizey / 2).toNat ≤ 65535) (hy0 : y0.toNat + sizey.toNat ≤ 65535) :
    GlyphDrawn fonts x0 y0 num fc sizey (showChar fonts x0 y0 num fc bc sizey 1) ∧
      (num - 0x20).toNat = num.toNat - 0x20 ∧ (num - 0x20).toNat < 95 := by
  have hrow : (num - 0x20).toNat = num.toNat - 0x20 :=
    UInt8.toNat_sub_of_le num 0x20 (UInt8.le_iff_toNat_le.mpr hnum.1)
  refine ⟨showChar_drawn fonts hsize (by decide) num fc bc hx0 hy0, hrow, ?_⟩
  omega

/-- The letter A of 24 rows at (300, 320), in a font whose glyphs are full. -/
theorem showChar_draws_full_glyph :
    GlyphDrawn ⟨fun _ _ => 0xFF, fun _ _ => 0xFF, fun _ _ => 0xFF, fun _ _ => 0xFF⟩ 300 320 0x41 0 24
      (showChar ⟨fun _ _ => 0xFF, fun _ _ => 0xFF, fun _ _ => 0xFF, fun _ _ => 0xFF⟩ 300 320 0x41 0 0
        24 1) :=
  (showChar_draws_glyph ⟨fun _ _ => 0xFF, fun _ _ => 0xFF, fun _ _ => 0xFF, fun _ _ => 0xFF⟩ 24
    (by decide) 0x41 (by decide) 300 320 0 0 (by decide) (by decide)).1

end Mlx90640.Display.Glyphs
