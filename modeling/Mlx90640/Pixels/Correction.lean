import Mlx90640.Lib.InPlace
import Mlx90640.Calibration.Parameters
import Mathlib.Data.Fin.VecNotation

/-!
# Bad pixel correction

`MLX90640_BadPixelsCorrection` walks a pixel list up to its `0xFFFF` entry and replaces
each listed temperature from its neighbours, in place. Every array access is checked
here (the array `to` of the code is `temps`): an index outside `pixels[0..4]` or
`to[0..767]` makes the model answer `none`.
-/
namespace Mlx90640.Pixels.Correction

open Mlx90640.Calibration
open Mlx90640.Calibration.Extract
open Mlx90640.Calibration.Deviating
open Mlx90640.Calibration.Parameters
open Mlx90640.Lib.InPlace

variable {F : Type} [Add F] [Sub F] [Mul F] [Div F] [LT F] [DecidableLT F] [CFloat F]

/-- `if(values[j] < values[i])` swap the two. -/
def exchange {n : Nat} (values : Fin n → F) (i j : Fin n) : Fin n → F :=
  if values j < values i then
    Function.update (Function.update values i (values j)) j (values i)
  else values

/-- `for(i = 0; i < n-1; i++) for(j = i+1; j < n; j++)`. -/
def exchangeSort {n : Nat} (values : Fin n → F) : Fin n → F :=
  Nat.fold (n - 1) (fun i hi values =>
    Nat.fold (n - (i + 1)) (fun k hk values =>
      exchange values ⟨i, by omega⟩ ⟨i + 1 + k, by omega⟩) values) values

/-- The array after the call, and the returned median. -/
def getMedian {n : Nat} (hn : 0 < n) (values : Fin n → F) : (Fin n → F) × F :=
  let values := exchangeSort values
  if n % 2 = 0 then
    (values, (values ⟨n / 2, by omega⟩ + values ⟨n / 2 - 1, by omega⟩) / ofInt 2)
  else (values, values ⟨n / 2, by omega⟩)

def isPixelBad (pixel : UInt16) (params : ParamsMLX90640 F) : Int :=
  if (List.finRange 5).any fun i =>
    pixel == params.outlierPixels i || pixel == params.brokenPixels i then 1 else 0

/-- `to[i]` read. -/
def load (temps : Fin 768 → F) (i : Int) : Option F :=
  if h : 0 ≤ i ∧ i < 768 then some (temps ⟨i.toNat, by omega⟩) else none

/-- `to[i] = value`. -/
def store (temps : Fin 768 → F) (i : Int) (value : F) : Option (Fin 768 → F) :=
  if h : 0 ≤ i ∧ i < 768 then some (Function.update temps ⟨i.toNat, by omega⟩ value) else none

/-- `(to[i] + to[j]) / 2.0f`. -/
def mean (temps : Fin 768 → F) (i j : Int) : Option F := do
  let x ← load temps i
  let y ← load temps j
  return (x + y) / ofInt 2

/-- The chess branch: the diagonal neighbours. -/
def chessValue (temps : Fin 768 → F) (pixel : Int) (line column : UInt8) : Option F :=
  if line = 0 then
    if column = 0 then load temps 33
    else if column = 31 then load temps 62
    else mean temps (pixel + 31) (pixel + 33)
  else if line = 23 then
    if column = 0 then load temps 705
    else if column = 31 then load temps 734
    else mean temps (pixel - 33) (pixel - 31)
  else if column = 0 then mean temps (pixel - 31) (pixel + 33)
  else if column = 31 then mean temps (pixel - 33) (pixel + 31)
  else do
    let ap0 ← load temps (pixel - 33)
    let ap1 ← load temps (pixel - 31)
    let ap2 ← load temps (pixel + 31)
    let ap3 ← load temps (pixel + 33)
    return (getMedian (by decide) ![ap0, ap1, ap2, ap3]).2

/-- The interleaved branch: the neighbours in the row. -/
def interleavedValue (params : ParamsMLX90640 F) (temps : Fin 768 → F) (pixel : Int)
    (column : UInt8) : Option F :=
  if column = 0 then load temps (pixel + 1)
  else if column = 1 ∨ column = 30 then mean temps (pixel - 1) (pixel + 1)
  else if column = 31 then load temps (pixel - 1)
  else if isPixelBad (UInt16.ofInt (pixel - 2)) params = 0 ∧
      isPixelBad (UInt16.ofInt (pixel + 2)) params = 0 then do
    let right1 ← load temps (pixel + 1)
    let right2 ← load temps (pixel + 2)
    let left1 ← load temps (pixel - 1)
    let left2 ← load temps (pixel - 2)
    let ap0 := right1 - right2
    let ap1 := left1 - left2
    return if fabs ap0 > fabs ap1 then left1 + ap1 else right1 + ap0
  else mean temps (pixel - 1) (pixel + 1)

/-- The value the loop body computes for the listed `pixel`. -/
def correctedValue (mode : Int) (params : ParamsMLX90640 F) (pixel : UInt16) (temps : Fin 768 → F) :
    Option F :=
  let line := (pixel >>> 5).toUInt8
  let column := UInt8.ofInt (pixel.toNat - line.toNat * 2 ^ 5)
  if mode = 1 then chessValue temps pixel.toNat line column
  else interleavedValue params temps pixel.toNat column

/-- `while(pixels[pix] != 0xFFFF)` over the entries from `pixels[pix]` on; past the last
entry the read of `pixels[pix]` is out of range. -/
def correctEntries (mode : Int) (params : ParamsMLX90640 F) :
    List UInt16 → (Fin 768 → F) → Option (Fin 768 → F)
  | [], _ => none
  | pixel :: rest, temps =>
    if pixel = 0xFFFF then some temps
    else do
      let value ← correctedValue mode params pixel temps
      let temps ← store temps pixel.toNat value
      correctEntries mode params rest temps

def badPixelsCorrection (pixels : Fin 5 → UInt16) (temps : Fin 768 → F) (mode : Int)
    (params : ParamsMLX90640 F) : Option (Fin 768 → F) :=
  correctEntries mode params (List.ofFn pixels) temps

/-- Pixels that touch in a corner. -/
def diagonal (p q : Nat) : Prop :=
  (q / 32 = p / 32 + 1 ∨ q / 32 + 1 = p / 32) ∧ (q % 32 = p % 32 + 1 ∨ q % 32 + 1 = p % 32)

/-- Pixels of one row, next to each other or, when the farther one is not listed, with one
pixel between them. -/
def inRow (params : ParamsMLX90640 F) (p q : Nat) : Prop :=
  q / 32 = p / 32 ∧ (q % 32 = p % 32 + 1 ∨ q % 32 + 1 = p % 32 ∨
    isPixelBad (UInt16.ofNat q) params = 0 ∧ (q % 32 = p % 32 + 2 ∨ q % 32 + 2 = p % 32))

def reads (mode : Int) (params : ParamsMLX90640 F) (p q : Nat) : Prop :=
  if mode = 1 then diagonal p q else inRow params p q

theorem uint16_ofInt {i : Int} {n : Nat} (h : i = n) : UInt16.ofInt i = UInt16.ofNat n := by
  subst h
  apply UInt16.toNat_inj.mp
  simp [UInt16.ofInt]
  omega

theorem line_toNat {p : Nat} (hp : p < 768) :
    (UInt16.ofNat p >>> 5).toUInt8.toNat = p / 32 := by
  simp [Nat.shiftRight_eq_div_pow]
  omega

theorem column_toNat {p : Nat} :
    (UInt8.ofInt ((p : Int) - (p / 32 : Nat) * 2 ^ 5)).toNat = p % 32 := by
  simp [UInt8.ofInt]
  omega

/-- The first or the last line. -/
def onLineEdge (p : Nat) : Prop := p / 32 = 0 ∨ p / 32 = 23

/-- The first or the last column. -/
def onColumnEdge (p : Nat) : Prop := p % 32 = 0 ∨ p % 32 = 31

/-- `l` lists the pixels that touch `p` in a corner. -/
structure Touching (p : Nat) (l : List (Fin 768)) : Prop where
  nodup : l.Nodup
  mem_iff : ∀ q, q ∈ l ↔ diagonal p q

section Agree

variable {temps temps' : Fin 768 → F} {p : Nat} {params : ParamsMLX90640 F} {line column : UInt8}

theorem touching_one {q : Nat} (hq : q < 768) (h : ∀ r < 768, r = q ↔ diagonal p r) :
    Touching p [⟨q, hq⟩] where
  nodup := List.pairwise_singleton _ _
  mem_iff r := by
    rw [List.mem_singleton, Fin.ext_iff]
    exact h r r.isLt

theorem touching_two {q r : Nat} (hlt : q < r) (hr : r < 768)
    (h : ∀ s < 768, (s = q ∨ s = r) ↔ diagonal p s) :
    Touching p [⟨q, hlt.trans hr⟩, ⟨r, hr⟩] where
  nodup := by
    simp only [List.nodup_cons, List.mem_singleton, Fin.mk.injEq, List.not_mem_nil,
      not_false_eq_true, List.nodup_nil, and_true]
    omega
  mem_iff s := by
    rw [List.mem_cons, List.mem_singleton, Fin.ext_iff, Fin.ext_iff]
    exact h s s.isLt

theorem touching_four (hline : ¬onLineEdge p) (hcolumn : ¬onColumnEdge p) (hp : p < 768) :
    ∃ (h1 : p - 33 < 768) (h2 : p - 31 < 768) (h3 : p + 31 < 768) (h4 : p + 33 < 768),
      Touching p [⟨p - 33, h1⟩, ⟨p - 31, h2⟩, ⟨p + 31, h3⟩, ⟨p + 33, h4⟩] := by
  simp only [onLineEdge, onColumnEdge] at hline hcolumn
  refine ⟨by omega, by omega, by omega, by omega, ?_, fun r => ?_⟩
  · simp only [List.nodup_cons, List.mem_cons, Fin.mk.injEq, List.not_mem_nil, not_false_eq_true,
      List.nodup_nil, and_true, or_false]
    omega
  · simp only [List.mem_cons, List.not_mem_nil, or_false, Fin.ext_iff, diagonal]
    omega

omit [Add F] [Sub F] [Mul F] [Div F] [LT F] [DecidableLT F] [CFloat F] in
theorem load_eq (temps : Fin 768 → F) {i : Int} {q : Nat} (hi : i = q) (hq : q < 768) :
    load temps i = some (temps ⟨q, hq⟩) := by
  subst hi
  have hrange : (0 : Int) ≤ q ∧ (q : Int) < 768 := by omega
  rw [load, dif_pos hrange]
  rfl

omit [Sub F] [Mul F] [LT F] [DecidableLT F] in
theorem mean_eq (temps : Fin 768 → F) {i j : Int} {q r : Nat} (hi : i = q) (hj : j = r)
    (hq : q < 768) (hr : r < 768) :
    mean temps i j = some ((temps ⟨q, hq⟩ + temps ⟨r, hr⟩) / ofInt 2) := by
  rw [mean, load_eq temps hi hq, load_eq temps hj hr]
  rfl

omit [Sub F] [Mul F] in
/-- The nine cases of the chess branch are three: the value of the only diagonal neighbour,
the mean of two, and the median of four. -/
theorem chessValue_cases (hp : p < 768) (hline : line.toNat = p / 32)
    (hcolumn : column.toNat = p % 32) :
    (onLineEdge p ∧ onColumnEdge p ∧ ∃ a, Touching p [a] ∧
      ∀ temps : Fin 768 → F, chessValue temps p line column = some (temps a)) ∨
    ((onLineEdge p ↔ ¬onColumnEdge p) ∧ ∃ a b, Touching p [a, b] ∧
      ∀ temps : Fin 768 → F,
        chessValue temps p line column = some ((temps a + temps b) / ofInt 2)) ∨
    (¬onLineEdge p ∧ ¬onColumnEdge p ∧ ∃ a b c d, Touching p [a, b, c, d] ∧
      ∀ temps : Fin 768 → F, chessValue temps p line column =
        some (getMedian (by decide) ![temps a, temps b, temps c, temps d]).2) := by
  simp only [chessValue, ← UInt8.toNat_inj, hline, hcolumn, UInt8.reduceToNat]
  by_cases hfirst : p / 32 = 0
  · have hedge : onLineEdge p := .inl hfirst
    simp only [hfirst, if_true]
    by_cases hleft : p % 32 = 0
    · simp only [hleft, if_true]
      exact .inl ⟨hedge, .inl hleft, _, touching_one (q := 33) (by decide) fun r hr => by
        simp only [diagonal]; omega, fun temps => load_eq temps rfl _⟩
    · by_cases hright : p % 32 = 31
      · simp only [hright, if_true, Nat.reduceEqDiff, if_false]
        exact .inl ⟨hedge, .inr hright, _, touching_one (q := 62) (by decide) fun r hr => by
          simp only [diagonal]; omega, fun temps => load_eq temps rfl _⟩
      · simp only [hleft, hright, if_false]
        exact .inr (.inl ⟨iff_of_true hedge (not_or.mpr ⟨hleft, hright⟩), _, _,
          touching_two (q := p + 31) (r := p + 33) (by omega) (by omega) fun s hs => by
            simp only [diagonal]; omega, fun temps => mean_eq temps (by omega) (by omega) _ _⟩)
  · by_cases hlast : p / 32 = 23
    · have hedge : onLineEdge p := .inr hlast
      simp only [hlast, Nat.reduceEqDiff, if_false, if_true]
      by_cases hleft : p % 32 = 0
      · simp only [hleft, if_true]
        exact .inl ⟨hedge, .inl hleft, _, touching_one (q := 705) (by decide) fun r hr => by
          simp only [diagonal]; omega, fun temps => load_eq temps rfl _⟩
      · by_cases hright : p % 32 = 31
        · simp only [hright, if_true, Nat.reduceEqDiff, if_false]
          exact .inl ⟨hedge, .inr hright, _, touching_one (q := 734) (by decide) fun r hr => by
            simp only [diagonal]; omega, fun temps => load_eq temps rfl _⟩
        · simp only [hleft, hright, if_false]
          exact .inr (.inl ⟨iff_of_true hedge (not_or.mpr ⟨hleft, hright⟩), _, _,
            touching_two (q := p - 33) (r := p - 31) (by omega) (by omega) fun s hs => by
              simp only [diagonal]; omega, fun temps => mean_eq temps (by omega) (by omega) _ _⟩)
    · have hedge : ¬onLineEdge p := not_or.mpr ⟨hfirst, hlast⟩
      simp only [hfirst, hlast, if_false]
      by_cases hleft : p % 32 = 0
      · simp only [hleft, if_true]
        exact .inr (.inl ⟨iff_of_false hedge (not_not.mpr (.inl hleft)), _, _,
          touching_two (q := p - 31) (r := p + 33) (by omega) (by omega) fun s hs => by
            simp only [diagonal]; omega, fun temps => mean_eq temps (by omega) (by omega) _ _⟩)
      · by_cases hright : p % 32 = 31
        · simp only [hright, if_true, Nat.reduceEqDiff, if_false]
          exact .inr (.inl ⟨iff_of_false hedge (not_not.mpr (.inr hright)), _, _,
            touching_two (q := p - 33) (r := p + 31) (by omega) (by omega) fun s hs => by
              simp only [diagonal]; omega, fun temps => mean_eq temps (by omega) (by omega) _ _⟩)
        · simp only [hleft, hright, if_false]
          have hside : ¬onColumnEdge p := not_or.mpr ⟨hleft, hright⟩
          obtain ⟨h1, h2, h3, h4, htouching⟩ := touching_four hedge hside hp
          refine .inr (.inr ⟨hedge, hside, _, _, _, _, htouching, fun temps => ?_⟩)
          rw [load_eq temps (by omega) h1, load_eq temps (by omega) h2, load_eq temps (by omega) h3,
            load_eq temps (by omega) h4]
          rfl

omit [Sub F] [Mul F] in
theorem chessValue_agree (h : ∀ q : Fin 768, diagonal p q → temps q = temps' q) (hp : p < 768)
    (hline : line.toNat = p / 32) (hcolumn : column.toNat = p % 32) :
    ∃ x, chessValue temps p line column = some x ∧ chessValue temps' p line column = some x := by
  have hsame : ∀ {l : List (Fin 768)}, Touching p l → ∀ q ∈ l, temps' q = temps q :=
    fun hl q hq => (h q ((hl.mem_iff q).mp hq)).symm
  rcases chessValue_cases (F := F) hp hline hcolumn with
    ⟨-, -, a, hl, hvalue⟩ | ⟨-, a, b, hl, hvalue⟩ | ⟨-, -, a, b, c, d, hl, hvalue⟩
  · refine ⟨_, hvalue temps, ?_⟩
    rw [hvalue temps', hsame hl a (by simp)]
  · refine ⟨_, hvalue temps, ?_⟩
    rw [hvalue temps', hsame hl a (by simp), hsame hl b (by simp)]
  · refine ⟨_, hvalue temps, ?_⟩
    rw [hvalue temps', hsame hl a (by simp), hsame hl b (by simp), hsame hl c (by simp),
      hsame hl d (by simp)]

omit [Add F] [Sub F] [Mul F] [Div F] [LT F] [DecidableLT F] [CFloat F] in
theorem load_agree {R : Nat → Prop} (h : ∀ q : Fin 768, R q → temps q = temps' q) {i : Int} {q : Nat}
    (hi : i = q) (hq : q < 768) (hR : R q) : ∃ x, load temps i = some x ∧ load temps' i = some x :=
  ⟨_, load_eq temps hi hq, (load_eq temps' hi hq).trans (congrArg some (h ⟨q, hq⟩ hR).symm)⟩

omit [Sub F] [Mul F] [LT F] [DecidableLT F] in
theorem mean_agree {i j : Int} (hi : ∃ x, load temps i = some x ∧ load temps' i = some x)
    (hj : ∃ x, load temps j = some x ∧ load temps' j = some x) :
    ∃ x, mean temps i j = some x ∧ mean temps' i j = some x := by
  obtain ⟨x, hx, hx'⟩ := hi
  obtain ⟨y, hy, hy'⟩ := hj
  exact ⟨(x + y) / ofInt 2, by simp [mean, hx, hy], by simp [mean, hx', hy']⟩

omit [Mul F] in
/-- The interleaved branch stays inside the array and reads pixels of the row only. -/
theorem interleavedValue_agree (h : ∀ q : Fin 768, inRow params p q → temps q = temps' q)
    (hp : p < 768) (hcolumn : column.toNat = p % 32) :
    ∃ x, interleavedValue params temps p column = some x ∧
      interleavedValue params temps' p column = some x := by
  have hload : ∀ {i : Int} (q : Nat), i = q → q < 768 → inRow params p q →
      ∃ x, load temps i = some x ∧ load temps' i = some x :=
    fun q => load_agree h
  simp only [inRow] at hload
  simp only [interleavedValue, ← UInt8.toNat_inj, hcolumn, UInt8.reduceToNat]
  by_cases hleft : p % 32 = 0
  · simp only [hleft, if_true]
    exact hload (p + 1) (by omega) (by omega) (by omega)
  · by_cases hright : p % 32 = 31
    · simp only [hright, Nat.reduceEqDiff, or_self, if_false, if_true]
      exact hload (p - 1) (by omega) (by omega) (by omega)
    · have hmean : ∃ x, mean temps (p - 1) (p + 1) = some x ∧ mean temps' (p - 1) (p + 1) = some x :=
        mean_agree (hload (p - 1) (by omega) (by omega) (by omega))
          (hload (p + 1) (by omega) (by omega) (by omega))
      simp only [hleft, hright, if_false]
      split
      · exact hmean
      · split
        · rename_i hinner hgood
          obtain ⟨hgood2, hgood2'⟩ := hgood
          rw [uint16_ofInt (i := (p : Int) - 2) (n := p - 2) (by omega)] at hgood2
          rw [uint16_ofInt (i := (p : Int) + 2) (n := p + 2) (by omega)] at hgood2'
          obtain ⟨r1, h1, h1'⟩ := hload (i := (p : Int) + 1) (p + 1) (by omega) (by omega) (by omega)
          obtain ⟨r2, h2, h2'⟩ := hload (i := (p : Int) + 2) (p + 2) (by omega) (by omega)
            ⟨by omega, .inr (.inr ⟨hgood2', by omega⟩)⟩
          obtain ⟨l1, h3, h3'⟩ := hload (i := (p : Int) - 1) (p - 1) (by omega) (by omega) (by omega)
          obtain ⟨l2, h4, h4'⟩ := hload (i := (p : Int) - 2) (p - 2) (by omega) (by omega)
            ⟨by omega, .inr (.inr ⟨hgood2, by omega⟩)⟩
          exact ⟨_, by simp only [h1, h2, h3, h4, Option.bind_eq_bind, Option.bind_some]; rfl,
            by simp only [h1', h2', h3', h4', Option.bind_eq_bind, Option.bind_some]; rfl⟩
        · exact hmean

omit [Mul F] in
/-- The replacement of a pixel of the array never faults, and two arrays that agree on what
it reads give the same value. -/
theorem correctedValue_agree (mode : Int) (params : ParamsMLX90640 F) (p : Fin 768)
    (h : ∀ q : Fin 768, reads mode params p q → temps q = temps' q) :
    ∃ x, correctedValue mode params (UInt16.ofNat p) temps = some x ∧
      correctedValue mode params (UInt16.ofNat p) temps' = some x := by
  simp only [correctedValue, toNat_ofNat p.isLt, line_toNat p.isLt]
  by_cases hmode : mode = 1
  · simp only [reads, hmode, if_true] at h ⊢
    exact chessValue_agree h p.isLt (line_toNat p.isLt) column_toNat
  · simp only [reads, hmode, if_false] at h ⊢
    exact interleavedValue_agree h p.isLt column_toNat

end Agree

/-- The correction of a pixel as a rule for in-place replacement. -/
def rule (mode : Int) (params : ParamsMLX90640 F) (p : Fin 768) (temps : Fin 768 → F) : Option F :=
  correctedValue mode params (UInt16.ofNat p) temps

/-- The pixels of a list as the code stores them. -/
def words (l : List (Fin 768)) : List UInt16 := l.map fun p => UInt16.ofNat p.val

section Walk

variable (mode : Int) (params : ParamsMLX90640 F)

theorem ofNat_ne_terminator (p : Fin 768) : UInt16.ofNat p ≠ 0xFFFF := by
  intro h
  have hval := congrArg UInt16.toNat h
  rw [toNat_ofNat p.isLt] at hval
  simp only [UInt16.reduceToNat] at hval
  omega

omit [Add F] [Sub F] [Mul F] [Div F] [LT F] [DecidableLT F] [CFloat F] in
theorem store_pixel (temps : Fin 768 → F) (p : Fin 768) (value : F) :
    store temps (UInt16.ofNat p).toNat value = some (Function.update temps p value) := by
  have hrange : (0 : Int) ≤ p.val ∧ (p.val : Int) < 768 := by omega
  rw [toNat_ofNat p.isLt, store, dif_pos hrange]
  rfl

omit [Mul F] in
theorem correctEntries_cons (p : Fin 768) (rest : List UInt16) (temps : Fin 768 → F) :
    correctEntries mode params (UInt16.ofNat p :: rest) temps =
      (replace (rule mode params) p temps).bind (correctEntries mode params rest) := by
  rw [correctEntries, if_neg (ofNat_ne_terminator p), replace, rule]
  cases correctedValue mode params (UInt16.ofNat p) temps with
  | none => rfl
  | some value =>
    simp only [Option.bind_eq_bind, Option.bind_some, Option.map_some, store_pixel]

omit [Mul F] in
theorem correctEntries_terminated (l : List (Fin 768)) (tail : List UInt16) (temps : Fin 768 → F) :
    correctEntries mode params (words l ++ 0xFFFF :: tail) temps =
      replaceAll (rule mode params) l temps := by
  induction l generalizing temps with
  | nil => exact if_pos rfl
  | cons p rest ih =>
    rw [words, List.map_cons, List.cons_append, correctEntries_cons, replaceAll]
    cases replace (rule mode params) p temps with
    | none => rfl
    | some temps' => exact ih temps'

omit [Mul F] in
theorem correctEntries_unterminated (l : List (Fin 768)) (temps : Fin 768 → F) :
    correctEntries mode params (words l) temps = none := by
  induction l generalizing temps with
  | nil => rfl
  | cons p rest ih =>
    rw [words, List.map_cons, correctEntries_cons]
    cases replace (rule mode params) p temps with
    | none => rfl
    | some temps' => exact ih temps'

omit [Mul F] in
theorem rule_total (p : Fin 768) (temps : Fin 768 → F) : ∃ x, rule mode params p temps = some x := by
  obtain ⟨x, hx, -⟩ := correctedValue_agree mode params p (fun q _ => rfl : ∀ q : Fin 768,
    reads mode params p q → temps q = temps q)
  exact ⟨x, hx⟩

omit [Mul F] in
theorem replaceAll_total (l : List (Fin 768)) (temps : Fin 768 → F) :
    ∃ temps', replaceAll (rule mode params) l temps = some temps' := by
  induction l generalizing temps with
  | nil => exact ⟨temps, rfl⟩
  | cons p rest ih =>
    obtain ⟨x, hx⟩ := rule_total mode params p temps
    obtain ⟨temps', h⟩ := ih (Function.update temps p x)
    exact ⟨temps', by rw [replaceAll, replace, hx]; exact h⟩

omit [Mul F] in
/-- The correction over a list of the form extraction produces. With five pixels there is
no terminator left, and the walk runs past the list. -/
theorem badPixelsCorrection_entries {l : List (Fin 768)} (hl : l.length ≤ 5) (temps : Fin 768 → F) :
    badPixelsCorrection (entries (l.map Fin.val)) temps mode params =
      if l.length ≤ 4 then replaceAll (rule mode params) l temps else none := by
  have hwords : (l.map Fin.val).map UInt16.ofNat = words l := by simp [words]
  rw [badPixelsCorrection, ofFn_entries (by rwa [List.length_map]), hwords, List.length_map]
  split
  · obtain ⟨n, hn⟩ : ∃ n, 5 - l.length = n + 1 := ⟨4 - l.length, by omega⟩
    rw [hn, List.replicate_succ, correctEntries_terminated]
  · have hfive : 5 - l.length = 0 := by omega
    rw [hfive, List.replicate_zero, List.append_nil, correctEntries_unterminated]

end Walk

theorem exists_pixel_lists (eeData : EEPROM) {m : Nat} (hm : m ≤ 768) :
    ∃ broken outlier : List (Fin 768), brokenBelow eeData m = broken.map Fin.val ∧
      outliersBelow eeData m = outlier.map Fin.val := by
  have htyped : ∀ {l : List Nat}, (∀ p ∈ l, p < 768) →
      ∃ l' : List (Fin 768), l = l'.map Fin.val := by
    intro l h
    exact ⟨l.pmap Fin.mk h, by simp [List.map_pmap]⟩
  obtain ⟨broken, hbroken⟩ := htyped fun p (hp : p ∈ brokenBelow eeData m) =>
    (mem_brokenBelow.mp hp).1.trans_le hm
  obtain ⟨outlier, houtlier⟩ := htyped fun p (hp : p ∈ outliersBelow eeData m) =>
    (mem_outliersBelow.mp hp).1.trans_le hm
  exact ⟨broken, outlier, hbroken, houtlier⟩

/-- The two calls of the acquisition loop, broken pixels first. -/
def correctDeviating (mode : Int) (params : ParamsMLX90640 F) (temps : Fin 768 → F) :
    Option (Fin 768 → F) := do
  let temps ← badPixelsCorrection params.brokenPixels temps mode params
  badPixelsCorrection params.outlierPixels temps mode params

/-- At most four pixel words of the image are zero, and at most four are odd. -/
def fewOfEach (eeData : EEPROM) : Prop :=
  (brokenBelow eeData 768).length ≤ 4 ∧ (outliersBelow eeData 768).length ≤ 4

instance (eeData : EEPROM) : Decidable (fewOfEach eeData) := inferInstanceAs (Decidable (_ ∧ _))

/-- Both calls stay inside their arrays and end exactly when neither list is full. -/
theorem correctDeviating_safe_iff {stack : Fin 4 → Scratch F} {fuel : Nat} {eeData : EEPROM}
    {before params : ParamsMLX90640 F} {code : Int}
    (h : extractParameters stack fuel eeData before = some (code, params)) (temps : Fin 768 → F) :
    (∃ temps', correctDeviating 1 params temps = some temps') ↔ fewOfEach eeData := by
  obtain ⟨before', hbefore⟩ := extractParameters_deviating h
  obtain ⟨stop, hend, hs⟩ := scan_scanned eeData
  rw [extractDeviatingPixels_eq, Prod.mk.injEq] at hbefore
  obtain ⟨-, rfl⟩ := hbefore
  have hroom := length_add_le_of_room hend.room
  have hsubBroken := (brokenBelow_sublist eeData hend.le).length_le
  have hsubOutlier := (outliersBelow_sublist eeData hend.le).length_le
  obtain ⟨broken, outlier, hbroken, houtlier⟩ := exists_pixel_lists eeData hend.le
  have hlenBroken : (brokenBelow eeData stop).length = broken.length := by
    rw [hbroken, List.length_map]
  have hlenOutlier : (outliersBelow eeData stop).length = outlier.length := by
    rw [houtlier, List.length_map]
  simp only [correctDeviating, hs.brokenPixels, hs.outlierPixels]
  rw [hbroken, houtlier, badPixelsCorrection_entries _ _ (by omega)]
  constructor
  · -- a full list faults its own call, so the scan saw the whole image
    intro hfound
    obtain ⟨temps', htemps⟩ := hfound
    by_cases hb : broken.length ≤ 4
    · rw [if_pos hb] at htemps
      obtain ⟨temps1, h1⟩ := replaceAll_total 1 _ broken temps
      rw [h1, Option.bind_eq_bind, Option.bind_some,
        badPixelsCorrection_entries _ _ (by omega)] at htemps
      by_cases ho : outlier.length ≤ 4
      · obtain rfl : stop = 768 := by
          rcases hend.done with hstop | hfull | hfull <;> omega
        exact ⟨by omega, by omega⟩
      · rw [if_neg ho] at htemps
        cases htemps
    · rw [if_neg hb] at htemps
      cases htemps
  · intro hboth
    obtain ⟨hb, ho⟩ := hboth
    rw [if_pos (by omega)]
    obtain ⟨temps1, h1⟩ := replaceAll_total 1 _ broken temps
    obtain ⟨temps2, h2⟩ := replaceAll_total 1 _ outlier temps1
    refine ⟨temps2, ?_⟩
    rw [h1, Option.bind_eq_bind, Option.bind_some, badPixelsCorrection_entries _ _ (by omega),
      if_pos (by omega), h2]

/-- Three broken pixels and three outliers, between pixels without a defect. -/
def sixDeviating : EEPROM := fun k =>
  if k = 64 + 100 ∨ k = 64 + 105 ∨ k = 64 + 300 then 0
  else if k = 64 + 200 ∨ k = 64 + 210 ∨ k = 64 + 500 then 3
  else 2

/-- The six of them are corrected, in rational arithmetic. -/
theorem correctDeviating_safe_six_deviating :
    brokenBelow sixDeviating 768 = [100, 105, 300] ∧
    outliersBelow sixDeviating 768 = [200, 210, 500] ∧
    ∃ n, ∀ fuel, n < fuel → ∀ stack (before : ParamsMLX90640 ℚ), ∃ code params,
      extractParameters stack fuel sixDeviating before = some (code, params) ∧
        ∀ temps, ∃ temps', correctDeviating 1 params temps = some temps' := by
  refine ⟨by decide +kernel, by decide +kernel, ?_⟩
  obtain ⟨n, ktaScale, kvScale, hrun⟩ :=
    extractParameters_terminates (F := ℚ) doublingReaches64_exact sixDeviating
  refine ⟨n, fun fuel hfuel stack before => ⟨_, _, hrun fuel hfuel stack before, fun temps => ?_⟩⟩
  exact (correctDeviating_safe_iff (hrun fuel hfuel stack before) temps).mpr (by decide +kernel)

/-- The all-zero image, which is what the EEPROM buffer holds when the dump fails: five
broken pixels fill the list, and the first call reads `pixels[5]`. -/
theorem correctDeviating_zero_image_faults :
    ∃ n, ∀ fuel, n < fuel → ∀ stack (before : ParamsMLX90640 ℚ), ∃ params,
      extractParameters stack fuel (fun _ => 0) before = some (-3, params) ∧
        ∀ temps, correctDeviating 1 params temps = none := by
  have hwarning : warning (scan fun _ => 0) = -3 := by decide +kernel
  have hlist : (scan fun _ => 0).brokenPixels =
      entries (([0, 1, 2, 3, 4] : List (Fin 768)).map Fin.val) := by
    funext k
    revert k
    decide +kernel
  obtain ⟨n, ktaScale, kvScale, hrun⟩ :=
    extractParameters_terminates (F := ℚ) doublingReaches64_exact fun _ => 0
  refine ⟨n, fun fuel hfuel stack before => ?_⟩
  obtain ⟨before', hbefore⟩ := extractParameters_deviating (hrun fuel hfuel stack before)
  rw [extractDeviatingPixels_eq, hwarning, hlist] at hbefore
  refine ⟨_, (hrun fuel hfuel stack before).trans (congrArg some hbefore.symm), fun temps => ?_⟩
  rw [correctDeviating, badPixelsCorrection_entries _ _ (by decide)]
  rfl

end Mlx90640.Pixels.Correction
