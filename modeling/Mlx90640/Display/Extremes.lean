import Mlx90640.Lib.Scan
import Mlx90640.Display.Interpolation
import Mathlib.Algebra.Order.Round

/-!
# From the temperatures to the picture

The part of the loop of `thread1_entry` between the temperatures and the drawing: the 768
temperatures are copied into the source matrix, the picture is interpolated from it, and the
hottest and the coldest temperature are looked up in the source and stored into the picture.
-/
namespace Mlx90640.Display.Extremes

open Mlx90640.Calibration
open Mlx90640.Calibration.Extract
open Mlx90640.Display.Interpolation
open Mlx90640.Lib.Loops
open Mlx90640.Lib.Scan

section Copy

variable {F : Type}

theorem column_lt {k : Nat} (hk : k < 32) : 31 - k < 32 := by omega

/-- `mlx90640To[index]`. -/
def temperatureAt (mlx90640To : Fin 768 → F) (index : Int) : Option F :=
  if h : 0 ≤ index ∧ index.toNat < 768 then some (mlx90640To ⟨index.toNat, h.2⟩) else none

/-- The body of the inner loop, with `j = 31 - k` in pass `k`, and `index--`. -/
def copyCell (mlx90640To : Fin 768 → F) (i : Fin 24) (j : Fin 32)
    (state : Int × (Fin 24 → Fin 32 → F)) : Option (Int × (Fin 24 → Fin 32 → F)) :=
  (temperatureAt mlx90640To state.1).map fun value =>
    (state.1 - 1, updateCell state.2 i j value)

/-- The loops that turn the one-dimensional array into the matrix. -/
def copyReversed (mlx90640To : Fin 768 → F) (srcMatrix : Fin 24 → Fin 32 → F) :
    Option (Fin 24 → Fin 32 → F) :=
  let final := Nat.fold 24 (fun i hi state => state.bind fun state =>
    Nat.fold 32 (fun k hk state => state.bind
      (copyCell mlx90640To ⟨i, hi⟩ ⟨31 - k, column_lt hk⟩)) (some state)) (some (767, srcMatrix))
  final.map Prod.snd

end Copy

section Extremes

variable {F : Type}

theorem destRow_lt {row : Nat} (h : row < 24) : row * (240 / 24) < 240 := by omega
theorem destCol_lt {col : Nat} (h : col < 32) : col * (320 / 32) < 320 := by omega

/-- An extreme temperature and the cell of the picture that it is stored in. -/
structure Found (F : Type) where
  temperature : F
  destRow : Fin 240
  destCol : Fin 320

/-- The first cell of the source. -/
def firstCell (srcMatrix : Fin 24 → Fin 32 → F) : Best F 24 32 :=
  ⟨srcMatrix ⟨0, Nat.zero_lt_succ 23⟩ ⟨0, Nat.zero_lt_succ 31⟩, ⟨0, Nat.zero_lt_succ 23⟩,
    ⟨0, Nat.zero_lt_succ 31⟩⟩

/-- What `find_max_temperature` and `find_min_temperature` share. -/
def findExtreme (better : F → F → Bool) (srcMatrix : Fin 24 → Fin 32 → F)
    (destMatrix : Fin 240 → Fin 320 → F) : Found F × (Fin 240 → Fin 320 → F) :=
  let best := scan better srcMatrix (firstCell srcMatrix)
  let destRow : Fin 240 := ⟨best.row * (240 / 24), destRow_lt best.row.isLt⟩
  let destCol : Fin 320 := ⟨best.col * (320 / 32), destCol_lt best.col.isLt⟩
  (⟨best.value, destRow, destCol⟩, updateCell destMatrix destRow destCol best.value)

variable [LinearOrder F]

def hotter (x y : F) : Bool := decide (x > y)
def colder (x y : F) : Bool := decide (x < y)

def findMaxTemperature (srcMatrix : Fin 24 → Fin 32 → F) (destMatrix : Fin 240 → Fin 320 → F) :
    Found F × (Fin 240 → Fin 320 → F) :=
  findExtreme hotter srcMatrix destMatrix

def findMinTemperature (srcMatrix : Fin 24 → Fin 32 → F) (destMatrix : Fin 240 → Fin 320 → F) :
    Found F × (Fin 240 → Fin 320 → F) :=
  findExtreme colder srcMatrix destMatrix

end Extremes

/-- The globals of the display after the temperatures of a frame were taken over. -/
structure Frame (F : Type) where
  srcMatrix : Fin 24 → Fin 32 → F
  destMatrix : Fin 240 → Fin 320 → F
  hottest : Found F
  coldest : Found F

section Code

variable {F : Type} [Add F] [Sub F] [Mul F] [Div F] [CFloat F] [CInt F] [LinearOrder F]

/-- `thread1_entry` from `int index = 767` to `find_min_temperature`. -/
def takeFrame (mlx90640To : Fin 768 → F) (beyond : Int → Int → F)
    (srcMatrix : Fin 24 → Fin 32 → F) (destMatrix : Fin 240 → Fin 320 → F) : Option (Frame F) := do
  let srcMatrix ← copyReversed mlx90640To srcMatrix
  let destMatrix ← bilinearInterpolation (memory srcMatrix beyond) destMatrix
  let (hottest, destMatrix) := findMaxTemperature srcMatrix destMatrix
  let (coldest, destMatrix) := findMinTemperature srcMatrix destMatrix
  return ⟨srcMatrix, destMatrix, hottest, coldest⟩

end Code

section CopySpec

variable {F : Type} {mlx90640To : Fin 768 → F}

theorem temperatureAt_eq {n : Nat} (hn : n < 768) :
    temperatureAt mlx90640To n = some (mlx90640To ⟨n, hn⟩) := by
  have hrange : (0 : Int) ≤ n ∧ ((n : Int)).toNat < 768 := by omega
  rw [temperatureAt, dif_pos hrange]
  rfl

theorem updateCell_at {r c : Nat} (a : Fin r → Fin c → F) (i i' : Fin r) (j j' : Fin c) (v : F) :
    updateCell a i j v i' j' = if i' = i ∧ j' = j then v else a i' j' := by
  by_cases hi : i' = i
  · subst hi
    by_cases hj : j' = j
    · subst hj
      simp [updateCell]
    · simp [updateCell, hj]
  · simp [updateCell, hi]

/-- Where a cell of the matrix comes from. -/
def origin (i : Fin 24) (j : Fin 32) : Nat := 32 * (23 - i) + j

theorem origin_lt (i : Fin 24) (j : Fin 32) : origin i j < 768 := by
  rw [origin]
  omega

/-- The first `n` temperatures from the back are copied. -/
def Copied (mlx90640To : Fin 768 → F) (n : Nat) (state : Int × (Fin 24 → Fin 32 → F)) : Prop :=
  state.1 = 767 - n ∧ ∀ (i : Fin 24) (j : Fin 32) (hp : origin i j < 768),
    768 ≤ origin i j + n → state.2 i j = mlx90640To ⟨origin i j, hp⟩

theorem copyCell_copied {i : Fin 24} {k : Nat} (hk : k < 32)
    {state : Int × (Fin 24 → Fin 32 → F)} (h : Copied mlx90640To (32 * i + k) state) :
    ∃ state', copyCell mlx90640To i ⟨31 - k, column_lt hk⟩ state = some state' ∧
      Copied mlx90640To (32 * i + k + 1) state' := by
  obtain ⟨hindex, hcells⟩ := h
  have horigin : origin i ⟨31 - k, column_lt hk⟩ = 767 - (32 * i + k) := by
    simp only [origin]
    omega
  have hlt : origin i ⟨31 - k, column_lt hk⟩ < 768 := by omega
  have hread : state.1 = (origin i ⟨31 - k, column_lt hk⟩ : Nat) := by omega
  refine ⟨_, by rw [copyCell, hread, temperatureAt_eq hlt]; rfl, by simp only; omega, ?_⟩
  intro i' j' hp hdone
  simp only [updateCell_at]
  split
  case isTrue hcell =>
    obtain ⟨rfl, rfl⟩ := hcell
    rfl
  case isFalse hcell =>
    apply hcells i' j' hp
    -- a cell other than the one just written has another origin
    have hne : ¬ (i'.val = i.val ∧ j'.val = 31 - k) :=
      fun he => hcell ⟨Fin.ext he.1, Fin.ext he.2⟩
    simp only [origin] at hdone ⊢
    omega

/-- The copy reads every temperature once and ends with the rows in reverse order. -/
theorem copyReversed_eq (mlx90640To : Fin 768 → F) (srcMatrix : Fin 24 → Fin 32 → F) :
    ∃ src, copyReversed mlx90640To srcMatrix = some src ∧
      ∀ (i : Fin 24) (j : Fin 32) (hp : origin i j < 768), src i j = mlx90640To ⟨origin i j, hp⟩ := by
  have hstart : Copied mlx90640To (32 * 0) (767, srcMatrix) :=
    ⟨rfl, fun i j hp hdone => by omega⟩
  obtain ⟨state, hfold, -, hcells⟩ := fold_bind_invariant
    (f := fun i (hi : i < 24) state => Nat.fold 32 (fun k hk state => state.bind
      (copyCell mlx90640To ⟨i, hi⟩ ⟨31 - k, column_lt hk⟩)) (some state))
    (fun i => Copied mlx90640To (32 * i)) hstart fun i hi state hstate =>
      fold_bind_invariant (fun k => Copied mlx90640To (32 * i + k)) hstate
        fun k hk state hstate => copyCell_copied (i := ⟨i, hi⟩) hk hstate
  refine ⟨state.2, ?_, fun i j hp => hcells i j hp (by simp only [origin]; omega)⟩
  rw [copyReversed, hfold]
  rfl

end CopySpec

/-- The first cell, in reading order, of those whose temperature satisfies `p`. -/
def IsFirst {F : Type} (srcMatrix : Fin 24 → Fin 32 → F) (p : F → Prop) (i : Fin 24) (j : Fin 32) :
    Prop :=
  p (srcMatrix i j) ∧ ∀ i' j', p (srcMatrix i' j') → position i j ≤ position i' j'

section ScanSpec

variable {F : Type} {better : F → F → Bool}

theorem scan_source_leads (hasymm : ∀ x y, better x y → ¬ better y x)
    (hbeats : ∀ x y z, better x y → ¬ better z y → better x z) (srcMatrix : Fin 24 → Fin 32 → F) :
    Leads better srcMatrix (32 * 24) (scan better srcMatrix (firstCell srcMatrix)) :=
  scan_leads hasymm hbeats srcMatrix
    ⟨rfl, fun _ _ h => absurd h (Nat.not_lt_zero _), fun _ _ h => absurd h (Nat.not_lt_zero _)⟩

/-- The temperature, the cell of the picture and the store of `findExtreme`. -/
structure Marks (better : F → F → Bool) (srcMatrix : Fin 24 → Fin 32 → F)
    (destMatrix : Fin 240 → Fin 320 → F) (i : Fin 24) (j : Fin 32) : Prop where
  temperature : (findExtreme better srcMatrix destMatrix).1.temperature = srcMatrix i j
  destRow : (findExtreme better srcMatrix destMatrix).1.destRow.val = 10 * i
  destCol : (findExtreme better srcMatrix destMatrix).1.destCol.val = 10 * j
  unbeaten : ∀ i' j', ¬ better (srcMatrix i' j') (srcMatrix i j)
  first : ∀ i' j', position i' j' < position i j → better (srcMatrix i j) (srcMatrix i' j')

theorem findExtreme_marks (hasymm : ∀ x y, better x y → ¬ better y x)
    (hbeats : ∀ x y z, better x y → ¬ better z y → better x z) (srcMatrix : Fin 24 → Fin 32 → F)
    (destMatrix : Fin 240 → Fin 320 → F) :
    ∃ i j, Marks better srcMatrix destMatrix i j := by
  have h := scan_source_leads hasymm hbeats srcMatrix
  refine ⟨(scan better srcMatrix (firstCell srcMatrix)).row,
    (scan better srcMatrix (firstCell srcMatrix)).col, h.value, ?_, ?_, ?_, ?_⟩
  · simp only [findExtreme]
    omega
  · simp only [findExtreme]
    omega
  · intro i' j'
    rw [← h.value]
    exact h.unbeaten i' j' (position_lt i' j')
  · rw [← h.value]
    exact h.first

/-- The temperature is stored in its cell and nowhere else. -/
def Stored (found : Found F) (before after : Fin 240 → Fin 320 → F) : Prop :=
  ∀ y x, after y x =
    if y = found.destRow ∧ x = found.destCol then found.temperature else before y x

theorem findExtreme_stored (better : F → F → Bool) (srcMatrix : Fin 24 → Fin 32 → F)
    (destMatrix : Fin 240 → Fin 320 → F) :
    Stored (findExtreme better srcMatrix destMatrix).1 destMatrix
      (findExtreme better srcMatrix destMatrix).2 :=
  fun y x => updateCell_at destMatrix _ y _ x _

theorem Marks.isFirst {srcMatrix : Fin 24 → Fin 32 → F} {destMatrix : Fin 240 → Fin 320 → F}
    {i : Fin 24} {j : Fin 32} (h : Marks better srcMatrix destMatrix i j) {p : F → Prop}
    (hp : ∀ t, p t ↔ ∀ i' j', ¬ better (srcMatrix i' j') t) : IsFirst srcMatrix p i j := by
  refine ⟨(hp _).mpr h.unbeaten, fun i' j' hextreme => ?_⟩
  by_contra hlt
  exact (hp _).mp hextreme i j (h.first i' j' (by omega))

end ScanSpec

section Ordered

variable {F : Type} [LinearOrder F]

theorem hotter_asymm (x y : F) : hotter x y → ¬ hotter y x := by
  simp only [hotter, decide_eq_true_eq, gt_iff_lt, not_lt]
  exact le_of_lt

theorem hotter_beats (x y z : F) : hotter x y → ¬ hotter z y → hotter x z := by
  simp only [hotter, decide_eq_true_eq, gt_iff_lt, not_lt]
  exact fun hxy hzy => hzy.trans_lt hxy

theorem colder_asymm (x y : F) : colder x y → ¬ colder y x := by
  simp only [colder, decide_eq_true_eq, not_lt]
  exact le_of_lt

theorem colder_beats (x y z : F) : colder x y → ¬ colder z y → colder x z := by
  simp only [colder, decide_eq_true_eq, not_lt]
  exact fun hxy hyz => hxy.trans_le hyz

/-- The first of the hottest cells. -/
def FirstHottest (srcMatrix : Fin 24 → Fin 32 → F) (i : Fin 24) (j : Fin 32) : Prop :=
  IsFirst srcMatrix (fun t => ∀ i' j', srcMatrix i' j' ≤ t) i j

/-- The first of the coldest cells. -/
def FirstColdest (srcMatrix : Fin 24 → Fin 32 → F) (i : Fin 24) (j : Fin 32) : Prop :=
  IsFirst srcMatrix (fun t => ∀ i' j', t ≤ srcMatrix i' j') i j

/-- A source cell, its temperature and its place in the picture. -/
structure FoundAt (srcMatrix : Fin 24 → Fin 32 → F) (found : Found F) (i : Fin 24) (j : Fin 32) :
    Prop where
  temperature : found.temperature = srcMatrix i j
  destRow : found.destRow.val = 10 * i
  destCol : found.destCol.val = 10 * j

variable (srcMatrix : Fin 24 → Fin 32 → F) (destMatrix : Fin 240 → Fin 320 → F)

theorem findMaxTemperature_found : ∃ i j, FirstHottest srcMatrix i j ∧
    FoundAt srcMatrix (findMaxTemperature srcMatrix destMatrix).1 i j ∧
    Stored (findMaxTemperature srcMatrix destMatrix).1 destMatrix
      (findMaxTemperature srcMatrix destMatrix).2 := by
  obtain ⟨i, j, h⟩ := findExtreme_marks hotter_asymm hotter_beats srcMatrix destMatrix
  exact ⟨i, j, h.isFirst fun t => by simp [hotter], ⟨h.temperature, h.destRow, h.destCol⟩,
    findExtreme_stored hotter srcMatrix destMatrix⟩

theorem findMinTemperature_found : ∃ i j, FirstColdest srcMatrix i j ∧
    FoundAt srcMatrix (findMinTemperature srcMatrix destMatrix).1 i j ∧
    Stored (findMinTemperature srcMatrix destMatrix).1 destMatrix
      (findMinTemperature srcMatrix destMatrix).2 := by
  obtain ⟨i, j, h⟩ := findExtreme_marks colder_asymm colder_beats srcMatrix destMatrix
  exact ⟨i, j, h.isFirst fun t => by simp [colder], ⟨h.temperature, h.destRow, h.destCol⟩,
    findExtreme_stored colder srcMatrix destMatrix⟩

end Ordered

theorem blended_between {srcMatrix : Fin 24 → Fin 32 → ℚ} {low high : ℚ}
    (hlow : ∀ r c, low ≤ srcMatrix r c) (hhigh : ∀ r c, srcMatrix r c ≤ high)
    (beyond : Int → Int → ℚ) (y : Fin 240) (x : Fin 320) :
    low ≤ blended srcMatrix beyond y x ∧ blended srcMatrix beyond y x ≤ high := by
  -- a flat source is a plane without slopes
  have hflat : ∀ level : ℚ, blended (fun _ _ => level) beyond y x = level := by
    intro level
    simpa using blended_affine level 0 0 beyond y x
  constructor
  · rw [← hflat low]
    exact blended_mono hlow beyond beyond y x
  · rw [← hflat high]
    exact blended_mono hhigh beyond beyond y x

/-- What the temperatures of a frame leave in the globals of the display. -/
structure FrameLaw (mlx90640To : Fin 768 → ℚ) (frame : Frame ℚ) : Prop where
  source : ∀ (i : Fin 24) (j : Fin 32) (p : Fin 768), p.val = 32 * (23 - i) + j →
    frame.srcMatrix i j = mlx90640To p
  hottest : IsGreatest (Set.range mlx90640To) frame.hottest.temperature
  coldest : IsLeast (Set.range mlx90640To) frame.coldest.temperature
  hottestCell : ∀ (i : Fin 24) (j : Fin 32), i.val = frame.hottest.destRow / 10 →
    j.val = frame.hottest.destCol / 10 →
    IsFirst frame.srcMatrix (· = frame.hottest.temperature) i j
  coldestCell : ∀ (i : Fin 24) (j : Fin 32), i.val = frame.coldest.destRow / 10 →
    j.val = frame.coldest.destCol / 10 →
    IsFirst frame.srcMatrix (· = frame.coldest.temperature) i j
  bounded : ∀ y x, frame.coldest.temperature ≤ frame.destMatrix y x ∧
    frame.destMatrix y x ≤ frame.hottest.temperature
  hottestStored : frame.destMatrix frame.hottest.destRow frame.hottest.destCol =
    frame.hottest.temperature
  coldestStored : frame.destMatrix frame.coldest.destRow frame.coldest.destCol =
    frame.coldest.temperature

/-- The cells of the source are the temperatures. -/
theorem source_range {mlx90640To : Fin 768 → ℚ} {srcMatrix : Fin 24 → Fin 32 → ℚ}
    (h : ∀ (i : Fin 24) (j : Fin 32) (hp : origin i j < 768),
      srcMatrix i j = mlx90640To ⟨origin i j, hp⟩) :
    Set.range mlx90640To = Set.range fun c : Fin 24 × Fin 32 => srcMatrix c.1 c.2 := by
  apply Set.Subset.antisymm
  · rintro _ ⟨p, rfl⟩
    have hi : 23 - p.val / 32 < 24 := by omega
    have hj : p.val % 32 < 32 := by omega
    have horigin : origin ⟨23 - p.val / 32, hi⟩ ⟨p.val % 32, hj⟩ = p.val := by
      simp only [origin]
      omega
    refine ⟨⟨⟨23 - p.val / 32, hi⟩, ⟨p.val % 32, hj⟩⟩, ?_⟩
    simp only
    rw [h _ _ (by omega)]
    exact congrArg mlx90640To (Fin.ext horigin)
  · rintro _ ⟨c, rfl⟩
    exact ⟨_, (h c.1 c.2 (origin_lt c.1 c.2)).symm⟩

section Law

variable {F : Type} {srcMatrix : Fin 24 → Fin 32 → F} {found : Found F} {i : Fin 24} {j : Fin 32}

/-- The source cell is read off the cell of the picture by dividing by ten. -/
theorem FoundAt.cell (h : FoundAt srcMatrix found i j) {i' : Fin 24} {j' : Fin 32}
    (hi : i'.val = found.destRow / 10) (hj : j'.val = found.destCol / 10) : i' = i ∧ j' = j := by
  have hrow := h.destRow
  have hcol := h.destCol
  exact ⟨Fin.ext (by omega), Fin.ext (by omega)⟩

theorem FoundAt.isFirst (h : FoundAt srcMatrix found i j) {p : F → Prop}
    (hfirst : IsFirst srcMatrix p i j) {i' : Fin 24} {j' : Fin 32}
    (hi : i'.val = found.destRow / 10) (hj : j'.val = found.destCol / 10) :
    IsFirst srcMatrix (· = found.temperature) i' j' := by
  obtain ⟨rfl, rfl⟩ := h.cell hi hj
  refine ⟨h.temperature.symm, fun i' j' heq => hfirst.2 i' j' ?_⟩
  simp only at heq
  rw [heq, h.temperature]
  exact hfirst.1

end Law

/-- The two stores keep the picture between the extremes, and the second does not undo the
first: when both go to one cell, the extremes are equal. -/
theorem stored_law {srcMatrix : Fin 24 → Fin 32 → ℚ} {hottest coldest : Found ℚ}
    {i i' : Fin 24} {j j' : Fin 32} (hhot : FirstHottest srcMatrix i j)
    (hmax : FoundAt srcMatrix hottest i j) (hcold : FirstColdest srcMatrix i' j')
    (hmin : FoundAt srcMatrix coldest i' j') {picture marked final : Fin 240 → Fin 320 → ℚ}
    (hpicture : ∀ y x, coldest.temperature ≤ picture y x ∧ picture y x ≤ hottest.temperature)
    (hmarked : Stored hottest picture marked) (hfinal : Stored coldest marked final) :
    (∀ y x, coldest.temperature ≤ final y x ∧ final y x ≤ hottest.temperature) ∧
      final hottest.destRow hottest.destCol = hottest.temperature ∧
      final coldest.destRow coldest.destCol = coldest.temperature := by
  have hle : coldest.temperature ≤ hottest.temperature := by
    rw [hmin.temperature, hmax.temperature]
    exact hcold.1 i j
  refine ⟨fun y x => ?_, ?_, ?_⟩
  · rw [hfinal, hmarked]
    split_ifs
    · exact ⟨le_rfl, hle⟩
    · exact ⟨hle, le_rfl⟩
    · exact hpicture y x
  · rw [hfinal]
    split
    case isTrue hsame =>
      have hrow := congrArg Fin.val hsame.1
      have hcol := congrArg Fin.val hsame.2
      have hrows := hmax.destRow
      have hcols := hmax.destCol
      have hrows' := hmin.destRow
      have hcols' := hmin.destCol
      obtain rfl : i' = i := Fin.ext (by omega)
      obtain rfl : j' = j := Fin.ext (by omega)
      rw [hmin.temperature, hmax.temperature]
    case isFalse =>
      rw [hmarked, if_pos ⟨rfl, rfl⟩]
  · rw [hfinal, if_pos ⟨rfl, rfl⟩]

theorem takeFrame_run (mlx90640To : Fin 768 → ℚ) (beyond : Int → Int → ℚ)
    (srcMatrix : Fin 24 → Fin 32 → ℚ) (destMatrix : Fin 240 → Fin 320 → ℚ) :
    ∃ src, (∀ (i : Fin 24) (j : Fin 32) (hp : origin i j < 768),
        src i j = mlx90640To ⟨origin i j, hp⟩) ∧
      ∃ picture, (∀ y x, picture y x = blended src beyond y.val x.val) ∧
      takeFrame mlx90640To beyond srcMatrix destMatrix =
        some ⟨src, (findMinTemperature src (findMaxTemperature src picture).2).2,
          (findMaxTemperature src picture).1,
          (findMinTemperature src (findMaxTemperature src picture).2).1⟩ := by
  obtain ⟨src, hcopy, hsource⟩ := copyReversed_eq mlx90640To srcMatrix
  refine ⟨src, hsource, fun y x => blended src beyond y x, fun y x => rfl, ?_⟩
  simp only [takeFrame, hcopy, Option.bind_eq_bind, Option.bind_some, bilinearInterpolation_memory]
  rfl

/-- For all temperatures the frame is taken without a fault and obeys the law. -/
theorem takeFrame_law (mlx90640To : Fin 768 → ℚ) (beyond : Int → Int → ℚ)
    (srcMatrix : Fin 24 → Fin 32 → ℚ) (destMatrix : Fin 240 → Fin 320 → ℚ) :
    ∃ frame, takeFrame mlx90640To beyond srcMatrix destMatrix = some frame ∧
      FrameLaw mlx90640To frame := by
  obtain ⟨src, hsource, picture, hblended, hrun⟩ :=
    takeFrame_run mlx90640To beyond srcMatrix destMatrix
  obtain ⟨i, j, hhot, hmax, hmaxStored⟩ := findMaxTemperature_found src picture
  obtain ⟨i', j', hcold, hmin, hminStored⟩ :=
    findMinTemperature_found src (findMaxTemperature src picture).2
  have hpicture : ∀ y x, src i' j' ≤ picture y x ∧ picture y x ≤ src i j := by
    intro y x
    rw [hblended]
    exact blended_between hcold.1 hhot.1 beyond y x
  obtain ⟨hbounded, hhotStored, hcoldStored⟩ := stored_law hhot hmax hcold hmin
    (by rw [hmin.temperature, hmax.temperature]; exact hpicture)
    hmaxStored hminStored
  generalize findMaxTemperature src picture = max at *
  generalize findMinTemperature src max.2 = min at *
  refine ⟨_, hrun, ?_, ?_, ?_, ?_, ?_, hbounded, hhotStored, hcoldStored⟩
  · intro i j p hp
    exact (hsource i j (origin_lt i j)).trans (congrArg mlx90640To (Fin.ext hp.symm))
  · change IsGreatest (Set.range mlx90640To) max.1.temperature
    rw [hmax.temperature, source_range hsource]
    exact ⟨⟨(i, j), rfl⟩, Set.forall_mem_range.mpr fun c => hhot.1 c.1 c.2⟩
  · change IsLeast (Set.range mlx90640To) min.1.temperature
    rw [hmin.temperature, source_range hsource]
    exact ⟨⟨(i', j'), rfl⟩, Set.forall_mem_range.mpr fun c => hcold.1 c.1 c.2⟩
  · exact fun _ _ hi hj => hmax.isFirst hhot hi hj
  · exact fun _ _ hi hj => hmin.isFirst hcold hi hj

/-- The cell of the source that the interpolation draws a cell of the picture from: the
nearest one to its source coordinates. -/
def DrawnFrom (row : Fin 240) (col : Fin 320) (i : Fin 24) (j : Fin 32) : Prop :=
  round ((row : ℚ) * 23 / 239) = i ∧ round ((col : ℚ) * 31 / 319) = j

/-- Ten cells of the picture per source cell, against a scale of `10 + 9 / n`. -/
theorem round_scaled_eq_iff (n k : Nat) :
    round ((10 * k : Nat) * (n : ℚ) / (10 * n + 9)) = k ↔ 18 * k ≤ 10 * n + 9 := by
  have hpos : (0 : ℚ) < 10 * n + 9 := by positivity
  rw [round_eq, Int.floor_eq_iff]
  push_cast
  constructor
  · intro hboth
    obtain ⟨hlow, -⟩ := hboth
    have hscaled : (k : ℚ) * (10 * n + 9) ≤ 10 * k * n + 1 / 2 * (10 * n + 9) := by
      have := mul_le_mul_of_nonneg_right hlow hpos.le
      rwa [add_mul, div_mul_cancel₀ _ hpos.ne'] at this
    have hcast : (18 * k : ℚ) ≤ 10 * n + 9 := by linarith
    exact_mod_cast hcast
  · intro h
    have hcast : (18 * k : ℚ) ≤ 10 * n + 9 := by exact_mod_cast h
    have hk : (0 : ℚ) ≤ k := Nat.cast_nonneg k
    constructor
    · rw [← sub_le_iff_le_add, le_div_iff₀ hpos]
      linarith
    · have hle : (10 * k : ℚ) * n / (10 * n + 9) ≤ k := by
        rw [div_le_iff₀ hpos]
        linarith
      linarith

theorem FoundAt.drawnFrom_iff {F : Type} {srcMatrix : Fin 24 → Fin 32 → F} {found : Found F}
    {i : Fin 24} {j : Fin 32} (h : FoundAt srcMatrix found i j) :
    DrawnFrom found.destRow found.destCol i j ↔ i.val ≤ 13 ∧ j.val ≤ 17 := by
  have hrow := round_scaled_eq_iff 23 i
  have hcol := round_scaled_eq_iff 31 j
  norm_num at hrow hcol
  rw [DrawnFrom, h.destRow, h.destCol]
  push_cast
  rw [hrow, hcol]
  omega

theorem IsFirst.unique {F : Type} {srcMatrix : Fin 24 → Fin 32 → F} {p : F → Prop}
    {i i' : Fin 24} {j j' : Fin 32} (h : IsFirst srcMatrix p i j) (h' : IsFirst srcMatrix p i' j') :
    i = i' ∧ j = j' :=
  position_inj (le_antisymm (h.2 i' j' h'.1) (h'.2 i j h.1))

/-- Whatever the first extreme cell is, the marker is drawn from it exactly when it lies near
the origin. -/
theorem FoundAt.marker_iff {F : Type} {srcMatrix : Fin 24 → Fin 32 → F} {found : Found F}
    {i : Fin 24} {j : Fin 32} (h : FoundAt srcMatrix found i j) {p : F → Prop}
    (hfirst : IsFirst srcMatrix p i j) :
    (∃ i j, IsFirst srcMatrix p i j ∧ DrawnFrom found.destRow found.destCol i j) ↔
      ∃ i j, IsFirst srcMatrix p i j ∧ i.val ≤ 13 ∧ j.val ≤ 17 := by
  constructor
  · intro hfound
    obtain ⟨i', j', hfirst', hdrawn⟩ := hfound
    obtain ⟨rfl, rfl⟩ := hfirst.unique hfirst'
    exact ⟨i, j, hfirst, h.drawnFrom_iff.mp hdrawn⟩
  · intro hfound
    obtain ⟨i', j', hfirst', hnear⟩ := hfound
    obtain ⟨rfl, rfl⟩ := hfirst.unique hfirst'
    exact ⟨i, j, hfirst, h.drawnFrom_iff.mpr hnear⟩

/-- The marker of the highest temperature sits on the first hottest cell. -/
def MaxMarkerPlaced (srcMatrix : Fin 24 → Fin 32 → ℚ) (destMatrix : Fin 240 → Fin 320 → ℚ) : Prop :=
  ∃ i j, FirstHottest srcMatrix i j ∧
    DrawnFrom (findMaxTemperature srcMatrix destMatrix).1.destRow
      (findMaxTemperature srcMatrix destMatrix).1.destCol i j

/-- The marker of the lowest temperature sits on the first coldest cell. -/
def MinMarkerPlaced (srcMatrix : Fin 24 → Fin 32 → ℚ) (destMatrix : Fin 240 → Fin 320 → ℚ) : Prop :=
  ∃ i j, FirstColdest srcMatrix i j ∧
    DrawnFrom (findMinTemperature srcMatrix destMatrix).1.destRow
      (findMinTemperature srcMatrix destMatrix).1.destCol i j

theorem maxMarkerPlaced_iff (srcMatrix : Fin 24 → Fin 32 → ℚ)
    (destMatrix : Fin 240 → Fin 320 → ℚ) :
    MaxMarkerPlaced srcMatrix destMatrix ↔
      ∃ i j, FirstHottest srcMatrix i j ∧ i.val ≤ 13 ∧ j.val ≤ 17 := by
  obtain ⟨i, j, hfirst, hfound, -⟩ := findMaxTemperature_found srcMatrix destMatrix
  exact hfound.marker_iff hfirst

theorem minMarkerPlaced_iff (srcMatrix : Fin 24 → Fin 32 → ℚ)
    (destMatrix : Fin 240 → Fin 320 → ℚ) :
    MinMarkerPlaced srcMatrix destMatrix ↔
      ∃ i j, FirstColdest srcMatrix i j ∧ i.val ≤ 13 ∧ j.val ≤ 17 := by
  obtain ⟨i, j, hfirst, hfound, -⟩ := findMinTemperature_found srcMatrix destMatrix
  exact hfound.marker_iff hfirst

/-- Both markers are placed exactly when both extreme cells lie in the first fourteen rows
and the first eighteen columns. -/
theorem markers_placed_iff (srcMatrix : Fin 24 → Fin 32 → ℚ) (destMatrix : Fin 240 → Fin 320 → ℚ) :
    (MaxMarkerPlaced srcMatrix destMatrix ↔
      ∃ i j, FirstHottest srcMatrix i j ∧ i.val ≤ 13 ∧ j.val ≤ 17) ∧
    (MinMarkerPlaced srcMatrix destMatrix ↔
      ∃ i j, FirstColdest srcMatrix i j ∧ i.val ≤ 13 ∧ j.val ≤ 17) :=
  ⟨maxMarkerPlaced_iff srcMatrix destMatrix, minMarkerPlaced_iff srcMatrix destMatrix⟩

/-- A scene at 20 degrees with 40 degrees in its last cell: the interpolation draws the
marked cell (230, 310) from the source cell (22, 30). -/
theorem marker_misplaced_in_last_cell :
    ¬ MaxMarkerPlaced (fun i j => if i.val = 23 ∧ j.val = 31 then 40 else 20) fun _ _ => 0 := by
  rw [maxMarkerPlaced_iff]
  intro h
  obtain ⟨i, j, ⟨hmax, -⟩, hi, -⟩ := h
  have hlast := hmax ⟨23, by decide⟩ ⟨31, by decide⟩
  have hcold : ¬ (i.val = 23 ∧ j.val = 31) := by omega
  norm_num [hcold] at hlast

end Mlx90640.Display.Extremes
