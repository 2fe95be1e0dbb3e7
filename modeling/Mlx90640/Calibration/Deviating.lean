import Mlx90640.Lib.Loops
import Mlx90640.Calibration.Params
import Mathlib.Data.List.Pairwise
import Mathlib.Data.List.ProdSigma

/-!
# The search for deviating pixels

`ExtractDeviatingPixels` fills two lists of five entries with the pixels whose EEPROM
word is zero (broken) or odd (outlier), and then answers a warning code. The scan stops
as soon as one list is full, so a full list has no `0xFFFF` entry left. The results of
the module describe the two lists as prefixes of the two pixel sets in scan order.
-/
namespace Mlx90640.Calibration.Deviating

open Mlx90640.Lib.Loops

structure Scan where
  brokenPixels : Fin 5 → UInt16
  outlierPixels : Fin 5 → UInt16
  brokenPixCnt : Nat
  outlierPixCnt : Nat

/-- The body of the scan loop, under the loop condition on the two counters. -/
def scanPass (eeData : EEPROM) (pixCnt : Nat) (s : Scan)
    (h : s.brokenPixCnt < 5 ∧ s.outlierPixCnt < 5) : Scan :=
  if eeData (pixCnt + 64) = 0 then
    { s with
      brokenPixels := Function.update s.brokenPixels ⟨s.brokenPixCnt, h.1⟩ (UInt16.ofNat pixCnt)
      brokenPixCnt := s.brokenPixCnt + 1 }
  else if eeData (pixCnt + 64) &&& 0x0001 ≠ 0 then
    { s with
      outlierPixels := Function.update s.outlierPixels ⟨s.outlierPixCnt, h.2⟩ (UInt16.ofNat pixCnt)
      outlierPixCnt := s.outlierPixCnt + 1 }
  else s

/-- `while(pixCnt < 768 && brokenPixCnt < 5 && outlierPixCnt < 5)`, with `remaining`
pixels still to look at. -/
def scanLoop (eeData : EEPROM) : (remaining pixCnt : Nat) → Scan → Scan
  | 0, _, s => s
  | remaining + 1, pixCnt, s =>
    if h : s.brokenPixCnt < 5 ∧ s.outlierPixCnt < 5 then
      scanLoop eeData remaining (pixCnt + 1) (scanPass eeData pixCnt s h)
    else s

def checkAdjacentPixels (pix1 pix2 : UInt16) : Int :=
  let pixPosDif : Int := pix1.toNat - pix2.toNat
  if pixPosDif > -34 ∧ pixPosDif < -30 then -6
  else if pixPosDif > -2 ∧ pixPosDif < 2 then -6
  else if pixPosDif > 30 ∧ pixPosDif < 34 then -6
  else 0

/-- The pairs that `for(pixCnt..) for(i = pixCnt + 1..)` visits, in its order. -/
def pairsOf {α : Type} : List α → List (α × α)
  | [] => []
  | x :: rest => rest.map (x, ·) ++ pairsOf rest

/-- `warn = CheckAdjacentPixels(..); if(warn != 0) return warn;` over a sequence of pairs. -/
def firstWarning : List (UInt16 × UInt16) → Int
  | [] => 0
  | (pix1, pix2) :: rest =>
    let warn := checkAdjacentPixels pix1 pix2
    if warn ≠ 0 then warn else firstWarning rest

def warning (s : Scan) : Int :=
  if s.brokenPixCnt > 4 then -3
  else if s.outlierPixCnt > 4 then -4
  else if s.brokenPixCnt + s.outlierPixCnt > 4 then -5
  else
    let broken := (List.ofFn s.brokenPixels).take s.brokenPixCnt
    let outlier := (List.ofFn s.outlierPixels).take s.outlierPixCnt
    firstWarning (pairsOf broken ++ pairsOf outlier ++ broken.product outlier)

variable {F : Type}

/-- `for(pixCnt = 0; pixCnt < 5; pixCnt++) list[pixCnt] = 0xFFFF;` -/
def clearList (list : Fin 5 → UInt16) : Fin 5 → UInt16 :=
  Nat.fold 5 (fun i h list => Function.update list ⟨i, h⟩ 0xFFFF) list

def extractDeviatingPixels (eeData : EEPROM) (mlx90640 : ParamsMLX90640 F) :
    Int × ParamsMLX90640 F :=
  let s := scanLoop eeData 768 0
    { brokenPixels := clearList mlx90640.brokenPixels
      outlierPixels := clearList mlx90640.outlierPixels
      brokenPixCnt := 0
      outlierPixCnt := 0 }
  (warning s, { mlx90640 with brokenPixels := s.brokenPixels, outlierPixels := s.outlierPixels })

def isBroken (eeData : EEPROM) (p : Nat) : Prop := eeData (p + 64) = 0

def isOutlier (eeData : EEPROM) (p : Nat) : Prop :=
  eeData (p + 64) ≠ 0 ∧ eeData (p + 64) &&& 0x0001 ≠ 0

instance (eeData : EEPROM) (p : Nat) : Decidable (isBroken eeData p) :=
  inferInstanceAs (Decidable (_ = _))

instance (eeData : EEPROM) (p : Nat) : Decidable (isOutlier eeData p) :=
  inferInstanceAs (Decidable (_ ∧ _))

/-- The broken pixels among the first `m`, ascending. -/
def brokenBelow (eeData : EEPROM) (m : Nat) : List Nat :=
  (List.range m).filter (isBroken eeData ·)

def outliersBelow (eeData : EEPROM) (m : Nat) : List Nat :=
  (List.range m).filter (isOutlier eeData ·)

/-- A five-entry list that starts with the pixels of `l`, padded with `0xFFFF`. -/
def entries (l : List Nat) : Fin 5 → UInt16 := fun k => (l[k.val]?.map UInt16.ofNat).getD 0xFFFF

/-- What the scan has stored after the first `m` pixels. -/
structure Scanned (eeData : EEPROM) (m : Nat) (s : Scan) : Prop where
  brokenPixels : s.brokenPixels = entries (brokenBelow eeData m)
  outlierPixels : s.outlierPixels = entries (outliersBelow eeData m)
  brokenPixCnt : s.brokenPixCnt = (brokenBelow eeData m).length
  outlierPixCnt : s.outlierPixCnt = (outliersBelow eeData m).length

theorem brokenBelow_succ (eeData : EEPROM) (m : Nat) :
    brokenBelow eeData (m + 1) =
      brokenBelow eeData m ++ if isBroken eeData m then [m] else [] := by
  simp only [brokenBelow, List.range_succ, List.filter_append]
  by_cases h : isBroken eeData m <;> simp [h]

theorem outliersBelow_succ (eeData : EEPROM) (m : Nat) :
    outliersBelow eeData (m + 1) =
      outliersBelow eeData m ++ if isOutlier eeData m then [m] else [] := by
  simp only [outliersBelow, List.range_succ, List.filter_append]
  by_cases h : isOutlier eeData m <;> simp [h]

theorem entries_append (l : List Nat) (p : Nat) (h : l.length < 5) :
    entries (l ++ [p]) = Function.update (entries l) ⟨l.length, h⟩ (UInt16.ofNat p) := by
  funext k
  by_cases hk : k = ⟨l.length, h⟩
  · subst hk
    simp [entries]
  · have hne : k.val ≠ l.length := fun he => hk (Fin.ext he)
    rw [Function.update_of_ne hk]
    simp only [entries]
    rcases Nat.lt_or_gt_of_ne hne with hlt | hgt
    · rw [List.getElem?_append_left hlt]
    · rw [List.getElem?_eq_none (by simp; omega), List.getElem?_eq_none (by omega)]

/-- One pass stores pixel `m` where it belongs. -/
theorem scanPass_scanned {eeData : EEPROM} {m : Nat} {s : Scan} (hs : Scanned eeData m s)
    (h : s.brokenPixCnt < 5 ∧ s.outlierPixCnt < 5) :
    Scanned eeData (m + 1) (scanPass eeData m s h) := by
  obtain ⟨brokenPixels, outlierPixels, brokenPixCnt, outlierPixCnt⟩ := s
  obtain ⟨rfl, rfl, rfl, rfl⟩ := hs
  by_cases hb : eeData (m + 64) = 0
  · have hbroken : isBroken eeData m := hb
    have houtlier : ¬isOutlier eeData m := fun ho => ho.1 hb
    rw [scanPass, if_pos hb]
    constructor <;>
      simp [brokenBelow_succ, outliersBelow_succ, hbroken, houtlier, entries_append _ _ h.1]
  · have hbroken : ¬isBroken eeData m := hb
    rw [scanPass, if_neg hb]
    by_cases hodd : eeData (m + 64) &&& 0x0001 ≠ 0
    · have houtlier : isOutlier eeData m := ⟨hb, hodd⟩
      rw [if_pos hodd]
      constructor <;>
        simp [brokenBelow_succ, outliersBelow_succ, hbroken, houtlier, entries_append _ _ h.2]
    · have houtlier : ¬isOutlier eeData m := fun ho => hodd ho.2
      rw [if_neg hodd]
      constructor <;> simp [brokenBelow_succ, outliersBelow_succ, hbroken, houtlier]

/-- The pixel count at which the scan ends: both lists had room up to there, and either
all pixels were seen or one list is full. -/
structure ScanEnd (eeData : EEPROM) (m : Nat) : Prop where
  le : m ≤ 768
  room : ∀ k < m, (brokenBelow eeData k).length < 5 ∧ (outliersBelow eeData k).length < 5
  done : m = 768 ∨ (brokenBelow eeData m).length = 5 ∨ (outliersBelow eeData m).length = 5

/-- A pass finds at most one pixel, so no list ever holds more than five, and the two are
not full together. -/
theorem length_add_le_of_room {eeData : EEPROM} {m : Nat}
    (hroom : ∀ k < m, (brokenBelow eeData k).length < 5 ∧ (outliersBelow eeData k).length < 5) :
    (brokenBelow eeData m).length ≤ 5 ∧ (outliersBelow eeData m).length ≤ 5 ∧
      (brokenBelow eeData m).length + (outliersBelow eeData m).length ≤ 9 := by
  cases m with
  | zero => simp [brokenBelow, outliersBelow]
  | succ m =>
    obtain ⟨hb, ho⟩ := hroom m (Nat.lt_succ_self m)
    rw [brokenBelow_succ, outliersBelow_succ, List.length_append, List.length_append]
    by_cases hbroken : isBroken eeData m
    · have houtlier : ¬isOutlier eeData m := fun h => h.1 hbroken
      simp only [hbroken, houtlier, if_true, if_false, List.length_singleton, List.length_nil]
      omega
    · simp only [hbroken, if_false, List.length_nil]
      split <;> simp only [List.length_singleton, List.length_nil] <;> omega

theorem scanLoop_scanned (eeData : EEPROM) (remaining : Nat) {m : Nat} {s : Scan}
    (hm : m + remaining = 768) (hs : Scanned eeData m s)
    (hroom : ∀ k < m, (brokenBelow eeData k).length < 5 ∧ (outliersBelow eeData k).length < 5) :
    ∃ stop, ScanEnd eeData stop ∧ Scanned eeData stop (scanLoop eeData remaining m s) := by
  induction remaining generalizing m s with
  | zero => exact ⟨m, ⟨by omega, hroom, .inl (by omega)⟩, hs⟩
  | succ remaining ih =>
    rw [scanLoop]
    by_cases h : s.brokenPixCnt < 5 ∧ s.outlierPixCnt < 5
    · rw [dif_pos h]
      apply ih (by omega) (scanPass_scanned hs h)
      intro k hk
      rcases Nat.lt_succ_iff_lt_or_eq.mp hk with hlt | rfl
      · exact hroom k hlt
      · rw [← hs.brokenPixCnt, ← hs.outlierPixCnt]
        exact h
    · rw [dif_neg h]
      have hle := length_add_le_of_room hroom
      refine ⟨m, ⟨by omega, hroom, .inr ?_⟩, hs⟩
      rw [hs.brokenPixCnt, hs.outlierPixCnt] at h
      omega

theorem clearList_eq (list : Fin 5 → UInt16) : clearList list = entries [] :=
  fold_update (fun _ => 0xFFFF) list

/-- The scan from two cleared lists. -/
def scan (eeData : EEPROM) : Scan := scanLoop eeData 768 0 ⟨entries [], entries [], 0, 0⟩

theorem extractDeviatingPixels_eq (eeData : EEPROM) (mlx90640 : ParamsMLX90640 F) :
    extractDeviatingPixels eeData mlx90640 =
      (warning (scan eeData), { mlx90640 with
        brokenPixels := (scan eeData).brokenPixels
        outlierPixels := (scan eeData).outlierPixels }) := by
  simp only [extractDeviatingPixels, clearList_eq]
  rfl

/-- Both lists end as the pixels found up to one stopping point, in ascending order and
padded with `0xFFFF`. -/
theorem scan_scanned (eeData : EEPROM) :
    ∃ stop, ScanEnd eeData stop ∧ Scanned eeData stop (scan eeData) :=
  scanLoop_scanned eeData 768 (m := 0) rfl ⟨rfl, rfl, rfl, rfl⟩
    fun k hk => absurd hk (Nat.not_lt_zero k)

theorem ofFn_entries {l : List Nat} (h : l.length ≤ 5) :
    List.ofFn (entries l) = l.map UInt16.ofNat ++ List.replicate (5 - l.length) 0xFFFF := by
  match l, h with
  | [], _ | [_], _ | [_, _], _ | [_, _, _], _ | [_, _, _, _], _ | [_, _, _, _, _], _ => rfl

theorem mem_brokenBelow {eeData : EEPROM} {m p : Nat} :
    p ∈ brokenBelow eeData m ↔ p < m ∧ isBroken eeData p := by
  simp [brokenBelow]

theorem mem_outliersBelow {eeData : EEPROM} {m p : Nat} :
    p ∈ outliersBelow eeData m ↔ p < m ∧ isOutlier eeData p := by
  simp [outliersBelow]

theorem brokenBelow_sublist (eeData : EEPROM) {k m : Nat} (h : k ≤ m) :
    (brokenBelow eeData k).Sublist (brokenBelow eeData m) :=
  (List.range_sublist.mpr h).filter _

theorem outliersBelow_sublist (eeData : EEPROM) {k m : Nat} (h : k ≤ m) :
    (outliersBelow eeData k).Sublist (outliersBelow eeData m) :=
  (List.range_sublist.mpr h).filter _

def isDeviating (eeData : EEPROM) (p : Nat) : Prop := isBroken eeData p ∨ isOutlier eeData p

instance (eeData : EEPROM) (p : Nat) : Decidable (isDeviating eeData p) :=
  inferInstanceAs (Decidable (_ ∨ _))

/-- The index differences `CheckAdjacentPixels` rejects: 0, 1, 31, 32 and 33. -/
def near (p q : Nat) : Prop :=
  (q ≤ p + 1 ∧ p ≤ q + 1) ∨ (p + 30 < q ∧ q < p + 34) ∨ (q + 30 < p ∧ p < q + 34)

theorem not_near_symm : Std.Symm fun p q => ¬near p q := by
  constructor
  intro p q hpq hqp
  apply hpq
  simp only [near] at hqp ⊢
  omega

theorem checkAdjacentPixels_eq_zero_iff (pix1 pix2 : UInt16) :
    checkAdjacentPixels pix1 pix2 = 0 ↔ ¬near pix1.toNat pix2.toNat := by
  simp only [checkAdjacentPixels, near]
  split
  · simp only [reduceCtorEq, false_iff, not_not]
    omega
  · split
    · simp only [reduceCtorEq, false_iff, not_not]
      omega
    · split
      · simp only [reduceCtorEq, false_iff, not_not]
        omega
      · simp only [true_iff]
        omega

theorem firstWarning_eq_zero_iff (pairs : List (UInt16 × UInt16)) :
    firstWarning pairs = 0 ↔ ∀ pair ∈ pairs, ¬near pair.1.toNat pair.2.toNat := by
  induction pairs with
  | nil => simp [firstWarning]
  | cons pair rest ih =>
    obtain ⟨pix1, pix2⟩ := pair
    rw [firstWarning, List.forall_mem_cons, ← ih, ← checkAdjacentPixels_eq_zero_iff]
    by_cases h : checkAdjacentPixels pix1 pix2 = 0 <;> simp [h]

theorem forall_mem_pairsOf {α : Type} {R : α → α → Prop} (l : List α) :
    (∀ pair ∈ pairsOf l, R pair.1 pair.2) ↔ l.Pairwise R := by
  induction l with
  | nil => simp [pairsOf]
  | cons x rest ih =>
    rw [pairsOf, List.pairwise_cons, ← ih, List.forall_mem_append]
    simp

theorem firstWarning_pairs_eq_zero_iff (broken outlier : List UInt16) :
    firstWarning (pairsOf broken ++ pairsOf outlier ++ broken.product outlier) = 0 ↔
      (broken ++ outlier).Pairwise fun x y => ¬near x.toNat y.toNat := by
  rw [firstWarning_eq_zero_iff, List.forall_mem_append, List.forall_mem_append,
    forall_mem_pairsOf (R := fun x y : UInt16 => ¬near x.toNat y.toNat),
    forall_mem_pairsOf (R := fun x y : UInt16 => ¬near x.toNat y.toNat), List.pairwise_append,
    and_assoc]
  simp only [Prod.forall, List.pair_mem_product, and_imp]
  tauto

theorem take_ofFn_entries {l : List Nat} (h : l.length ≤ 5) :
    (List.ofFn (entries l)).take l.length = l.map UInt16.ofNat := by
  rw [ofFn_entries h]
  exact List.take_left' (List.length_map _)

theorem toNat_ofNat {p : Nat} (h : p < 768) : (UInt16.ofNat p).toNat = p :=
  UInt16.toNat_ofNat_of_lt' (h.trans (by decide))

/-- At most four deviating pixels, no two of them at a rejected distance. -/
def sparse (eeData : EEPROM) : Prop :=
  (brokenBelow eeData 768).length + (outliersBelow eeData 768).length ≤ 4 ∧
    (brokenBelow eeData 768 ++ outliersBelow eeData 768).Pairwise fun p q => ¬near p q

/-- Return code 0, read off the image. -/
theorem warning_scan_eq_zero_iff (eeData : EEPROM) : warning (scan eeData) = 0 ↔ sparse eeData := by
  obtain ⟨stop, hend, hs⟩ := scan_scanned eeData
  have hbroken := (brokenBelow_sublist eeData hend.le).length_le
  have houtlier := (outliersBelow_sublist eeData hend.le).length_le
  have hdone := hend.done
  by_cases hfew : (brokenBelow eeData stop).length + (outliersBelow eeData stop).length ≤ 4
  · -- no list is full, so the scan has seen every pixel
    obtain rfl : stop = 768 := by omega
    have hlt : ∀ r ∈ brokenBelow eeData 768 ++ outliersBelow eeData 768, r < 768 := by
      intro r hr
      rcases List.mem_append.mp hr with hr | hr
      · exact (mem_brokenBelow.mp hr).1
      · exact (mem_outliersBelow.mp hr).1
    rw [warning, hs.brokenPixCnt, hs.outlierPixCnt, if_neg (by omega), if_neg (by omega),
      if_neg (by omega), hs.brokenPixels, hs.outlierPixels, take_ofFn_entries (by omega),
      take_ofFn_entries (by omega), firstWarning_pairs_eq_zero_iff, ← List.map_append,
      List.pairwise_map, sparse, and_iff_right hfew]
    apply List.Pairwise.iff_of_mem
    intro p q hp hq
    rw [toNat_ofNat (hlt p hp), toNat_ofNat (hlt q hq)]
  · have hcode : warning (scan eeData) ≠ 0 := by
      rw [warning, hs.brokenPixCnt, hs.outlierPixCnt]
      split
      · decide
      · split
        · decide
        · rw [if_pos (by omega)]
          decide
    refine iff_of_false hcode fun hsparse => ?_
    have hall := hsparse.1
    omega

/-- The lists are complete, and the pixels in them sparse. -/
structure WellSpaced (eeData : EEPROM) (params : ParamsMLX90640 F) : Prop where
  brokenPixels : params.brokenPixels = entries (brokenBelow eeData 768)
  outlierPixels : params.outlierPixels = entries (outliersBelow eeData 768)
  sparse : sparse eeData

theorem extractDeviatingPixels_ok {eeData : EEPROM} {mlx90640 params : ParamsMLX90640 F}
    (hok : extractDeviatingPixels eeData mlx90640 = (0, params)) : WellSpaced eeData params := by
  rw [extractDeviatingPixels_eq, Prod.mk.injEq] at hok
  obtain ⟨hcode, rfl⟩ := hok
  have hsparse := (warning_scan_eq_zero_iff eeData).mp hcode
  obtain ⟨stop, hend, hs⟩ := scan_scanned eeData
  have hbroken := (brokenBelow_sublist eeData hend.le).length_le
  have houtlier := (outliersBelow_sublist eeData hend.le).length_le
  obtain rfl : stop = 768 := by
    have hfew := hsparse.1
    have hdone := hend.done
    omega
  exact ⟨hs.brokenPixels, hs.outlierPixels, hsparse⟩

theorem WellSpaced.not_near {eeData : EEPROM} {params : ParamsMLX90640 F}
    (h : WellSpaced eeData params) {p q : Nat} (hp : p < 768) (hq : q < 768)
    (hdp : isDeviating eeData p) (hdq : isDeviating eeData q) (hne : p ≠ q) : ¬near p q := by
  have hmem : ∀ r < 768, isDeviating eeData r →
      r ∈ brokenBelow eeData 768 ++ outliersBelow eeData 768 := by
    intro r hr hd
    rcases hd with hd | hd
    · exact List.mem_append_left _ (mem_brokenBelow.mpr ⟨hr, hd⟩)
    · exact List.mem_append_right _ (mem_outliersBelow.mpr ⟨hr, hd⟩)
  have hsymm := not_near_symm
  exact h.sparse.2.forall (hmem p hp hdp) (hmem q hq hdq) hne

end Mlx90640.Calibration.Deviating
