import Mlx90640.Lib.BitField
import Mlx90640.Lib.Race
import Mlx90640.Calibration.Deviating

/-!
# The verdicts on deviating pixels

What each return code of `ExtractDeviatingPixels` says about the image, in terms of the
pixels alone: the codes for too many pixels come from a race between two counters, and the
code for adjacent pixels from the difference of two pixel numbers, which is not the same as
adjacency on the 24 by 32 grid at the two ends of a row.
-/
namespace Mlx90640.Calibration.Verdicts

open Mlx90640.Lib.BitField
open Mlx90640.Lib.Race
open Mlx90640.Calibration.Deviating

variable {F : Type}

/-- The word of a pixel is odd. -/
def hasOddWord (eeData : EEPROM) (p : Nat) : Prop := (eeData (p + 64)).toNat % 2 = 1

instance (eeData : EEPROM) (p : Nat) : Decidable (hasOddWord eeData p) :=
  inferInstanceAs (Decidable (_ = _))

/-- An odd word is not zero, so the order of the two tests does not matter. -/
theorem isOutlier_iff (eeData : EEPROM) (p : Nat) : isOutlier eeData p ↔ hasOddWord eeData p := by
  have hbit : (eeData (p + 64) &&& 0x0001).toNat = field (eeData (p + 64)) 0 1 :=
    toNat_and 1 (by decide)
  have hfield : field (eeData (p + 64)) 0 1 = (eeData (p + 64)).toNat % 2 := by simp [field]
  have hmask : eeData (p + 64) &&& 0x0001 = 0 ↔ (eeData (p + 64)).toNat % 2 = 0 := by
    rw [← UInt16.toNat_inj, hbit, hfield]
    rfl
  have hzero : eeData (p + 64) = 0 ↔ (eeData (p + 64)).toNat = 0 := by
    rw [← UInt16.toNat_inj]
    rfl
  rw [isOutlier, hasOddWord, Ne, hzero, Ne, hmask]
  omega

theorem not_hasOddWord_of_isBroken {eeData : EEPROM} (p : Nat) (h : isBroken eeData p) :
    ¬hasOddWord eeData p :=
  fun hodd => ((isOutlier_iff eeData p).mpr hodd).1 h

theorem length_brokenBelow (eeData : EEPROM) (m : Nat) :
    (brokenBelow eeData m).length = Nat.count (isBroken eeData) m := by
  induction m with
  | zero => rfl
  | succ m ih =>
    rw [brokenBelow_succ, List.length_append, ih, Nat.count_succ]
    split <;> rfl

theorem length_outliersBelow (eeData : EEPROM) (m : Nat) :
    (outliersBelow eeData m).length = Nat.count (hasOddWord eeData) m := by
  induction m with
  | zero => rfl
  | succ m ih =>
    rw [outliersBelow_succ, List.length_append, ih, Nat.count_succ]
    simp only [isOutlier_iff]
    split <;> rfl

/-- `list` holds exactly the pixels with `P` in ascending order, then at least one `0xFFFF`
and nothing else. -/
def Lists (list : Fin 5 → UInt16) (P : Nat → Prop) : Prop :=
  ∃ l : List Nat, l.length ≤ 4 ∧ l.Pairwise (· < ·) ∧ (∀ p, p ∈ l ↔ p < 768 ∧ P p) ∧
    ∀ k : Fin 5, list k = if h : k.val < l.length then UInt16.ofNat l[k.val] else 0xFFFF

/-- What a return code says about the image and about the two lists. -/
structure ScanVerdict (eeData : EEPROM) (code : Int) (params : ParamsMLX90640 F) : Prop where
  brokenFirst : code = -3 ↔ Before (isBroken eeData) (hasOddWord eeData) 4 768
  outlierFirst : code = -4 ↔ Before (hasOddWord eeData) (isBroken eeData) 4 768
  together : code = -5 ↔ Nat.count (isBroken eeData) 768 ≤ 4 ∧
    Nat.count (hasOddWord eeData) 768 ≤ 4 ∧
    4 < Nat.count (isBroken eeData) 768 + Nat.count (hasOddWord eeData) 768
  lists : code ≠ -3 → code ≠ -4 → Lists params.brokenPixels (isBroken eeData) ∧
    Lists params.outlierPixels (hasOddWord eeData) ∧
    ∀ j k, params.brokenPixels j = params.outlierPixels k → params.brokenPixels j = 0xFFFF

theorem scan_stopped (eeData : EEPROM) :
    ∃ stop, Stopped (isBroken eeData) (hasOddWord eeData) 4 768 stop ∧
      Nat.count (isBroken eeData) stop + Nat.count (hasOddWord eeData) stop ≤ 9 ∧
      Scanned eeData stop (scan eeData) := by
  obtain ⟨stop, hend, hs⟩ := scan_scanned eeData
  refine ⟨stop, ⟨hend.le, fun k hk => ?_, ?_⟩, ?_, hs⟩
  · have hroom := hend.room k hk
    rw [length_brokenBelow, length_outliersBelow] at hroom
    omega
  · have hdone := hend.done
    rw [length_brokenBelow, length_outliersBelow] at hdone
    omega
  · have hsum := (length_add_le_of_room hend.room).2.2
    rwa [length_brokenBelow, length_outliersBelow] at hsum

theorem checkAdjacentPixels_cases (pix1 pix2 : UInt16) :
    checkAdjacentPixels pix1 pix2 = 0 ∨ checkAdjacentPixels pix1 pix2 = -6 := by
  simp only [checkAdjacentPixels]
  split_ifs <;> simp

theorem firstWarning_cases (pairs : List (UInt16 × UInt16)) :
    firstWarning pairs = 0 ∨ firstWarning pairs = -6 := by
  induction pairs with
  | nil => exact .inl rfl
  | cons pair rest ih =>
    obtain ⟨pix1, pix2⟩ := pair
    rcases checkAdjacentPixels_cases pix1 pix2 with h | h
    · simpa [firstWarning, h] using ih
    · exact .inr (by simp [firstWarning, h])

/-- The code after the scan: the first full list, then the two together, then adjacency. -/
theorem warning_cases {eeData : EEPROM} {stop : Nat} {s : Scan} (hs : Scanned eeData stop s) :
    (4 < Nat.count (isBroken eeData) stop ∧ warning s = -3) ∨
    (Nat.count (isBroken eeData) stop ≤ 4 ∧ 4 < Nat.count (hasOddWord eeData) stop ∧
      warning s = -4) ∨
    (Nat.count (isBroken eeData) stop ≤ 4 ∧ Nat.count (hasOddWord eeData) stop ≤ 4 ∧
      4 < Nat.count (isBroken eeData) stop + Nat.count (hasOddWord eeData) stop ∧
      warning s = -5) ∨
    (Nat.count (isBroken eeData) stop + Nat.count (hasOddWord eeData) stop ≤ 4 ∧
      (warning s = 0 ∨ warning s = -6)) := by
  rw [warning, hs.brokenPixCnt, hs.outlierPixCnt, length_brokenBelow, length_outliersBelow]
  split
  case isTrue hbroken => exact .inl ⟨hbroken, rfl⟩
  case isFalse hbroken =>
    split
    case isTrue houtlier => exact .inr (.inl ⟨Nat.not_lt.mp hbroken, houtlier, rfl⟩)
    case isFalse houtlier =>
      split
      case isTrue hsum =>
        exact .inr (.inr (.inl ⟨Nat.not_lt.mp hbroken, Nat.not_lt.mp houtlier, hsum, rfl⟩))
      case isFalse hsum =>
        exact .inr (.inr (.inr ⟨Nat.not_lt.mp hsum, firstWarning_cases _⟩))

theorem lists_entries {P : Nat → Prop} {l : List Nat} (hlength : l.length ≤ 4)
    (hsorted : l.Pairwise (· < ·)) (hmem : ∀ p, p ∈ l ↔ p < 768 ∧ P p) : Lists (entries l) P := by
  refine ⟨l, hlength, hsorted, hmem, fun k => ?_⟩
  simp only [entries]
  split
  case isTrue hk => simp [hk]
  case isFalse hk => simp [hk]

theorem brokenBelow_sorted (eeData : EEPROM) (m : Nat) : (brokenBelow eeData m).Pairwise (· < ·) :=
  List.pairwise_lt_range.filter _

theorem outliersBelow_sorted (eeData : EEPROM) (m : Nat) :
    (outliersBelow eeData m).Pairwise (· < ·) :=
  List.pairwise_lt_range.filter _

theorem entries_cases (l : List Nat) (k : Fin 5) :
    (∃ p ∈ l, entries l k = UInt16.ofNat p) ∨ entries l k = 0xFFFF := by
  simp only [entries]
  by_cases hk : k.val < l.length
  · exact .inl ⟨l[k.val], List.getElem_mem hk, by simp [hk]⟩
  · exact .inr (by simp [hk])

theorem entries_disjoint (eeData : EEPROM) (j k : Fin 5)
    (h : entries (brokenBelow eeData 768) j = entries (outliersBelow eeData 768) k) :
    entries (brokenBelow eeData 768) j = 0xFFFF := by
  rcases entries_cases (brokenBelow eeData 768) j with ⟨p, hp, hj⟩ | hj
  · rcases entries_cases (outliersBelow eeData 768) k with ⟨q, hq, hk⟩ | hk
    · obtain ⟨hp768, hbroken⟩ := mem_brokenBelow.mp hp
      obtain ⟨hq768, houtlier⟩ := mem_outliersBelow.mp hq
      rw [hj, hk] at h
      have hpq : p = q := by
        have := congrArg UInt16.toNat h
        rwa [toNat_ofNat hp768, toNat_ofNat hq768] at this
      subst hpq
      exact absurd hbroken houtlier.1
    · rw [h, hk]
  · exact hj

/-- The whole verdict of the scan, for every image. -/
theorem deviating_scan (eeData : EEPROM) (mlx90640 : ParamsMLX90640 F) :
    ScanVerdict eeData (extractDeviatingPixels eeData mlx90640).1
      (extractDeviatingPixels eeData mlx90640).2 := by
  rw [extractDeviatingPixels_eq]
  obtain ⟨stop, hstop, hsum, hs⟩ := scan_stopped eeData
  have hbroken := hstop.lt_count_iff not_hasOddWord_of_isBroken
  have houtlier := hstop.symm.lt_count_iff fun p hodd hb => not_hasOddWord_of_isBroken p hb hodd
  have hmono := Nat.count_monotone (isBroken eeData) hstop.le
  have hmono' := Nat.count_monotone (hasOddWord eeData) hstop.le
  have hcases := warning_cases hs
  exact {
    brokenFirst := by
      rw [← hbroken]
      dsimp only
      omega
    outlierFirst := by
      rw [← houtlier]
      dsimp only
      omega
    together := by
      dsimp only
      constructor
      · intro hcode
        obtain rfl : stop = 768 := hstop.eq_of_count_le (by omega) (by omega)
        omega
      · intro h
        obtain ⟨hb, ho, hfive⟩ := h
        obtain rfl : stop = 768 := hstop.eq_of_count_le (by omega) (by omega)
        omega
    lists := by
      intro hcode3 hcode4
      dsimp only at hcode3 hcode4 ⊢
      -- neither counter is over, so the scan has seen every pixel
      obtain rfl : stop = 768 := hstop.eq_of_count_le (by omega) (by omega)
      rw [hs.brokenPixels, hs.outlierPixels]
      refine ⟨lists_entries ?_ (brokenBelow_sorted _ _) fun p => mem_brokenBelow,
        lists_entries ?_ (outliersBelow_sorted _ _) fun p => ?_, entries_disjoint eeData⟩
      · rw [length_brokenBelow]
        omega
      · rw [length_outliersBelow]
        omega
      · rw [mem_outliersBelow, isOutlier_iff] }

def deviates (eeData : EEPROM) (p : Nat) : Prop := isBroken eeData p ∨ hasOddWord eeData p

instance (eeData : EEPROM) (p : Nat) : Decidable (deviates eeData p) :=
  inferInstanceAs (Decidable (_ ∨ _))

/-- Next to each other in the grid, horizontally, vertically or diagonally. -/
def neighbours (p q : Nat) : Prop :=
  p ≠ q ∧ (p / 32 ≤ q / 32 + 1 ∧ q / 32 ≤ p / 32 + 1) ∧ (p % 32 ≤ q % 32 + 1 ∧ q % 32 ≤ p % 32 + 1)

/-- The two ends of one row, or the end of a row and the beginning of one of the next two:
close in number, 31 columns apart. -/
def wraps (p q : Nat) : Prop :=
  (p % 32 = 31 ∧ (q = p + 1 ∨ q = p + 33)) ∨ (p % 32 = 0 ∧ q = p + 31)

/-- Two deviating pixels of the image are related by `R`. -/
def somePair (eeData : EEPROM) (R : Nat → Nat → Prop) : Prop :=
  ∃ p < 768, ∃ q < 768, deviates eeData p ∧ deviates eeData q ∧ R p q

/-- Code -6 for neighbours in the grid, and 0 otherwise. -/
structure AdjacencyVerdict (eeData : EEPROM) (code : Int) : Prop where
  adjacent : code = -6 ↔ somePair eeData neighbours
  apart : ¬somePair eeData neighbours → code = 0

theorem near_iff {p q : Nat} (hne : p ≠ q) : near p q ↔ neighbours p q ∨ wraps p q ∨ wraps q p := by
  simp only [near, neighbours, wraps]
  omega

theorem count_deviates (eeData : EEPROM) (m : Nat) :
    Nat.count (deviates eeData) m =
      Nat.count (isBroken eeData) m + Nat.count (hasOddWord eeData) m :=
  count_or_of_disjoint not_hasOddWord_of_isBroken m

theorem mem_deviating {eeData : EEPROM} {p : Nat} :
    p ∈ brokenBelow eeData 768 ++ outliersBelow eeData 768 ↔ p < 768 ∧ deviates eeData p := by
  rw [List.mem_append, mem_brokenBelow, mem_outliersBelow, isOutlier_iff, deviates, and_or_left]

theorem nodup_deviating (eeData : EEPROM) :
    (brokenBelow eeData 768 ++ outliersBelow eeData 768).Nodup := by
  refine List.nodup_append'.mpr ⟨(brokenBelow_sorted _ _).imp Nat.ne_of_lt,
    (outliersBelow_sorted _ _).imp Nat.ne_of_lt, fun p hb ho => ?_⟩
  exact (mem_outliersBelow.mp ho).2.1 (mem_brokenBelow.mp hb).2

theorem warning_eq_zero_iff {eeData : EEPROM} (hfew : Nat.count (deviates eeData) 768 ≤ 4) :
    warning (scan eeData) = 0 ↔ ¬somePair eeData fun p q => p ≠ q ∧ near p q := by
  have hlength : (brokenBelow eeData 768).length + (outliersBelow eeData 768).length ≤ 4 := by
    rwa [length_brokenBelow, length_outliersBelow, ← count_deviates]
  have hsymm := not_near_symm
  rw [warning_scan_eq_zero_iff, sparse, and_iff_right hlength]
  constructor
  · rintro hpairwise ⟨p, hp, q, hq, hdp, hdq, hne, hnear⟩
    exact hpairwise.forall (mem_deviating.mpr ⟨hp, hdp⟩) (mem_deviating.mpr ⟨hq, hdq⟩) hne hnear
  · intro hnone
    refine (nodup_deviating eeData).pairwise_of_forall_ne fun p hp q hq hne hnear => ?_
    obtain ⟨hp, hdp⟩ := mem_deviating.mp hp
    obtain ⟨hq, hdq⟩ := mem_deviating.mp hq
    exact hnone ⟨p, hp, q, hq, hdp, hdq, hne, hnear⟩

theorem warning_few {eeData : EEPROM} (hfew : Nat.count (deviates eeData) 768 ≤ 4) :
    warning (scan eeData) = 0 ∨ warning (scan eeData) = -6 := by
  obtain ⟨stop, hstop, -, hs⟩ := scan_stopped eeData
  have hmono := Nat.count_monotone (isBroken eeData) hstop.le
  have hmono' := Nat.count_monotone (hasOddWord eeData) hstop.le
  have hcases := warning_cases hs
  rw [count_deviates] at hfew
  omega

theorem somePair_near_iff (eeData : EEPROM) :
    (somePair eeData fun p q => p ≠ q ∧ near p q) ↔
      somePair eeData neighbours ∨ somePair eeData wraps := by
  constructor
  · intro hfound
    obtain ⟨p, hp, q, hq, hdp, hdq, hne, hnear⟩ := hfound
    rcases (near_iff hne).mp hnear with h | h | h
    · exact .inl ⟨p, hp, q, hq, hdp, hdq, h⟩
    · exact .inr ⟨p, hp, q, hq, hdp, hdq, h⟩
    · exact .inr ⟨q, hq, p, hp, hdq, hdp, h⟩
  · rintro (⟨p, hp, q, hq, hdp, hdq, h⟩ | ⟨p, hp, q, hq, hdp, hdq, h⟩)
    · exact ⟨p, hp, q, hq, hdp, hdq, h.1, (near_iff h.1).mpr (.inl h)⟩
    · have hne : p ≠ q := by
        simp only [wraps] at h
        omega
      exact ⟨p, hp, q, hq, hdp, hdq, hne, (near_iff hne).mpr (.inr (.inl h))⟩

/-- A pair that wraps is rejected all the same. -/
theorem neighbours_of_wraps {eeData : EEPROM} {mlx90640 : ParamsMLX90640 F}
    (hfew : Nat.count (deviates eeData) 768 ≤ 4) (hwraps : somePair eeData wraps)
    (h : AdjacencyVerdict eeData (extractDeviatingPixels eeData mlx90640).1) :
    somePair eeData neighbours := by
  rw [extractDeviatingPixels_eq] at h
  have hnear := (somePair_near_iff eeData).mpr (.inr hwraps)
  rcases warning_few hfew with hcode | hcode
  · exact absurd hnear ((warning_eq_zero_iff hfew).mp hcode)
  · exact h.adjacent.mp hcode

/-- The code is the verdict on the grid unless the only close pairs are pairs that wrap. -/
theorem adjacency_verdict_iff (eeData : EEPROM) (mlx90640 : ParamsMLX90640 F)
    (hfew : Nat.count (deviates eeData) 768 ≤ 4) :
    AdjacencyVerdict eeData (extractDeviatingPixels eeData mlx90640).1 ↔
      somePair eeData neighbours ∨ ¬somePair eeData wraps := by
  constructor
  · intro h
    by_cases hwraps : somePair eeData wraps
    · exact .inl (neighbours_of_wraps hfew hwraps h)
    · exact .inr hwraps
  · intro h
    rw [extractDeviatingPixels_eq]
    have hzero := (warning_eq_zero_iff hfew).trans (not_congr (somePair_near_iff eeData))
    by_cases hadjacent : somePair eeData neighbours
    · have hcode : warning (scan eeData) = -6 :=
        (warning_few hfew).resolve_left fun hcode => hzero.mp hcode (.inl hadjacent)
      exact ⟨iff_of_true hcode hadjacent, fun hnone => absurd hadjacent hnone⟩
    · have hcode : warning (scan eeData) = 0 :=
        hzero.mpr (not_or.mpr ⟨hadjacent, h.resolve_left hadjacent⟩)
      refine ⟨iff_of_false ?_ hadjacent, fun _ => hcode⟩
      dsimp only
      rw [hcode]
      decide

def twoBroken (p q : Nat) : EEPROM := fun k => if k = p + 64 ∨ k = q + 64 then 0 else 2

theorem deviates_twoBroken (p q r : Nat) : deviates (twoBroken p q) r ↔ r = p ∨ r = q := by
  by_cases h : r = p ∨ r = q
  · simp [deviates, isBroken, hasOddWord, twoBroken, h]
  · simp [deviates, isBroken, hasOddWord, twoBroken, h]

theorem count_twoBroken (p q m : Nat) : Nat.count (deviates (twoBroken p q)) m ≤ 4 := by
  rw [Nat.count_eq_card_filter_range]
  have hsubset : {r ∈ Finset.range m | deviates (twoBroken p q) r} ⊆ {p, q} := by
    intro r hr
    simpa [deviates_twoBroken] using (Finset.mem_filter.mp hr).2
  have hcard := (Finset.card_le_card hsubset).trans Finset.card_le_two
  omega

/-- Pixels 0 and 33 are diagonal neighbours. -/
theorem adjacency_verdict_diagonal :
    Nat.count (deviates (twoBroken 0 33)) 768 ≤ 4 ∧ ∀ mlx90640 : ParamsMLX90640 ℚ,
      AdjacencyVerdict (twoBroken 0 33) (extractDeviatingPixels (twoBroken 0 33) mlx90640).1 := by
  refine ⟨count_twoBroken 0 33 768, fun mlx90640 => ?_⟩
  refine (adjacency_verdict_iff _ mlx90640 (count_twoBroken 0 33 768)).mpr (.inl ?_)
  refine ⟨0, by decide, 33, by decide, ?_, ?_, by decide, by decide, by decide⟩
  · rw [deviates_twoBroken]
    exact .inl rfl
  · rw [deviates_twoBroken]
    exact .inr rfl

/-- Pixel 31 ends the first row and pixel 32 begins the second; the code is -6. -/
theorem adjacency_misread_at_row_end :
    Nat.count (deviates (twoBroken 31 32)) 768 ≤ 4 ∧ ∀ mlx90640 : ParamsMLX90640 ℚ,
      ¬AdjacencyVerdict (twoBroken 31 32) (extractDeviatingPixels (twoBroken 31 32) mlx90640).1 := by
  refine ⟨count_twoBroken 31 32 768, fun mlx90640 h => ?_⟩
  have hwraps : somePair (twoBroken 31 32) wraps := by
    refine ⟨31, by decide, 32, by decide, ?_, ?_, .inl ⟨rfl, .inl rfl⟩⟩
    · rw [deviates_twoBroken]
      exact .inl rfl
    · rw [deviates_twoBroken]
      exact .inr rfl
  obtain ⟨p, -, q, -, hp, hq, hpq⟩ := neighbours_of_wraps (count_twoBroken 31 32 768) hwraps h
  rw [deviates_twoBroken] at hp hq
  simp only [neighbours] at hpq
  omega

end Mlx90640.Calibration.Verdicts
