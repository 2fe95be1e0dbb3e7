import Mathlib.Data.Multiset.Sort
import Mathlib.Data.List.GetD
import Mathlib.Algebra.Order.Field.Basic
import Mathlib.Tactic.Linarith

/-!
# The median of a collection of numbers

The collection is a multiset, so the median does not depend on the order in which the
numbers come. It is the middle element in ascending order, or the mean of the middle two.
-/
namespace Mlx90640.Lib.Median

variable {K : Type*} [Field K] [LinearOrder K]

/-- The middle element of a list, or the mean of its two middle elements. -/
def middle (l : List K) : K :=
  if l.length % 2 = 0 then
    (l.getD (l.length / 2) 0 + l.getD (l.length / 2 - 1) 0) / (2 : Nat)
  else l.getD (l.length / 2) 0

def median (s : Multiset K) : K := middle s.sort

theorem median_eq_middle {l l' : List K} (hperm : l.Perm l') (hsorted : l'.Pairwise (· ≤ ·)) :
    median (l : Multiset K) = middle l' := by
  rw [Multiset.coe_eq_coe.mpr hperm, median, Multiset.coe_sort]
  exact congrArg middle (List.mergeSort_eq_self _ hsorted)

theorem median_singleton (x : K) : median ([x] : Multiset K) = x := by
  rw [median_eq_middle (List.Perm.refl [x]) (List.pairwise_singleton _ x)]
  simp [middle]

theorem median_pair (x y : K) : median ([x, y] : Multiset K) = (x + y) / 2 := by
  rcases le_total x y with h | h
  · rw [median_eq_middle (List.Perm.refl [x, y]) (by simpa using h)]
    simp [middle, add_comm]
  · rw [median_eq_middle (List.Perm.swap y x []) (by simpa using h)]
    simp [middle]

omit [LinearOrder K] in
theorem middle_ofFn {n : Nat} (f : Fin n → K) (hhigh : n / 2 < n) (hlow : n / 2 - 1 < n) :
    middle (List.ofFn f) =
      if n % 2 = 0 then (f ⟨n / 2, hhigh⟩ + f ⟨n / 2 - 1, hlow⟩) / 2 else f ⟨n / 2, hhigh⟩ := by
  have hget : ∀ k (hk : k < n), (List.ofFn f).getD k 0 = f ⟨k, hk⟩ := by
    intro k hk
    rw [List.getD_eq_getElem _ _ (by simpa using hk), List.getElem_ofFn]
  rw [middle, List.length_ofFn, hget (n / 2) hhigh, hget (n / 2 - 1) hlow, Nat.cast_ofNat]

variable [IsStrictOrderedRing K]

theorem mean_between (x y : K) :
    (x ≤ (x + y) / 2 ∧ (x + y) / 2 ≤ y) ∨ (y ≤ (x + y) / 2 ∧ (x + y) / 2 ≤ x) := by
  rcases le_total x y with h | h
  · exact .inl ⟨by linarith, by linarith⟩
  · exact .inr ⟨by linarith, by linarith⟩

/-- The median lies between two of the numbers. -/
theorem median_between {s : Multiset K} (hs : s ≠ 0) :
    ∃ a ∈ s, ∃ b ∈ s, a ≤ median s ∧ median s ≤ b := by
  have hcard : 0 < s.sort.length := by
    rw [Multiset.length_sort]
    exact Multiset.card_pos.mpr hs
  have hmem : ∀ k, k < s.sort.length → s.sort.getD k 0 ∈ s := by
    intro k hk
    rw [List.getD_eq_getElem _ _ hk, ← Multiset.mem_sort (· ≤ ·)]
    exact List.getElem_mem hk
  have hhigh := hmem (s.sort.length / 2) (by omega)
  rw [median, middle, Nat.cast_ofNat]
  split
  case isTrue heven =>
    have hlow := hmem (s.sort.length / 2 - 1) (by omega)
    rcases mean_between (s.sort.getD (s.sort.length / 2) 0) (s.sort.getD (s.sort.length / 2 - 1) 0)
      with h | h
    · exact ⟨_, hhigh, _, hlow, h⟩
    · exact ⟨_, hlow, _, hhigh, h⟩
  case isFalse hodd => exact ⟨_, hhigh, _, hhigh, le_refl _, le_refl _⟩

end Mlx90640.Lib.Median
