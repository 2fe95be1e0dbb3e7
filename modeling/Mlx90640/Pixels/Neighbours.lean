import Mlx90640.Lib.Loops
import Mlx90640.Lib.Median
import Mlx90640.Calibration.Decoding
import Mlx90640.Pixels.Correction
import Mathlib.Logic.Equiv.Basic
import Mathlib.Data.List.FinRange
import Mathlib.Data.Fintype.Card
import Mathlib.Tactic.Tauto

/-!
# The chess correction as a median of neighbours

The nine cases of the chess branch of `MLX90640_BadPixelsCorrection`, with their offsets and
corner constants, all compute one thing: the median of the temperatures of those pixels that
touch the listed one in a corner. For four neighbours that is the result of `GetMedian`,
which sorts its argument in place.
-/
namespace Mlx90640.Pixels.Neighbours

open Mlx90640.Calibration
open Mlx90640.Calibration.Extract
open Mlx90640.Calibration.Decoding
open Mlx90640.Lib.InPlace
open Mlx90640.Lib.Loops
open Mlx90640.Lib.Median
open Mlx90640.Pixels.Correction

section Exchanges

variable {K : Type} [LinearOrder K] {n : Nat} {values a : Fin n → K}

theorem exchange_of_lt {i j : Fin n} (h : a j < a i) : exchange a i j = a ∘ Equiv.swap i j := by
  rw [exchange, if_pos h, Equiv.swap_comm, Equiv.comp_swap_eq_update]

theorem exchange_of_le {i j : Fin n} (h : a i ≤ a j) : exchange a i j = a := by
  rw [exchange, if_neg (not_lt.mpr h)]

/-- After `i` passes: a rearrangement of the argument whose first `i` cells are settled. -/
structure Sorting (values a : Fin n → K) (i : Nat) : Prop where
  rearranged : ∃ σ : Equiv.Perm (Fin n), a = values ∘ σ
  settled : ∀ p q : Fin n, p.val < i → p ≤ q → a p ≤ a q

/-- An exchange beyond the settled cells. -/
theorem Sorting.exchange {i j : Fin n} (h : Sorting values a i) (hij : i < j) :
    Sorting values (exchange a i j) i := by
  rcases lt_or_ge (a j) (a i) with hlt | hge
  · rw [exchange_of_lt hlt]
    obtain ⟨σ, rfl⟩ := h.rearranged
    refine ⟨⟨(Equiv.swap i j).trans σ, rfl⟩, fun p q hp hpq => ?_⟩
    have hpi : p ≠ i := Fin.ne_of_lt hp
    have hpj : p ≠ j := Fin.ne_of_lt (lt_trans hp hij)
    have hp' : Equiv.swap i j p = p := Equiv.swap_apply_of_ne_of_ne hpi hpj
    -- the image of `q` is `q` itself or one of two cells that come after `p` as well
    have hq : p ≤ Equiv.swap i j q := by
      rw [Equiv.swap_apply_def]
      split_ifs
      · exact (lt_trans hp hij).le
      · exact le_of_lt hp
      · exact hpq
    change values (σ (Equiv.swap i j p)) ≤ values (σ (Equiv.swap i j q))
    rw [hp']
    exact h.settled p _ hp hq
  · rw [exchange_of_le hge]
    exact h

/-- The exchange leaves in cell `i` the least of the cells compared so far. -/
theorem exchange_least {i j : Fin n} (hij : i < j) (h : ∀ q, i < q → q < j → a i ≤ a q) :
    ∀ q, i < q → q ≤ j → exchange a i j i ≤ exchange a i j q := by
  intro q hiq hqj
  rcases lt_or_ge (a j) (a i) with hlt | hge
  · rw [exchange_of_lt hlt]
    simp only [Function.comp_apply, Equiv.swap_apply_left]
    rcases eq_or_lt_of_le hqj with rfl | hqj
    · rw [Equiv.swap_apply_right]
      exact hlt.le
    · rw [Equiv.swap_apply_of_ne_of_ne hiq.ne' hqj.ne]
      exact hlt.le.trans (h q hiq hqj)
  · rw [exchange_of_le hge]
    rcases eq_or_lt_of_le hqj with rfl | hqj
    · exact hge
    · exact h q hiq hqj

/-- The inner loop of pass `i`. -/
def exchangePass (a : Fin n → K) (i : Fin n) : Fin n → K :=
  Nat.fold (n - (i + 1)) (fun k hk a => Correction.exchange a i ⟨i + 1 + k, by omega⟩) a

/-- A pass brings the least of the remaining values to cell `i`. -/
theorem Sorting.exchangePass_least {i : Fin n} (h : Sorting values a i) :
    Sorting values (exchangePass a i) i ∧ ∀ q, i < q → exchangePass a i i ≤ exchangePass a i q := by
  have hinv : Sorting values (exchangePass a i) i ∧
      ∀ q, i < q → q.val < i + 1 + (n - (i + 1)) → exchangePass a i i ≤ exchangePass a i q := by
    refine fold_invariant (fun k (a : Fin n → K) => Sorting values a i ∧
      ∀ q, i < q → q.val < i + 1 + k → a i ≤ a q) ⟨h, fun q hiq hq => ?_⟩ ?_
    · omega
    · intro k hk a ⟨hs, hleast⟩
      have hij : i < ⟨i + 1 + k, by omega⟩ := Fin.mk_lt_mk.mpr (by omega)
      refine ⟨hs.exchange hij, fun q hiq hq => ?_⟩
      exact exchange_least hij hleast q hiq (Fin.mk_le_mk.mpr (by omega))
  refine ⟨hinv.1, fun q hiq => hinv.2 q hiq ?_⟩
  omega

theorem Sorting.pass {i : Fin n} (h : Sorting values a i) :
    Sorting values (exchangePass a i) (i + 1) := by
  obtain ⟨hs, hleast⟩ := h.exchangePass_least
  refine ⟨hs.rearranged, fun p q hp hpq => ?_⟩
  rcases Nat.lt_succ_iff_lt_or_eq.mp hp with hlt | heq
  · exact hs.settled p q hlt hpq
  · obtain rfl : p = i := Fin.ext heq
    rcases eq_or_lt_of_le hpq with rfl | hlt
    · exact le_refl _
    · exact hleast q hlt

theorem exchangeSort_sorting (values : Fin n → K) :
    Sorting values (exchangeSort values) (n - 1) := by
  refine fold_invariant (fun i a => Sorting values a i) ⟨⟨Equiv.refl _, rfl⟩, ?_⟩ ?_
  · intro p q hp
    omega
  · intro i hi a h
    exact Sorting.pass (i := ⟨i, by omega⟩) h

theorem exchangeSort_sorted (values : Fin n → K) :
    (List.ofFn (exchangeSort values)).Pairwise (· ≤ ·) := by
  rw [List.pairwise_ofFn]
  intro p q hpq
  exact (exchangeSort_sorting values).settled p q (by omega) hpq.le

theorem exchangeSort_perm (values : Fin n → K) :
    (List.ofFn values).Perm (List.ofFn (exchangeSort values)) := by
  obtain ⟨σ, hσ⟩ := (exchangeSort_sorting values).rearranged
  rw [hσ]
  exact (Equiv.Perm.ofFn_comp_perm σ values).symm

theorem exchangeSort_comp (values : Fin n → K) (τ : Equiv.Perm (Fin n)) :
    exchangeSort (values ∘ τ) = exchangeSort values := by
  apply List.ofFn_injective
  have hperm : (List.ofFn (exchangeSort (values ∘ τ))).Perm (List.ofFn (exchangeSort values)) :=
    (exchangeSort_perm _).symm.trans
      ((Equiv.Perm.ofFn_comp_perm τ values).trans (exchangeSort_perm values))
  exact hperm.eq_of_pairwise' (exchangeSort_sorted _) (exchangeSort_sorted _)

end Exchanges

section AnyField

variable {K : Type} [Field K] [LinearOrder K] [CFloat K] {n : Nat}

/-- What a call leaves in `values` and returns. -/
structure MedianCall (hn : 0 < n) (values : Fin n → K) : Prop where
  sorted : ∀ p q, p ≤ q → (getMedian hn values).1 p ≤ (getMedian hn values).1 q
  rearranged : ∃ σ : Equiv.Perm (Fin n), (getMedian hn values).1 = values ∘ σ
  odd : ∀ middle : Fin n, middle.val = n / 2 → n % 2 = 1 →
    (getMedian hn values).2 = (getMedian hn values).1 middle
  even : ∀ low high : Fin n, low.val = n / 2 - 1 → high.val = n / 2 → n % 2 = 0 →
    (getMedian hn values).2 = ((getMedian hn values).1 low + (getMedian hn values).1 high) / 2
  unordered : ∀ τ : Equiv.Perm (Fin n), getMedian hn (values ∘ τ) = getMedian hn values

theorem getMedian_fst (hn : 0 < n) (values : Fin n → K) :
    (getMedian hn values).1 = exchangeSort values := by
  rw [getMedian]
  split <;> rfl

theorem getMedian_snd (htwo : (ofInt 2 : K) = 2) (hn : 0 < n) (values : Fin n → K) :
    (getMedian hn values).2 = middle (List.ofFn (exchangeSort values)) := by
  rw [middle_ofFn _ (by omega) (by omega), getMedian]
  split
  · rw [htwo]
  · rfl

/-- `GetMedian` sorts its argument in place and returns the median, whatever the order of
the values and however many there are. -/
theorem getMedian_correct (htwo : (ofInt 2 : K) = 2) (hn : 0 < n) (values : Fin n → K) :
    MedianCall hn values := by
  have hhalf : n / 2 < n := by omega
  have hbelow : n / 2 - 1 < n := by omega
  have hsnd := getMedian_snd htwo hn values
  rw [middle_ofFn _ hhalf hbelow, ← getMedian_fst hn values] at hsnd
  exact {
    sorted := by
      intro p q hpq
      rw [getMedian_fst]
      rcases eq_or_lt_of_le hpq with rfl | hlt
      · exact le_refl _
      · exact (exchangeSort_sorting values).settled p q (by omega) hpq
    rearranged := by
      rw [getMedian_fst]
      exact (exchangeSort_sorting values).rearranged
    odd := by
      intro middle hmiddle hodd
      obtain rfl : middle = ⟨n / 2, hhalf⟩ := Fin.ext hmiddle
      rw [hsnd, if_neg (by omega)]
    even := by
      intro low high hlow hhigh heven
      obtain rfl : low = ⟨n / 2 - 1, hbelow⟩ := Fin.ext hlow
      obtain rfl : high = ⟨n / 2, hhalf⟩ := Fin.ext hhigh
      rw [hsnd, if_pos heven, add_comm]
    unordered := by
      intro τ
      apply Prod.ext
      · rw [getMedian_fst, getMedian_fst, exchangeSort_comp]
      · rw [getMedian_snd htwo, getMedian_snd htwo, exchangeSort_comp] }

end AnyField

/-- Five values with a duplicate. -/
theorem getMedian_correct_five : MedianCall (by decide) ![(3 : ℚ), 1, 2, 1, 5] :=
  getMedian_correct (by simp) (by decide) ![(3 : ℚ), 1, 2, 1, 5]

variable {K : Type} [Field K] [LinearOrder K] [FloorRing K]

/-- What `GetMedian` returns is the median, for any number of values. -/
theorem getMedian_eq {n : Nat} (hn : 0 < n) (values : Fin n → K) :
    (getMedian hn values).2 = median (List.ofFn values : Multiset K) := by
  rw [median_eq_middle (exchangeSort_perm values) (exchangeSort_sorted values),
    getMedian_snd (by simp)]

instance (p q : Nat) : Decidable (diagonal p q) := inferInstanceAs (Decidable (_ ∧ _))

/-- The pixels of the grid that touch `p` in a corner. -/
def diagonalNeighbours (p : Fin 768) : Finset (Fin 768) := {q | diagonal p q}

/-- The median of the current values of the diagonal neighbours. -/
def chessMedian (p : Fin 768) (temps : Fin 768 → K) : K :=
  median ((diagonalNeighbours p).val.map temps)

theorem diagonalNeighbours_val {p : Fin 768} {l : List (Fin 768)} (h : Touching p l) :
    (diagonalNeighbours p).val = (l : Multiset (Fin 768)) := by
  have heq : diagonalNeighbours p = ⟨(l : Multiset (Fin 768)), Multiset.coe_nodup.mpr h.nodup⟩ := by
    ext q
    simp [diagonalNeighbours, h.mem_iff]
  rw [heq]

omit [FloorRing K] in
theorem chessMedian_eq {p : Fin 768} {l : List (Fin 768)} (h : Touching p l) (temps : Fin 768 → K) :
    chessMedian p temps = median (l.map temps : Multiset K) := by
  rw [chessMedian, diagonalNeighbours_val h, Multiset.map_coe]

theorem card_diagonalNeighbours {p : Fin 768} {l : List (Fin 768)} (h : Touching p l) :
    (diagonalNeighbours p).card = l.length := by
  rw [Finset.card_def, diagonalNeighbours_val h, Multiset.coe_card]

theorem chessValue_eq {p : Fin 768} {line column : UInt8} (hline : line.toNat = p / 32)
    (hcolumn : column.toNat = p % 32) (temps : Fin 768 → K) :
    chessValue temps p.val line column = some (chessMedian p temps) := by
  rcases chessValue_cases (F := K) p.isLt hline hcolumn with
    ⟨-, -, a, hl, hvalue⟩ | ⟨-, a, b, hl, hvalue⟩ | ⟨-, -, a, b, c, d, hl, hvalue⟩
  · rw [hvalue, chessMedian_eq hl]
    exact congrArg some (median_singleton (temps a)).symm
  · rw [hvalue, chessMedian_eq hl, ofInt_exact, Int.cast_ofNat]
    exact congrArg some (median_pair (temps a) (temps b)).symm
  · rw [hvalue, chessMedian_eq hl, getMedian_eq]
    rfl

theorem rule_chess (params : ParamsMLX90640 K) (p : Fin 768) (temps : Fin 768 → K) :
    rule 1 params p temps = some (chessMedian p temps) := by
  simp only [rule, correctedValue, Deviating.toNat_ofNat p.isLt, line_toNat p.isLt, if_true]
  exact chessValue_eq (line_toNat p.isLt) column_toNat temps

theorem card_cases (p : Fin 768) :
    (onLineEdge p ∧ onColumnEdge p → (diagonalNeighbours p).card = 1) ∧
    ((onLineEdge p ↔ ¬onColumnEdge p) → (diagonalNeighbours p).card = 2) ∧
    (¬onLineEdge p ∧ ¬onColumnEdge p → (diagonalNeighbours p).card = 4) := by
  rcases chessValue_cases (F := ℚ) p.isLt (line_toNat p.isLt) column_toNat with
    ⟨he, hs, a, hl, -⟩ | ⟨he, a, b, hl, -⟩ | ⟨he, hs, a, b, c, d, hl, -⟩
  · rw [card_diagonalNeighbours hl]
    tauto
  · rw [card_diagonalNeighbours hl]
    tauto
  · rw [card_diagonalNeighbours hl]
    tauto

theorem diagonalNeighbours_nonempty (p : Fin 768) : (diagonalNeighbours p).Nonempty := by
  rw [← Finset.card_pos]
  have hcard := card_cases p
  by_cases he : onLineEdge p <;> by_cases hs : onColumnEdge p <;> simp_all

variable [IsStrictOrderedRing K]

omit [FloorRing K] in
theorem chessMedian_between (p : Fin 768) (temps : Fin 768 → K) :
    ∃ a ∈ diagonalNeighbours p, ∃ b ∈ diagonalNeighbours p,
      temps a ≤ chessMedian p temps ∧ chessMedian p temps ≤ temps b := by
  have hne : (diagonalNeighbours p).val.map temps ≠ 0 := by
    simpa using (diagonalNeighbours_nonempty p).ne_empty
  obtain ⟨x, hx, y, hy, hlow, hhigh⟩ := median_between hne
  obtain ⟨a, ha, rfl⟩ := Multiset.mem_map.mp hx
  obtain ⟨b, hb, rfl⟩ := Multiset.mem_map.mp hy
  exact ⟨a, ha, b, hb, hlow, hhigh⟩

/-- The result of correcting the pixels of `l`, one after another. -/
structure ChessCorrected (l : List (Fin 768)) (temps temps' : Fin 768 → K) : Prop where
  inOrder : temps' = l.foldl (fun temps p => Function.update temps p (chessMedian p temps)) temps
  unlisted : ∀ q, q ∉ l → temps' q = temps q
  corner : ∀ p ∈ l, onLineEdge p ∧ onColumnEdge p → (diagonalNeighbours p).card = 1
  edge : ∀ p ∈ l, (onLineEdge p ↔ ¬onColumnEdge p) → (diagonalNeighbours p).card = 2
  inside : ∀ p ∈ l, ¬onLineEdge p ∧ ¬onColumnEdge p → (diagonalNeighbours p).card = 4
  between : ∀ p ∈ l, ∀ current : Fin 768 → K, ∃ a ∈ diagonalNeighbours p,
    ∃ b ∈ diagonalNeighbours p,
      current a ≤ chessMedian p current ∧ chessMedian p current ≤ current b

/-- The chess correction of any terminated list, in exact arithmetic. Since every access is
checked, the result also says that none is out of range. -/
theorem chess_correction {pixels : Fin 5 → UInt16} {l : List (Fin 768)} {tail : List UInt16}
    (hpixels : List.ofFn pixels = words l ++ 0xFFFF :: tail) (temps : Fin 768 → K)
    (params : ParamsMLX90640 K) :
    ∃ temps', badPixelsCorrection pixels temps 1 params = some temps' ∧
      ChessCorrected l temps temps' := by
  refine ⟨l.foldl (fun temps p => Function.update temps p (chessMedian p temps)) temps, ?_, ?_⟩
  · rw [badPixelsCorrection, hpixels, correctEntries_terminated,
      replaceAll_eq_foldl (rule_chess params)]
  · exact {
      inOrder := rfl
      unlisted := fun q hq => foldl_update_of_notMem hq temps
      corner := fun p _ => (card_cases p).1
      edge := fun p _ => (card_cases p).2.1
      inside := fun p _ => (card_cases p).2.2
      between := fun p _ => chessMedian_between p }

/-- Pixel 0 at the corner is read again for pixel 33, which is listed after it. -/
theorem chess_correction_chained :
    ∃ temps', badPixelsCorrection ![0, 33, 0xFFFF, 0xFFFF, 0xFFFF] (fun q => (q.val : ℚ)) 1
      default = some temps' ∧ ChessCorrected [0, 33] (fun q => (q.val : ℚ)) temps' := by
  have hpixels : List.ofFn (![0, 33, 0xFFFF, 0xFFFF, 0xFFFF] : Fin 5 → UInt16) =
      words [0, 33] ++ 0xFFFF :: [0xFFFF, 0xFFFF] := rfl
  exact chess_correction hpixels (fun q => (q.val : ℚ)) default

end Mlx90640.Pixels.Neighbours
