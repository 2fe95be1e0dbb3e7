import Mlx90640.Lib.Loops

/-!
# Scanning a grid for its best cell

Two nested loops visit the cells of a grid in reading order and keep the best one so far. A
later cell takes over only when it is strictly better, so the cell that is left at the end is
the first of the best ones.
-/
namespace Mlx90640.Lib.Scan

open Mlx90640.Lib.Loops

variable {α : Type} {r c : Nat}

/-- The place of a cell in reading order. -/
def position (i : Fin r) (j : Fin c) : Nat := c * i + j

theorem position_inj {i i' : Fin r} {j j' : Fin c} (h : position i j = position i' j') :
    i = i' ∧ j = j' := by
  have hrow : i.val = i'.val := by
    have hdiv := congrArg (· / c) h
    simpa [position, Nat.mul_add_div (Nat.zero_lt_of_lt j.isLt), Nat.div_eq_of_lt j.isLt,
      Nat.div_eq_of_lt j'.isLt] using hdiv
  have hcolumn : j.val = j'.val := by
    rw [position, position, hrow] at h
    omega
  exact ⟨Fin.ext hrow, Fin.ext hcolumn⟩

theorem position_lt (i : Fin r) (j : Fin c) : position i j < c * r := by
  rw [position, Nat.mul_comm c r]
  exact grid_lt i.isLt j.isLt

/-- A cell and its contents. -/
structure Best (α : Type) (r c : Nat) where
  value : α
  row : Fin r
  col : Fin c

def scan (better : α → α → Bool) (a : Fin r → Fin c → α) (init : Best α r c) : Best α r c :=
  Nat.fold r (fun row hrow best =>
    Nat.fold c (fun col hcol best =>
      if better (a ⟨row, hrow⟩ ⟨col, hcol⟩) best.value
      then ⟨a ⟨row, hrow⟩ ⟨col, hcol⟩, ⟨row, hrow⟩, ⟨col, hcol⟩⟩
      else best) best) init

/-- Among the cells before place `n` the cell is one of the best, and it is better than all
cells before itself. -/
structure Leads (better : α → α → Bool) (a : Fin r → Fin c → α) (n : Nat) (best : Best α r c) :
    Prop where
  value : best.value = a best.row best.col
  unbeaten : ∀ i j, position i j < n → ¬ better (a i j) best.value
  first : ∀ i j, position i j < position best.row best.col → better best.value (a i j)

section Step

variable {better : α → α → Bool} {a : Fin r → Fin c → α}

theorem Leads.take (hasymm : ∀ x y, better x y → ¬ better y x)
    (hbeats : ∀ x y z, better x y → ¬ better z y → better x z) {i : Fin r} {j : Fin c}
    {best : Best α r c} (h : Leads better a (position i j) best)
    (hbetter : better (a i j) best.value) : Leads better a (position i j + 1) ⟨a i j, i, j⟩ := by
  have hover : ∀ i' j', position i' j' < position i j → better (a i j) (a i' j') :=
    fun i' j' hp => hbeats _ _ _ hbetter (h.unbeaten i' j' hp)
  refine ⟨rfl, fun i' j' hp => ?_, hover⟩
  by_cases hlt : position i' j' < position i j
  · exact hasymm _ _ (hover i' j' hlt)
  · obtain ⟨rfl, rfl⟩ := position_inj (show position i' j' = position i j by omega)
    exact fun hself => hasymm _ _ hself hself

theorem Leads.keep {i : Fin r} {j : Fin c} {best : Best α r c}
    (h : Leads better a (position i j) best) (hbetter : ¬ better (a i j) best.value) :
    Leads better a (position i j + 1) best := by
  refine ⟨h.value, fun i' j' hp => ?_, h.first⟩
  by_cases hlt : position i' j' < position i j
  · exact h.unbeaten i' j' hlt
  · obtain ⟨rfl, rfl⟩ := position_inj (show position i' j' = position i j by omega)
    exact hbetter

end Step

/-- The scan leaves a cell that leads the whole grid. -/
theorem scan_leads {better : α → α → Bool} (hasymm : ∀ x y, better x y → ¬ better y x)
    (hbeats : ∀ x y z, better x y → ¬ better z y → better x z) (a : Fin r → Fin c → α)
    {init : Best α r c} (h0 : Leads better a 0 init) :
    Leads better a (c * r) (scan better a init) := by
  -- rows: every cell before `c * i` is settled; inside row `i`, every cell before `c * i + j`
  refine fold_invariant (fun i => Leads better a (c * i)) h0 ?_
  intro i hi best hbest
  refine fold_invariant (fun j => Leads better a (c * i + j)) hbest ?_
  intro j hj best hbest
  split
  case isTrue hbetter => exact Leads.take (i := ⟨i, hi⟩) (j := ⟨j, hj⟩) hasymm hbeats hbest hbetter
  case isFalse hbetter => exact Leads.keep (i := ⟨i, hi⟩) (j := ⟨j, hj⟩) hbest hbetter

end Mlx90640.Lib.Scan
