import Mlx90640.Lib.Loops
import Mathlib.Tactic.Choose

/-!
# Computations that overwrite a set of cells

`Overwrites c S` says that `c` never faults, gives the cells in `S` contents that owe
nothing to the array it was run on, and leaves every other cell alone. A loop that stores
under a guard has this form, and two such computations compose and commute by their cell
sets alone.
-/
namespace Mlx90640.Lib.Overwrite

open Mlx90640.Lib.Loops

variable {ι α : Type*} {c d : (ι → α) → Option (ι → α)} {S T : ι → Prop}

def Overwrites (c : (ι → α) → Option (ι → α)) (S : ι → Prop) : Prop :=
  ∃ value : ι → α, ∀ a, ∃ b, c a = some b ∧ (∀ i, S i → b i = value i) ∧ ∀ i, ¬S i → b i = a i

theorem Overwrites.congr (hc : Overwrites c S) (h : ∀ i, S i ↔ T i) : Overwrites c T := by
  obtain rfl : S = T := funext fun i => propext (h i)
  exact hc

/-- One after the other, they overwrite both sets. -/
theorem Overwrites.comp (hc : Overwrites c S) (hd : Overwrites d T) :
    Overwrites (fun a => (c a).bind d) fun i => S i ∨ T i := by
  classical
  obtain ⟨value, hc⟩ := hc
  obtain ⟨value', hd⟩ := hd
  refine ⟨fun i => if T i then value' i else value i, fun a => ?_⟩
  obtain ⟨b, hb, hbin, hbout⟩ := hc a
  obtain ⟨b', hb', hbin', hbout'⟩ := hd b
  refine ⟨b', ?_, ?_, ?_⟩
  · change (c a).bind d = some b'
    rw [hb]
    exact hb'
  · intro i hi
    by_cases hT : T i
    · simp only [hT, if_true]
      exact hbin' i hT
    · simp only [hT, if_false]
      rw [hbout' i hT]
      exact hbin i (hi.resolve_right hT)
  · intro i hi
    rw [hbout' i fun hT => hi (Or.inr hT), hbout i fun hS => hi (Or.inl hS)]

/-- Disjoint sets may be overwritten in either order. -/
theorem Overwrites.commute (hc : Overwrites c S) (hd : Overwrites d T)
    (hdisjoint : ∀ i, S i → ¬T i) (a : ι → α) : (c a).bind d = (d a).bind c := by
  obtain ⟨value, hc⟩ := hc
  obtain ⟨value', hd⟩ := hd
  obtain ⟨b, hb, hbin, hbout⟩ := hc a
  obtain ⟨b', hb', hbin', hbout'⟩ := hd a
  obtain ⟨e, he, hein, heout⟩ := hd b
  obtain ⟨e', he', hein', heout'⟩ := hc b'
  rw [hb, hb', Option.bind_some, Option.bind_some, he, he']
  congr 1
  funext i
  by_cases hS : S i
  · rw [heout i (hdisjoint i hS), hbin i hS, hein' i hS]
  · by_cases hT : T i
    · rw [hein i hT, heout' i hS, hbin' i hT]
    · rw [heout i hT, hbout i hS, heout' i hS, hbout' i hT]

theorem Overwrites.total (hc : Overwrites c S) (hall : ∀ i, S i) :
    ∃ image, ∀ a, c a = some image := by
  obtain ⟨value, hc⟩ := hc
  refine ⟨value, fun a => ?_⟩
  obtain ⟨b, hb, hbin, -⟩ := hc a
  rw [hb]
  congr 1
  funext i
  exact hbin i (hall i)

theorem Overwrites.idle (hc : Overwrites c S) (hnone : ∀ i, ¬S i) (a : ι → α) : c a = some a := by
  obtain ⟨value, hc⟩ := hc
  obtain ⟨b, hb, -, hbout⟩ := hc a
  rw [hb]
  congr 1
  funext i
  exact hbout i (hnone i)

/-- `for(i = 0; i < n; i++) if(guard(i)) a[i] = value(i);` where the value may fault. -/
def storeWhere {n : Nat} (guard : Fin n → Prop) [DecidablePred guard] (value : Fin n → Option α)
    (a : Fin n → α) : Option (Fin n → α) :=
  Nat.fold n (fun i h a => a.bind fun a =>
    if guard ⟨i, h⟩ then (value ⟨i, h⟩).map (Function.update a ⟨i, h⟩) else some a) (some a)

/-- A guarded loop stores the values at the guarded cells, when none of them faults. -/
theorem storeWhere_eq {n : Nat} {guard : Fin n → Prop} [DecidablePred guard]
    {value : Fin n → Option α} {stored : Fin n → α}
    (hstored : ∀ i, guard i → value i = some (stored i)) (a : Fin n → α) :
    storeWhere guard value a = some fun k => if guard k then stored k else a k := by
  -- after `i` passes the guarded cells below `i` are final and all others untouched
  let Done (i : Nat) (r : Option (Fin n → α)) : Prop := ∃ b, r = some b ∧
    ∀ k : Fin n, b k = if k.val < i ∧ guard k then stored k else a k
  have hdone : Done n (storeWhere guard value a) := by
    refine fold_invariant Done ⟨a, rfl, fun k => by simp⟩ ?_
    rintro i h r ⟨b, rfl, hb⟩
    by_cases hg : guard ⟨i, h⟩
    · refine ⟨Function.update b ⟨i, h⟩ (stored ⟨i, h⟩), by simp [hg, hstored _ hg], fun k => ?_⟩
      by_cases hki : k = ⟨i, h⟩
      · subst hki
        simp [hg]
      · have hne : k.val ≠ i := fun he => hki (Fin.ext he)
        have hlt : k.val < i + 1 ↔ k.val < i := by omega
        rw [Function.update_of_ne hki, hb k]
        simp only [hlt]
    · refine ⟨b, by simp [hg], fun k => ?_⟩
      rw [hb k]
      by_cases hki : k = ⟨i, h⟩
      · subst hki
        simp [hg]
      · have hne : k.val ≠ i := fun he => hki (Fin.ext he)
        have hlt : k.val < i + 1 ↔ k.val < i := by omega
        simp only [hlt]
  obtain ⟨b, hb, hcells⟩ := hdone
  rw [hb]
  congr 1
  funext k
  rw [hcells k]
  simp only [k.isLt, true_and]

theorem exists_stored {n : Nat} {guard : Fin n → Prop} {value : Fin n → Option α} [Nonempty α]
    (hvalue : ∀ i, guard i → ∃ x, value i = some x) :
    ∃ stored : Fin n → α, ∀ i, guard i → value i = some (stored i) := by
  have hex : ∀ i, ∃ x, guard i → value i = some x := by
    intro i
    by_cases hi : guard i
    · obtain ⟨x, hx⟩ := hvalue i hi
      exact ⟨x, fun _ => hx⟩
    · exact ⟨Classical.arbitrary α, fun h => absurd h hi⟩
  choose stored hstored using hex
  exact ⟨stored, hstored⟩

theorem overwrites_storeWhere {n : Nat} {guard : Fin n → Prop} [DecidablePred guard]
    {value : Fin n → Option α} [Nonempty α] (hvalue : ∀ i, guard i → ∃ x, value i = some x) :
    Overwrites (storeWhere guard value) guard := by
  obtain ⟨stored, hstored⟩ := exists_stored hvalue
  refine ⟨stored, fun a => ⟨_, storeWhere_eq hstored a, ?_, ?_⟩⟩
  · intro k hk
    exact if_pos hk
  · intro k hk
    exact if_neg hk

theorem storeWhere_cell {n : Nat} {guard : Fin n → Prop} [DecidablePred guard]
    {value : Fin n → Option α} [Nonempty α] (hvalue : ∀ i, guard i → ∃ x, value i = some x)
    {a b : Fin n → α} (h : storeWhere guard value a = some b) {k : Fin n} (hk : guard k) :
    value k = some (b k) := by
  obtain ⟨stored, hstored⟩ := exists_stored hvalue
  rw [storeWhere_eq hstored] at h
  have hcell : b k = stored k := by
    rw [← Option.some.inj h]
    exact if_pos hk
  rw [hstored k hk, hcell]

end Mlx90640.Lib.Overwrite
