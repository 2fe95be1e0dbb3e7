import Mathlib.Logic.Function.Basic
import Mathlib.Data.List.Perm.Basic

/-!
# Replacing cells of an array in place

A rule computes the new contents of a cell from the whole array, or faults. Replacing
cells one after another lets a later replacement read an earlier one. When the rule, at
the cells to be replaced, reads none of them, the order cannot matter and the result is
the simultaneous replacement from the original array.
-/
namespace Mlx90640.Lib.InPlace

variable {ι α : Type*} [DecidableEq ι] {rule : ι → (ι → α) → Option α}

def replace (rule : ι → (ι → α) → Option α) (i : ι) (a : ι → α) : Option (ι → α) :=
  (rule i a).map (Function.update a i)

/-- The replacements of a list of cells, one after another. -/
def replaceAll (rule : ι → (ι → α) → Option α) : List ι → (ι → α) → Option (ι → α)
  | [], a => some a
  | i :: rest, a => (replace rule i a).bind (replaceAll rule rest)

/-- At the cells of `D` the rule does not depend on the contents of `D`. -/
def ReadsOutside (rule : ι → (ι → α) → Option α) (D : ι → Prop) : Prop :=
  ∀ i, D i → ∀ a b, (∀ j, ¬D j → a j = b j) → rule i a = rule i b

theorem replaceAll_append (l l' : List ι) (a : ι → α) :
    replaceAll rule (l ++ l') a = (replaceAll rule l a).bind (replaceAll rule l') := by
  induction l generalizing a with
  | nil => rfl
  | cons i rest ih =>
    simp only [List.cons_append, replaceAll]
    cases replace rule i a with
    | none => rfl
    | some a' => exact ih a'

/-- A rule that does not fault on `D` replaces any list of cells of `D` as if at once. -/
theorem replaceAll_eq_simultaneous {D : ι → Prop} (hread : ReadsOutside rule D) {l : List ι}
    (hl : ∀ i ∈ l, D i) {a : ι → α} {value : ι → α} (hvalue : ∀ i ∈ l, rule i a = some (value i)) :
    replaceAll rule l a = some fun i => if i ∈ l then value i else a i := by
  induction l generalizing a with
  | nil => simp [replaceAll]
  | cons i rest ih =>
    have hi : D i := hl i List.mem_cons_self
    -- the cell just replaced lies in `D`, so the remaining cells see the original array
    have hsame : ∀ j, ¬D j → Function.update a i (value i) j = a j := by
      intro j hj
      have hne : j ≠ i := by
        rintro rfl
        exact hj hi
      exact Function.update_of_ne hne _ _
    have hrest : ∀ j ∈ rest, rule j (Function.update a i (value i)) = some (value j) := by
      intro j hj
      rw [hread j (hl j (List.mem_cons_of_mem i hj)) _ a hsame]
      exact hvalue j (List.mem_cons_of_mem i hj)
    rw [replaceAll, replace, hvalue i List.mem_cons_self]
    simp only [Option.map_some, Option.bind_some]
    rw [ih (fun j hj => hl j (List.mem_cons_of_mem i hj)) hrest]
    congr 1
    funext j
    by_cases hj : j ∈ rest
    · simp [hj]
    · by_cases hji : j = i
      · subst hji
        simp [hj]
      · simp [hj, hji]

/-- A rule that never faults computes each new value from the array as it then is. -/
theorem replaceAll_eq_foldl {value : ι → (ι → α) → α} (hrule : ∀ i a, rule i a = some (value i a))
    (l : List ι) (a : ι → α) :
    replaceAll rule l a = some (l.foldl (fun a i => Function.update a i (value i a)) a) := by
  induction l generalizing a with
  | nil => rfl
  | cons i rest ih =>
    rw [replaceAll, replace, hrule, List.foldl_cons]
    exact ih (Function.update a i (value i a))

theorem foldl_update_of_notMem {value : ι → (ι → α) → α} {l : List ι} {j : ι} (hj : j ∉ l)
    (a : ι → α) : l.foldl (fun a i => Function.update a i (value i a)) a j = a j := by
  induction l generalizing a with
  | nil => rfl
  | cons i rest ih =>
    obtain ⟨hne, hrest⟩ := not_or.mp (mt List.mem_cons.mpr hj)
    rw [List.foldl_cons, ih hrest, Function.update_of_ne hne]

end Mlx90640.Lib.InPlace
