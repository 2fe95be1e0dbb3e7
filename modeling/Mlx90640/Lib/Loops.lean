import Mathlib.Logic.Function.Basic

/-!
# Counted loops that write one array cell per pass

A counted C loop is `Nat.fold`: the pass `i` receives the proof `i < n` that keeps
its array index in range. An array of `n` cells is a function on `Fin n`, and a store
is `Function.update`. The rules below say what a whole loop leaves behind, given what
one pass does. A pass that can fault makes the loop an `Option` computation.
-/
namespace Mlx90640.Lib.Loops

variable {α β : Type*}

/-- The invariant rule: what one pass carries from `i` to `i + 1` holds at the end. -/
theorem fold_invariant {n : Nat} {f : (i : Nat) → i < n → α → α} (I : Nat → α → Prop)
    {init : α} (h0 : I 0 init) (hstep : ∀ i (h : i < n) a, I i a → I (i + 1) (f i h a)) :
    I n (Nat.fold n f init) := by
  induction n with
  | zero => exact h0
  | succ n ih =>
    rw [Nat.fold_succ]
    exact hstep n (Nat.lt_succ_self n) _ (ih fun i h a hi => hstep i (Nat.lt_succ_of_lt h) a hi)

/-- A loop that stores `g i` in cell `i`, for every cell, leaves exactly `g`: nothing
of the array's earlier contents survives. -/
theorem fold_update {n : Nat} (g : Fin n → α) (init : Fin n → α) :
    Nat.fold n (fun i h a => Function.update a ⟨i, h⟩ (g ⟨i, h⟩)) init = g := by
  have hinv : ∀ k : Fin n, k.val < n →
      Nat.fold n (fun i h a => Function.update a ⟨i, h⟩ (g ⟨i, h⟩)) init k = g k := by
    refine fold_invariant (fun i (a : Fin n → α) => ∀ k, k.val < i → a k = g k)
      (fun k hk => absurd hk (Nat.not_lt_zero _)) ?_
    intro i h a ha k hk
    by_cases hki : k = ⟨i, h⟩
    · subst hki
      simp
    · rw [Function.update_of_ne hki]
      apply ha k
      have hne : k.val ≠ i := fun he => hki (Fin.ext he)
      omega
  funext k
  exact hinv k k.isLt

/-- `a[k] = g(a[k])`. -/
def modifyAt {n : Nat} (a : Fin n → α) (k : Fin n) (g : α → α) : Fin n → α :=
  Function.update a k (g (a k))

@[simp] theorem modifyAt_update {n : Nat} (a : Fin n → α) (k : Fin n) (v : α) (g : α → α) :
    modifyAt (Function.update a k v) k g = Function.update a k (g v) := by
  simp [modifyAt]

/-- A loop that rewrites every cell from its own contents maps the array. -/
theorem fold_modify {n : Nat} (g : α → α) (init : Fin n → α) :
    Nat.fold n (fun i h a => modifyAt a ⟨i, h⟩ g) init = fun k => g (init k) := by
  -- cells below `i` are done, the others untouched
  have hinv : ∀ k : Fin n,
      Nat.fold n (fun i h a => modifyAt a ⟨i, h⟩ g) init k =
        if k.val < n then g (init k) else init k := by
    refine fold_invariant
      (fun i (a : Fin n → α) => ∀ k : Fin n, a k = if k.val < i then g (init k) else init k)
      (fun k => (if_neg (Nat.not_lt_zero _)).symm) ?_
    intro i h a ha k
    by_cases hki : k = ⟨i, h⟩
    · subst hki
      simp [modifyAt, ha]
    · have hne : k.val ≠ i := fun he => hki (Fin.ext he)
      rw [modifyAt, Function.update_of_ne hki, ha k]
      have hlt : k.val < i + 1 ↔ k.val < i := by omega
      simp only [hlt]
  funext k
  rw [hinv k, if_pos k.isLt]

theorem grid_lt {r c i j : Nat} (hi : i < r) (hj : j < c) : c * i + j < r * c := by
  have h := Nat.mul_le_mul_left c (Nat.succ_le_of_lt hi)
  rw [Nat.mul_succ, Nat.mul_comm c r] at h
  omega

/-- The two-dimensional form: a row loop around a column loop that stores `g i j` in cell
`c * i + j` of a row-major array. -/
theorem fold_grid_update {r c : Nat} (g : Fin r → Fin c → α) (init : Fin (r * c) → α)
    (p : Fin (r * c)) (hr : p.val / c < r) (hc : p.val % c < c) :
    Nat.fold r (fun i hi a => Nat.fold c (fun j hj a =>
      Function.update a ⟨c * i + j, grid_lt hi hj⟩ (g ⟨i, hi⟩ ⟨j, hj⟩)) a) init p =
      g ⟨p.val / c, hr⟩ ⟨p.val % c, hc⟩ := by
  -- after `i` rows every cell below `c * i` is final; inside row `i`, after `j` columns,
  -- every cell below `c * i + j` is
  let Done (n : Nat) (a : Fin (r * c) → α) : Prop :=
    ∀ (q : Fin (r * c)) (h1 : q.val / c < r) (h2 : q.val % c < c), q.val < n →
      a q = g ⟨q.val / c, h1⟩ ⟨q.val % c, h2⟩
  have hrows : Done (c * r) (Nat.fold r (fun i hi a => Nat.fold c (fun j hj a =>
      Function.update a ⟨c * i + j, grid_lt hi hj⟩ (g ⟨i, hi⟩ ⟨j, hj⟩)) a) init) := by
    refine fold_invariant (fun i => Done (c * i)) ?_ ?_
    · intro q _ _ hq
      omega
    · intro i hi a ha
      refine fold_invariant (fun j => Done (c * i + j)) ha ?_
      intro j hj a ha q h1 h2 hq
      by_cases hqe : q.val = c * i + j
      · obtain rfl : q = ⟨c * i + j, grid_lt hi hj⟩ := Fin.ext hqe
        rw [Function.update_self]
        have hdiv : (c * i + j) / c = i := by
          rw [Nat.mul_add_div (by omega), Nat.div_eq_of_lt hj, Nat.add_zero]
        have hmod : (c * i + j) % c = j := by
          rw [Nat.mul_add_mod, Nat.mod_eq_of_lt hj]
        simp only [hdiv, hmod]
      · rw [Function.update_of_ne fun he => hqe (congrArg Fin.val he)]
        exact ha q h1 h2 (by omega)
  exact hrows p hr hc (lt_of_lt_of_eq p.isLt (Nat.mul_comm r c))

/-- `a[i][j] = v`. -/
def updateCell {r c : Nat} (a : Fin r → Fin c → α) (i : Fin r) (j : Fin c) (v : α) :
    Fin r → Fin c → α :=
  Function.update a i (Function.update (a i) j v)

theorem fold_row {r c : Nat} (i : Fin r) (g : Fin c → α) (init : Fin r → Fin c → α) :
    Nat.fold c (fun j hj a => updateCell a i ⟨j, hj⟩ (g ⟨j, hj⟩)) init =
      Function.update init i g := by
  have hinv : ∃ row : Fin c → α,
      Nat.fold c (fun j hj a => updateCell a i ⟨j, hj⟩ (g ⟨j, hj⟩)) init =
        Function.update init i row ∧ ∀ k : Fin c, k.val < c → row k = g k := by
    refine fold_invariant (fun j a => ∃ row : Fin c → α, a = Function.update init i row ∧
      ∀ k : Fin c, k.val < j → row k = g k) ⟨init i, (Function.update_eq_self i init).symm, ?_⟩ ?_
    · intro k hk
      omega
    · rintro j hj a ⟨row, rfl, hrow⟩
      refine ⟨Function.update row ⟨j, hj⟩ (g ⟨j, hj⟩), by simp [updateCell], fun k hk => ?_⟩
      by_cases hkj : k = ⟨j, hj⟩
      · subst hkj
        simp
      · rw [Function.update_of_ne hkj]
        apply hrow k
        have hne : k.val ≠ j := fun he => hkj (Fin.ext he)
        omega
  obtain ⟨row, hfold, hrow⟩ := hinv
  rw [hfold]
  congr 1
  funext k
  exact hrow k k.isLt

theorem fold_matrix {r c : Nat} (g : Fin r → Fin c → α) (init : Fin r → Fin c → α) :
    Nat.fold r (fun i hi a => Nat.fold c (fun j hj a =>
      updateCell a ⟨i, hi⟩ ⟨j, hj⟩ (g ⟨i, hi⟩ ⟨j, hj⟩)) a) init = g := by
  simp only [fold_row]
  exact fold_update g init

theorem fold_bind_some {n : Nat} {f : (i : Nat) → i < n → α → Option α}
    {g : (i : Nat) → i < n → α → α} (hf : ∀ i hi a, f i hi a = some (g i hi a)) (init : α) :
    Nat.fold n (fun i hi acc => acc.bind (f i hi)) (some init) = some (Nat.fold n g init) := by
  induction n with
  | zero => rfl
  | succ n ih =>
    rw [Nat.fold_succ, Nat.fold_succ, ih fun i hi a => hf i (Nat.lt_succ_of_lt hi) a]
    exact hf n (Nat.lt_succ_self n) _

theorem fold_bind_invariant {n : Nat} {f : (i : Nat) → i < n → α → Option α}
    (I : Nat → α → Prop) {init : α} (h0 : I 0 init)
    (hstep : ∀ i hi a, I i a → ∃ b, f i hi a = some b ∧ I (i + 1) b) :
    ∃ b, Nat.fold n (fun i hi acc => acc.bind (f i hi)) (some init) = some b ∧ I n b := by
  refine fold_invariant (fun i acc => ∃ b, acc = some b ∧ I i b) ⟨init, rfl, h0⟩ ?_
  rintro i hi _ ⟨a, rfl, ha⟩
  exact hstep i hi a ha

end Mlx90640.Lib.Loops
