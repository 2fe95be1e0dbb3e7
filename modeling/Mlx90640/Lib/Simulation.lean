import Mathlib.Data.Option.Basic

/-!
# Programs over related states

A program that carries a state can be run over two kinds of state. Its two runs agree when they
return the same value from related states, and its two loops are related when each pass takes
related states to related states.
-/
namespace Mlx90640.Lib.Simulation

variable {α β γ δ σ τ : Type}

/-- The same value, and related states. -/
inductive Agree (R : σ → τ → Prop) : α × σ → α × τ → Prop where
  | intro (value : α) {s : σ} {t : τ} (state : R s t) : Agree R (value, s) (value, t)

variable {R : σ → τ → Prop} {p : α × σ} {q : α × τ}

theorem Agree.state (h : Agree R p q) : R p.2 q.2 := by
  cases h with
  | intro value state => exact state

@[elab_as_elim]
theorem Agree.cont {motive : α × σ → α × τ → Prop} {p : α × σ} {q : α × τ} (h : Agree R p q)
    (hall : ∀ value s t, R s t → motive (value, s) (value, t)) : motive p q := by
  cases h with
  | intro value state => exact hall value _ _ state

theorem Agree.map (h : Agree R p q) (f : α → β) : Agree R (f p.1, p.2) (f q.1, q.2) := by
  cases h with
  | intro value state => exact .intro _ state

theorem rel_bind {P : α → β → Prop} {Q : γ → δ → Prop} {x : Option α} {y : Option β}
    {f : α → Option γ} {g : β → Option δ} (h : Option.Rel P x y)
    (hnext : ∀ a b, P a b → Option.Rel Q (f a) (g b)) : Option.Rel Q (x.bind f) (y.bind g) := by
  cases h with
  | none => exact .none
  | some hab => exact hnext _ _ hab

theorem rel_bind_same {Q : γ → δ → Prop} {x : Option α} {f : α → Option γ} {g : α → Option δ}
    (hnext : ∀ a, Option.Rel Q (f a) (g a)) : Option.Rel Q (x.bind f) (x.bind g) := by
  cases x with
  | none => exact .none
  | some a => exact hnext a

theorem rel_some {P : α → β → Prop} {x : Option α} {y : Option β} (h : Option.Rel P x y) {b : β}
    (hy : y = some b) : ∃ a, x = some a ∧ P a b := by
  cases h with
  | none => cases hy
  | some hab =>
    cases hy
    exact ⟨_, rfl, hab⟩

/-- The state after `m` passes, if all of them return. -/
def loop (pass : Nat → α → Option α) (a : α) : Nat → Option α
  | 0 => some a
  | m + 1 => (loop pass a m).bind (pass m)

/-- A loop whose pass `m` is related to the other loop's pass `m`. -/
theorem rel_loop {P : α → β → Prop} {pass : Nat → α → Option α} {pass' : Nat → β → Option β}
    {a : α} {b : β} (hstart : P a b)
    (hpass : ∀ m a b, P a b → Option.Rel P (pass m a) (pass' m b)) (m : Nat) :
    Option.Rel P (loop pass a m) (loop pass' b m) := by
  induction m with
  | zero => exact .some hstart
  | succ m ih => exact rel_bind ih (hpass m)

end Mlx90640.Lib.Simulation
