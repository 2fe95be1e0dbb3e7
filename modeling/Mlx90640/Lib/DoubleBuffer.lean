import Mathlib.Data.Bool.Basic
import Mathlib.Algebra.Group.Nat.Even

/-!
# Double buffering

A memory with two regions, of which one is in use. Some actions turn to the other region, and
every action stores in the region that is in use after it. Which region a run ends in is
decided by the number of turns, a cell outside both regions keeps its contents, and the idle
region keeps them until the next turn.
-/
namespace Mlx90640.Lib.DoubleBuffer

/-- States `S` with a memory of cells `ι`, and actions `A` on them. -/
structure Buffered (S A ι β : Type) where
  step : S → A → S
  memory : S → ι → β
  /-- The region in use. -/
  side : S → Bool
  turns : A → Bool
  region : Bool → ι → Prop
  Good : S → Prop
  Legal : A → Prop
  good_step : ∀ s a, Good s → Legal a → Good (step s a)
  side_step : ∀ s a, Good s → Legal a → side (step s a) = (side s ^^ turns a)
  confined : ∀ s a, Good s → Legal a → ∀ i, ¬ region (side (step s a)) i →
    memory (step s a) i = memory s i

variable {S A ι β : Type} (d : Buffered S A ι β)

def Buffered.run (s : S) (actions : List A) : S := actions.foldl d.step s

def Buffered.turnCount (actions : List A) : Nat := actions.countP d.turns

theorem run_invariant {P : S → Prop} (hstep : ∀ s a, d.Good s → d.Legal a → P s → P (d.step s a))
    {s : S} (hgood : d.Good s) (h : P s) {actions : List A} (hlegal : ∀ a ∈ actions, d.Legal a) :
    d.Good (d.run s actions) ∧ P (d.run s actions) := by
  induction actions generalizing s with
  | nil => exact ⟨hgood, h⟩
  | cons a actions ih =>
    have ha := hlegal a List.mem_cons_self
    exact ih (d.good_step s a hgood ha) (hstep s a hgood ha h)
      fun b hb => hlegal b (List.mem_cons_of_mem _ hb)

/-- An even number of turns comes back to the region of the start. -/
theorem run_side {s : S} (hgood : d.Good s) {actions : List A}
    (hlegal : ∀ a ∈ actions, d.Legal a) :
    d.side (d.run s actions) = (d.side s ^^ decide (¬ Even (d.turnCount actions))) := by
  induction actions generalizing s with
  | nil => simp [Buffered.run, Buffered.turnCount]
  | cons a actions ih =>
    have ha := hlegal a List.mem_cons_self
    have hrest := ih (d.good_step s a hgood ha) fun b hb => hlegal b (List.mem_cons_of_mem _ hb)
    show d.side (d.run (d.step s a) actions) = _
    rw [hrest, d.side_step s a hgood ha]
    cases hturn : d.turns a with
    | false =>
      have hcount : d.turnCount (a :: actions) = d.turnCount actions := by
        simp [Buffered.turnCount, hturn]
      rw [hcount, Bool.xor_false]
    | true =>
      have hcount : d.turnCount (a :: actions) = d.turnCount actions + 1 := by
        simp [Buffered.turnCount, hturn]
      rw [hcount]
      by_cases heven : Even (d.turnCount actions)
      · simp [heven, Nat.even_add_one]
      · simp [heven, Nat.even_add_one]

/-- A cell outside both regions is never stored to. -/
theorem run_outside {s : S} (hgood : d.Good s) {actions : List A}
    (hlegal : ∀ a ∈ actions, d.Legal a) {i : ι} (hout : ∀ side, ¬ d.region side i) :
    d.memory (d.run s actions) i = d.memory s i := by
  refine (run_invariant d (P := fun s' => d.memory s' i = d.memory s i) ?_ hgood rfl hlegal).2
  intro s' a hgood' ha hkept
  rw [d.confined s' a hgood' ha i (hout _), hkept]

theorem run_idle {s : S} (hgood : d.Good s) {actions : List A}
    (hlegal : ∀ a ∈ actions, d.Legal a) (hstay : ∀ a ∈ actions, d.turns a = false) {i : ι}
    (hidle : ¬ d.region (d.side s) i) : d.memory (d.run s actions) i = d.memory s i := by
  induction actions generalizing s with
  | nil => rfl
  | cons a actions ih =>
    have ha := hlegal a List.mem_cons_self
    have hside : d.side (d.step s a) = d.side s := by
      rw [d.side_step s a hgood ha, hstay a List.mem_cons_self, Bool.xor_false]
    show d.memory (d.run (d.step s a) actions) i = _
    rw [ih (d.good_step s a hgood ha) (fun b hb => hlegal b (List.mem_cons_of_mem _ hb))
      (fun b hb => hstay b (List.mem_cons_of_mem _ hb)) (by rw [hside]; exact hidle),
      d.confined s a hgood ha i (by rw [hside]; exact hidle)]

end Mlx90640.Lib.DoubleBuffer
