import Mathlib.Data.Nat.Count

/-!
# Two counters in a scan

A scan over the numbers below a bound counts those with `P` and those with `Q`, and stops as
soon as one of the counts reaches a limit. Which of the two got there is a statement about
the positions alone.
-/
namespace Mlx90640.Lib.Race

variable {P Q : Nat → Prop} [DecidablePred P] [DecidablePred Q]

/-- `p` has `P`, and `c` smaller numbers do. -/
def Occurs (P : Nat → Prop) [DecidablePred P] (c p : Nat) : Prop := P p ∧ Nat.count P p = c

/-- Below `n`, the number with `c` predecessors in `P` comes before the one in `Q`. -/
def Before (P Q : Nat → Prop) [DecidablePred P] [DecidablePred Q] (c n : Nat) : Prop :=
  ∃ p < n, Occurs P c p ∧ ∀ q < n, Occurs Q c q → p < q

/-- The scan has stopped at `m`: up to there neither count was beyond `c`, and either the
bound is reached or one of them is. -/
structure Stopped (P Q : Nat → Prop) [DecidablePred P] [DecidablePred Q] (c n m : Nat) : Prop where
  le : m ≤ n
  room : ∀ k < m, Nat.count P k ≤ c ∧ Nat.count Q k ≤ c
  done : m = n ∨ c < Nat.count P m ∨ c < Nat.count Q m

theorem Stopped.symm {c n m : Nat} (h : Stopped P Q c n m) : Stopped Q P c n m where
  le := h.le
  room k hk := (h.room k hk).symm
  done := h.done.imp id Or.symm

theorem Occurs.count_succ {c p : Nat} (h : Occurs P c p) : Nat.count P (p + 1) = c + 1 := by
  rw [Nat.count_succ, if_pos h.1, h.2]

theorem occurs_of_lt_count {c m : Nat} (hroom : ∀ k < m, Nat.count P k ≤ c)
    (hlt : c < Nat.count P m) : ∃ p, m = p + 1 ∧ Occurs P c p := by
  cases m with
  | zero => simp at hlt
  | succ p =>
    have hle := hroom p (Nat.lt_succ_self p)
    rw [Nat.count_succ] at hlt
    by_cases hp : P p
    · rw [if_pos hp] at hlt
      exact ⟨p, rfl, hp, by omega⟩
    · rw [if_neg hp] at hlt
      omega

/-- When the scan stops, `P` has passed the limit exactly if it got there first. -/
theorem Stopped.lt_count_iff {c n m : Nat} (h : Stopped P Q c n m) (hdisjoint : ∀ k, P k → ¬Q k) :
    c < Nat.count P m ↔ Before P Q c n := by
  constructor
  · intro hlt
    obtain ⟨p, rfl, hp⟩ := occurs_of_lt_count (fun k hk => (h.room k hk).1) hlt
    refine ⟨p, h.le, hp, fun q _ hq => ?_⟩
    by_contra hle
    rcases Nat.lt_or_eq_of_le (Nat.not_lt.mp hle) with hqp | rfl
    · -- the scan would have stopped at `q + 1` already
      have hroom := (h.room (q + 1) (by omega)).2
      rw [hq.count_succ] at hroom
      omega
    · exact hdisjoint q hp.1 hq.1
  · intro hfound
    obtain ⟨p, hpn, hp, hfirst⟩ := hfound
    have hstop : m ≤ p + 1 := by
      by_contra hlt
      have hroom := (h.room (p + 1) (by omega)).1
      rw [hp.count_succ] at hroom
      omega
    rcases h.done with rfl | hP | hQ
    · obtain rfl : m = p + 1 := by omega
      rw [hp.count_succ]
      exact Nat.lt_succ_self c
    · exact hP
    · obtain ⟨q, rfl, hq⟩ := occurs_of_lt_count (fun k hk => (h.room k hk).2) hQ
      have hpq := hfirst q h.le hq
      omega

theorem Stopped.eq_of_count_le {c n m : Nat} (h : Stopped P Q c n m) (hP : Nat.count P m ≤ c)
    (hQ : Nat.count Q m ≤ c) : m = n := by
  have hdone := h.done
  omega

theorem count_or_of_disjoint (hdisjoint : ∀ k, P k → ¬Q k) (n : Nat) :
    Nat.count (fun k => P k ∨ Q k) n = Nat.count P n + Nat.count Q n := by
  induction n with
  | zero => simp
  | succ n ih =>
    rw [Nat.count_succ, Nat.count_succ, Nat.count_succ, ih]
    by_cases hP : P n
    · simp [hP, hdisjoint n hP]
      omega
    · simp [hP]
      omega

end Mlx90640.Lib.Race
