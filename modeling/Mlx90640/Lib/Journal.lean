import Mathlib.Logic.Function.Basic

/-!
# Journals of writes

A journal is a list of writes, oldest first. What an address holds after a journal was
replayed is decided by the latest write to it, if there is one, and otherwise by what it held
before.
-/
namespace Mlx90640.Lib.Journal

variable {ι β : Type} [DecidableEq ι]

/-- The value of the latest write to `i`. -/
def latest : List (ι × β) → ι → Option β
  | [], _ => none
  | w :: ws, i => (latest ws i).or (if w.1 = i then some w.2 else none)

@[simp] theorem latest_nil (i : ι) : latest ([] : List (ι × β)) i = none := rfl

@[simp] theorem latest_append (ws vs : List (ι × β)) (i : ι) :
    latest (ws ++ vs) i = (latest vs i).or (latest ws i) := by
  induction ws with
  | nil => simp
  | cons w ws ih => simp [latest, ih, Option.or_assoc]

theorem latest_eq_none {ws : List (ι × β)} {i : ι} (h : ∀ w ∈ ws, w.1 ≠ i) :
    latest ws i = none := by
  induction ws with
  | nil => rfl
  | cons w ws ih =>
    rw [latest, ih fun v hv => h v (List.mem_cons_of_mem _ hv), if_neg (h w List.mem_cons_self)]
    rfl

/-- When all writes to an address agree, their order does not matter. -/
theorem latest_eq_some {ws : List (ι × β)} {i : ι} {v : β} (hmem : (i, v) ∈ ws)
    (hall : ∀ w ∈ ws, w.1 = i → w.2 = v) : latest ws i = some v := by
  induction ws with
  | nil => cases hmem
  | cons w ws ih =>
    rw [latest]
    by_cases hrest : (i, v) ∈ ws
    · rw [ih hrest fun u hu => hall u (List.mem_cons_of_mem _ hu)]
      rfl
    · obtain rfl : (i, v) = w := (List.mem_cons.mp hmem).resolve_right hrest
      have hnone : latest ws i = none := by
        apply latest_eq_none
        rintro ⟨j, u⟩ hu rfl
        exact hrest (hall _ (List.mem_cons_of_mem _ hu) rfl ▸ hu)
      rw [hnone, if_pos rfl]
      rfl

theorem latest_mem {ws : List (ι × β)} {i : ι} {v : β} (h : latest ws i = some v) : (i, v) ∈ ws := by
  induction ws with
  | nil => cases h
  | cons w ws ih =>
    rw [latest] at h
    rcases Option.or_eq_some_iff.mp h with hrest | ⟨-, hhead⟩
    · exact List.mem_cons_of_mem _ (ih hrest)
    · split at hhead
      case isTrue hw =>
        obtain rfl : w = (i, v) := Prod.ext hw (Option.some.inj hhead)
        exact List.mem_cons_self
      case isFalse => cases hhead

theorem exists_latest {ws : List (ι × β)} {i : ι} {v : β} (h : (i, v) ∈ ws) :
    ∃ u, latest ws i = some u := by
  induction ws with
  | nil => cases h
  | cons w ws ih =>
    rw [latest]
    rcases List.mem_cons.mp h with rfl | hrest
    · cases hlatest : latest ws i with
      | some u => exact ⟨u, rfl⟩
      | none => exact ⟨v, by simp⟩
    · obtain ⟨u, hu⟩ := ih hrest
      exact ⟨u, by rw [hu]; rfl⟩

/-- The memory after all writes. -/
def replay (a : ι → β) (ws : List (ι × β)) : ι → β :=
  ws.foldl (fun a w => Function.update a w.1 w.2) a

theorem replay_eq (a : ι → β) (ws : List (ι × β)) (i : ι) :
    replay a ws i = (latest ws i).getD (a i) := by
  induction ws generalizing a with
  | nil => rfl
  | cons w ws ih =>
    change replay (Function.update a w.1 w.2) ws i = _
    rw [ih, latest]
    cases hlatest : latest ws i with
    | some v => rfl
    | none =>
      by_cases hw : w.1 = i
      · subst hw
        simp
      · simp [hw, Function.update_of_ne (Ne.symm hw)]

end Mlx90640.Lib.Journal
