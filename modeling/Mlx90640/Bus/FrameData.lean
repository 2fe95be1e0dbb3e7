import Mlx90640.Bus.ControlRegister

/-!
# The acquisition handshake

`getFrameData` is `MLX90640_GetFrameData`. Its polling loop has no bound in the source,
so the model counts polls and answers `none` when the count runs out; the retry loop is
bounded by five and needs no count. A `Script` is an arbitrary sequence of responses to
the successive transfers, each of which may fail.
-/
namespace Mlx90640.Bus.FrameData

open Mlx90640.Bus.Transfer
open Mlx90640.Bus.ControlRegister (stackWord stackWord_some)

variable {σ : Type}

/-- `MLX90640_DumpEE`. -/
def dumpEE (i2cBus : Option (I2CBus σ)) (slaveAddr : UInt8) (eeData : Nat → UInt16) (s : σ) :
    (Int × (Nat → UInt16)) × σ :=
  i2cRead i2cBus slaveAddr 0x2400 832 eeData s

def dataReady (statusRegister : UInt16) : UInt16 := statusRegister &&& 0x0008

/-- The first loop: poll the status word until the new-data bit is set. -/
def pollStatus (i2cBus : Option (I2CBus σ)) (slaveAddr : UInt8) :
    Nat → UInt16 → σ → Option ((Int × UInt16) × σ)
  | 0, _, _ => none
  | fuel + 1, statusRegister, s =>
    let r := readWord (i2cRead i2cBus slaveAddr 0x8000 1) statusRegister s
    if r.1.1 ≠ 0 then some r
    else if dataReady r.1.2 = 0 then pollStatus i2cBus slaveAddr fuel r.1.2 r.2
    else some r

/-- What the retry loop carries from one pass to the next. -/
structure Locals where
  frameData : Nat → UInt16
  statusRegister : UInt16
  cnt : UInt8

/-- One pass of the retry loop: clear the status word, read the frame, read the status
word again. A nonzero code is an early return; a write verdict of -2 goes on. -/
def frameAttempt (i2cBus : Option (I2CBus σ)) (slaveAddr : UInt8) (l : Locals) (s : σ) :
    (Int × Locals) × σ :=
  let w := i2cWrite i2cBus slaveAddr 0x8000 0x0030 s
  if w.1 = -1 then ((w.1, l), w.2)
  else
    let f := i2cRead i2cBus slaveAddr 0x0400 832 l.frameData w.2
    if f.1.1 ≠ 0 then ((f.1.1, { l with frameData := f.1.2 }), f.2)
    else
      let r := readWord (i2cRead i2cBus slaveAddr 0x8000 1) l.statusRegister f.2
      if r.1.1 ≠ 0 then ((r.1.1, { l with frameData := f.1.2, statusRegister := r.1.2 }), r.2)
      else ((0, { frameData := f.1.2, statusRegister := r.1.2, cnt := l.cnt + 1 }), r.2)

/-- The retry loop, entered with the new-data bit set; the first argument is `5 - cnt`. -/
def retryFrame (i2cBus : Option (I2CBus σ)) (slaveAddr : UInt8) :
    Nat → Locals → σ → (Int × Locals) × σ
  | 0, l, s => ((0, l), s)
  | n + 1, l, s =>
    let a := frameAttempt i2cBus slaveAddr l s
    if a.1.1 ≠ 0 then a
    else if dataReady a.1.2.statusRegister ≠ 0 then retryFrame i2cBus slaveAddr n a.1.2 a.2
    else a

/-- What follows the retry loop: the verdict on the counter, the control word, and the
two words behind the frame. -/
def closeFrame (i2cBus : Option (I2CBus σ)) (slaveAddr : UInt8) (controlRegister1 : UInt16)
    (l : Locals) (s : σ) : (Int × (Nat → UInt16)) × σ :=
  if l.cnt > 4 then ((-8, l.frameData), s)
  else
    let c := readWord (i2cRead i2cBus slaveAddr 0x800D 1) controlRegister1 s
    let frameData := Function.update l.frameData 832 c.1.2
    let frameData := Function.update frameData 833 (l.statusRegister &&& 0x0001)
    if c.1.1 ≠ 0 then ((c.1.1, frameData), c.2)
    else (((frameData 833).toNat, frameData), c.2)

/-- `MLX90640_GetFrameData`; `none` means that the given number of polls found no data. -/
def getFrameData (i2cBus : Option (I2CBus σ)) (fuel : Nat) (slaveAddr : UInt8)
    (frameData : Nat → UInt16) (s : σ) : Option ((Int × (Nat → UInt16)) × σ) :=
  match pollStatus i2cBus slaveAddr fuel (stackWord i2cBus s .statusRegister) s with
  | none => none
  | some ((error, statusRegister), s₁) =>
    if error ≠ 0 then some ((error, frameData), s₁)
    else
      let a := retryFrame i2cBus slaveAddr 5
        { frameData := frameData, statusRegister := statusRegister, cnt := 0 } s₁
      if a.1.1 ≠ 0 then some ((a.1.1, a.1.2.frameData), a.2)
      else some (closeFrame i2cBus slaveAddr (stackWord i2cBus s .controlRegister1) a.1.2 a.2)

section Inversion

variable (i2cBus : Option (I2CBus σ)) (slaveAddr : UInt8)

theorem readWord_code (addr w : UInt16) (s : σ) :
    (readWord (i2cRead i2cBus slaveAddr addr 1) w s).1.1 = 0 ∨
      (readWord (i2cRead i2cBus slaveAddr addr 1) w s).1.1 = -1 :=
  i2cRead_code i2cBus slaveAddr addr 1 (fun _ => w) s

/-- A pass ends with code -1, or it is a write that was not refused followed by two
reported reads, and its locals are exactly what these brought. -/
theorem frameAttempt_cases (l : Locals) (s : σ) :
    (frameAttempt i2cBus slaveAddr l s).1.1 = -1 ∨
    ∃ w f r, i2cWrite i2cBus slaveAddr 0x8000 0x0030 s = w ∧
      i2cRead i2cBus slaveAddr 0x0400 832 l.frameData w.2 = f ∧ f.1.1 = 0 ∧
      readWord (i2cRead i2cBus slaveAddr 0x8000 1) l.statusRegister f.2 = r ∧ r.1.1 = 0 ∧
      frameAttempt i2cBus slaveAddr l s = ((0, ⟨f.1.2, r.1.2, l.cnt + 1⟩), r.2) := by
  by_cases hw : (i2cWrite i2cBus slaveAddr 0x8000 0x0030 s).1 = -1
  · left
    simp [frameAttempt, hw]
  · rcases i2cRead_code i2cBus slaveAddr 0x0400 832 l.frameData
      (i2cWrite i2cBus slaveAddr 0x8000 0x0030 s).2 with hf | hf
    · rcases readWord_code i2cBus slaveAddr 0x8000 l.statusRegister
        (i2cRead i2cBus slaveAddr 0x0400 832 l.frameData
          (i2cWrite i2cBus slaveAddr 0x8000 0x0030 s).2).2 with hr | hr
      · right
        refine ⟨_, _, _, rfl, rfl, hf, rfl, hr, ?_⟩
        simp [frameAttempt, hw, hf, hr]
      · left
        simp [frameAttempt, hw, hf, hr]
    · left
      simp [frameAttempt, hw, hf]

theorem retryFrame_code (n : Nat) (l : Locals) (s : σ) :
    (retryFrame i2cBus slaveAddr n l s).1.1 = 0 ∨ (retryFrame i2cBus slaveAddr n l s).1.1 = -1 := by
  induction n generalizing l s with
  | zero => exact Or.inl rfl
  | succ n ih =>
    rcases frameAttempt_cases i2cBus slaveAddr l s with ha | ⟨w, f, r, -, -, -, -, -, ha⟩
    · simp [retryFrame, ha]
    · by_cases hd : dataReady r.1.2 = 0
      · simp [retryFrame, ha, hd]
      · simpa [retryFrame, ha, hd] using ih ⟨f.1.2, r.1.2, l.cnt + 1⟩ r.2

theorem pollStatus_code (fuel : Nat) (w : UInt16) (s : σ) {p : (Int × UInt16) × σ}
    (h : pollStatus i2cBus slaveAddr fuel w s = some p) : p.1.1 = 0 ∨ p.1.1 = -1 := by
  induction fuel generalizing w s with
  | zero => simp [pollStatus] at h
  | succ fuel ih =>
    rw [pollStatus] at h
    split_ifs at h
    · obtain rfl := Option.some.inj h
      exact readWord_code i2cBus slaveAddr 0x8000 w s
    · exact ih _ _ h
    · obtain rfl := Option.some.inj h
      exact readWord_code i2cBus slaveAddr 0x8000 w s

/-- A nonnegative verdict means a counter within bounds and a reported control word. -/
theorem closeFrame_nonneg {w : UInt16} {l : Locals} {s s' : σ} {fd : Nat → UInt16} {r : Int}
    (h : closeFrame i2cBus slaveAddr w l s = ((r, fd), s')) (hr : 0 ≤ r) :
    ∃ c, readWord (i2cRead i2cBus slaveAddr 0x800D 1) w s = c ∧ c.1.1 = 0 ∧ ¬ l.cnt > 4 ∧
      r = ((l.statusRegister &&& 0x0001).toNat : Int) ∧
      fd = Function.update (Function.update l.frameData 832 c.1.2) 833
        (l.statusRegister &&& 0x0001) ∧
      s' = c.2 := by
  simp only [closeFrame] at h
  split_ifs at h with hcnt hc
  · simp only [Prod.mk.injEq] at h
    omega
  · rcases readWord_code i2cBus slaveAddr 0x800D w s with h0 | h1
    · exact absurd h0 hc
    · simp only [Prod.mk.injEq] at h
      omega
  · simp only [Prod.mk.injEq, Function.update_self] at h
    exact ⟨_, rfl, not_not.mp hc, hcnt, h.1.1.symm, h.1.2.symm, h.2.symm⟩

/-- A nonnegative result comes from a poll that found data, a retry loop that stopped
within four passes, and a reported read of the control word. -/
theorem getFrameData_nonneg {fuel : Nat} {frameData fd : Nat → UInt16} {s s' : σ} {r : Int}
    (h : getFrameData i2cBus fuel slaveAddr frameData s = some ((r, fd), s')) (hr : 0 ≤ r) :
    ∃ statusRegister s₁ l s₂ c,
      pollStatus i2cBus slaveAddr fuel (stackWord i2cBus s .statusRegister) s =
        some ((0, statusRegister), s₁) ∧
      retryFrame i2cBus slaveAddr 5 ⟨frameData, statusRegister, 0⟩ s₁ = ((0, l), s₂) ∧
      ¬ l.cnt > 4 ∧
      readWord (i2cRead i2cBus slaveAddr 0x800D 1) (stackWord i2cBus s .controlRegister1) s₂ = c ∧
      c.1.1 = 0 ∧ r = ((l.statusRegister &&& 0x0001).toNat : Int) ∧
      fd = Function.update (Function.update l.frameData 832 c.1.2) 833 (l.statusRegister &&& 0x0001) ∧
      s' = c.2 := by
  unfold getFrameData at h
  split at h
  · simp at h
  · rename_i error statusRegister s₁ hp
    rcases pollStatus_code i2cBus slaveAddr _ _ _ hp with he | he
    · change error = 0 at he
      subst he
      simp only [ne_eq, not_true_eq_false, ↓reduceIte] at h
      rcases hret : retryFrame i2cBus slaveAddr 5 ⟨frameData, statusRegister, 0⟩ s₁ with ⟨⟨e, l⟩, s₂⟩
      have hcode := retryFrame_code i2cBus slaveAddr 5 ⟨frameData, statusRegister, 0⟩ s₁
      rw [hret] at hcode h
      rcases hcode with he | he
      · change e = 0 at he
        subst he
        simp only [not_true_eq_false, ↓reduceIte, Option.some.injEq] at h
        obtain ⟨c, hc, hread, hcnt, hresult, hframe, hstate⟩ :=
          closeFrame_nonneg i2cBus slaveAddr h hr
        exact ⟨statusRegister, s₁, l, s₂, c, hp, hret, hcnt, hc, hread, hresult, hframe, hstate⟩
      · change e = -1 at he
        subst he
        simp only [Int.reduceNeg, reduceCtorEq, not_false_eq_true, ↓reduceIte, Option.some.injEq,
          Prod.mk.injEq] at h
        omega
    · change error = -1 at he
      subst he
      simp only [ne_eq, Int.reduceNeg, reduceCtorEq, not_false_eq_true, ↓reduceIte,
        Option.some.injEq, Prod.mk.injEq] at h
      omega

end Inversion

/-- The response to one transfer: it either reports every message, with these bytes for
the read message, or fails with a code that is not the message count, after these bytes.
`stack` is what the uninitialised locals of the next call hold. -/
structure Response where
  fails : Option Int
  bytes : List UInt8
  stack : Local → UInt16

abbrev Script := Nat → Response

namespace Response

def answer (r : Response) (msgs : List I2CMsg) : I2CResult :=
  match r.fails with
  | none => ⟨msgs.length, (List.range (readLength msgs)).map (fun i => r.bytes.getD i 0)⟩
  | some code => ⟨if code = msgs.length then -1 else code, r.bytes⟩

def word (r : Response) (k : Nat) : UInt16 := receivedWord r.bytes k

theorem answer_ret (r : Response) (msgs : List I2CMsg) :
    (r.answer msgs).ret = msgs.length ↔ r.fails = none := by
  unfold answer
  cases hf : r.fails with
  | none => simp
  | some code =>
    simp only [reduceCtorEq, iff_false]
    by_cases hc : code = msgs.length
    · rw [if_pos hc]
      omega
    · rw [if_neg hc]
      exact hc

theorem answer_full (r : Response) (msgs : List I2CMsg) (h : (r.answer msgs).ret = msgs.length) :
    (r.answer msgs).received.length = readLength msgs := by
  rw [answer_ret] at h
  simp [answer, h]

theorem answer_word (r : Response) (msgs : List I2CMsg) (h : r.fails = none) (k : Nat)
    (hk : 2 * k + 1 < readLength msgs) : receivedWord (r.answer msgs).received k = r.word k := by
  have hk0 : 2 * k < readLength msgs := by omega
  simp [answer, h, word, receivedWord, List.getD_eq_getElem?_getD, hk, hk0]

end Response

/-- The bus that plays a script. -/
def scriptedBus : I2CBus Script where
  transfer := fun msgs s => ((s 0).answer msgs, fun i => s (i + 1))
  indeterminate := fun s l => (s 0).stack l
  full := fun msgs s h => (s 0).answer_full msgs h

/-- The script after its first `n` responses. -/
def after (s : Script) (n : Nat) : Script := fun i => s (i + n)

@[simp] theorem after_after (s : Script) (m n : Nat) : after (after s m) n = after s (m + n) := by
  funext i
  simp only [after]
  congr 1
  omega

section Scripted

variable (slaveAddr : UInt8) (s : Script)

theorem scripted_read (startAddr num : UInt16) (data : Nat → UInt16) (hn : num.toNat < 32768)
    (h : (s 0).fails = none) :
    i2cRead (some scriptedBus) slaveAddr startAddr num data s =
      ((0, fun k => if k < num.toNat then (s 0).word k else data k), after s 1) := by
  have hret : (readTransfer scriptedBus slaveAddr startAddr num data s).1.ret = 2 :=
    ((s 0).answer_ret _).mpr h
  rw [i2cRead_some, mlx90640I2cread_ok _ _ _ _ _ _ hn hret]
  have hwords : ∀ k, k < num.toNat →
      receivedWord (readTransfer scriptedBus slaveAddr startAddr num data s).1.received k =
        (s 0).word k := by
    intro k hk
    apply (s 0).answer_word _ h
    rw [readMsgs, readLength_read rfl rfl, two_mul_toNat hn]
    omega
  refine Prod.ext (Prod.ext rfl (funext fun k => ?_)) rfl
  by_cases hk : k < num.toNat
  · simp only [if_pos hk, hwords k hk]
  · simp only [if_neg hk]

theorem scripted_readWord (addr w : UInt16) (h : (s 0).fails = none) :
    readWord (i2cRead (some scriptedBus) slaveAddr addr 1) w s = ((0, (s 0).word 0), after s 1) := by
  rw [readWord, scripted_read slaveAddr s addr 1 _ (by decide) h]
  rfl

theorem scripted_write (addr data : UInt16) (h0 : (s 0).fails = none) :
    (i2cWrite (some scriptedBus) slaveAddr addr data s).1 ≠ -1 ∧
    (i2cWrite (some scriptedBus) slaveAddr addr data s).2 = after s 2 := by
  have hret : (writeTransfer scriptedBus slaveAddr s addr data).1.ret = 1 :=
    ((s 0).answer_ret _).mpr h0
  change (mlx90640I2cwrite scriptedBus slaveAddr addr data s).1 ≠ -1 ∧
    (mlx90640I2cwrite scriptedBus slaveAddr addr data s).2 = after s 2
  rw [mlx90640I2cwrite_reported _ _ _ _ _ hret]
  refine ⟨?_, rfl⟩
  dsimp only
  split_ifs <;> decide

/-- The transfers of attempt `k` whose outcome the code looks at: the write, the frame and
the status word. The read-back of the write may fail. -/
def AttemptReported (k : Nat) : Prop :=
  (s (4 * k)).fails = none ∧ (s (4 * k + 2)).fails = none ∧ (s (4 * k + 3)).fails = none

theorem attemptReported_after (k : Nat) :
    AttemptReported (after s 4) k ↔ AttemptReported s (k + 1) := Iff.rfl

theorem scripted_attempt (l : Locals) (h : AttemptReported s 0) :
    frameAttempt (some scriptedBus) slaveAddr l s =
      ((0, { frameData := fun k => if k < 832 then (s 2).word k else l.frameData k,
             statusRegister := (s 3).word 0, cnt := l.cnt + 1 }), after s 4) := by
  obtain ⟨hw, hs⟩ := scripted_write slaveAddr s 0x8000 0x0030 h.1
  have hf := scripted_read slaveAddr (after s 2) 0x0400 832 l.frameData (by decide) h.2.1
  have hr := scripted_readWord slaveAddr (after s 3) 0x8000 l.statusRegister h.2.2
  rw [after_after] at hf hr
  simp only [frameAttempt, if_neg hw, hs, hf, hr, ne_eq, not_true_eq_false, ↓reduceIte]
  rfl

/-- The frame read by attempt `k` of a retry loop that starts here. -/
def attemptFrame (k : Nat) : Response := s (4 * k + 2)

/-- The status word that follows attempt `k`. -/
def recheck (k : Nat) : UInt16 := (s (4 * k + 3)).word 0

theorem recheck_after (k : Nat) : recheck (after s 4) k = recheck s (k + 1) := by
  simp only [recheck, after]
  congr 2

theorem attemptFrame_after (k : Nat) : attemptFrame (after s 4) k = attemptFrame s (k + 1) := by
  simp only [attemptFrame, after]
  congr 1

/-- Locals after attempt `k`, counted from these. -/
def Locals.afterAttempt (l : Locals) (k : Nat) : Locals where
  frameData := fun i => if i < 832 then (attemptFrame s k).word i else l.frameData i
  statusRegister := recheck s k
  cnt := l.cnt + UInt8.ofNat (k + 1)

theorem afterAttempt_succ (l : Locals) (k : Nat) :
    (Locals.afterAttempt s l 0).afterAttempt (after s 4) k = Locals.afterAttempt s l (k + 1) := by
  simp only [Locals.afterAttempt, recheck_after, attemptFrame_after, Locals.mk.injEq, true_and]
  refine ⟨?_, ?_⟩
  · funext i
    by_cases hi : i < 832 <;> simp [hi]
  · rw [UInt8.add_assoc, ← UInt8.ofNat_add]
    congr 2
    omega

/-- The loop stops after the first attempt that finds the new-data bit clear. -/
theorem retryFrame_clear (n k : Nat) (l : Locals) (h : ∀ j ≤ k, AttemptReported s j) (hk : k < n)
    (hset : ∀ j < k, dataReady (recheck s j) ≠ 0) (hclear : dataReady (recheck s k) = 0) :
    retryFrame (some scriptedBus) slaveAddr n l s =
      ((0, Locals.afterAttempt s l k), after s (4 * (k + 1))) := by
  induction n generalizing k l s with
  | zero => omega
  | succ n ih =>
    have ha : frameAttempt (some scriptedBus) slaveAddr l s =
        ((0, Locals.afterAttempt s l 0), after s 4) :=
      scripted_attempt slaveAddr s l (h 0 (Nat.zero_le k))
    cases k with
    | zero =>
      have hc : dataReady (Locals.afterAttempt s l 0).statusRegister = 0 := hclear
      simp only [retryFrame, ha, hc, ne_eq, not_true_eq_false, ↓reduceIte]
    | succ k =>
      have hc : dataReady (Locals.afterAttempt s l 0).statusRegister ≠ 0 := hset 0 (by omega)
      have hrest := ih (after s 4) k (Locals.afterAttempt s l 0)
        (fun j hj => (attemptReported_after s j).mpr (h (j + 1) (by omega))) (by omega)
        (fun j hj => by rw [recheck_after]; exact hset (j + 1) (by omega))
        (by rw [recheck_after]; exact hclear)
      simp only [retryFrame, ha, ne_eq, not_true_eq_false, hc, not_false_eq_true, ↓reduceIte]
      rw [hrest, afterAttempt_succ, after_after]
      congr 2
      omega

/-- It runs out when every attempt finds the bit set again. -/
theorem retryFrame_set (n : Nat) (l : Locals) (h : ∀ j ≤ n, AttemptReported s j)
    (hset : ∀ j < n + 1, dataReady (recheck s j) ≠ 0) :
    retryFrame (some scriptedBus) slaveAddr (n + 1) l s =
      ((0, Locals.afterAttempt s l n), after s (4 * (n + 1))) := by
  induction n generalizing l s with
  | zero =>
    have ha : frameAttempt (some scriptedBus) slaveAddr l s =
        ((0, Locals.afterAttempt s l 0), after s 4) :=
      scripted_attempt slaveAddr s l (h 0 (Nat.zero_le _))
    have hc : dataReady (Locals.afterAttempt s l 0).statusRegister ≠ 0 := hset 0 (by omega)
    simp only [retryFrame, ha, ne_eq, not_true_eq_false, hc, not_false_eq_true, ↓reduceIte]
  | succ n ih =>
    have ha : frameAttempt (some scriptedBus) slaveAddr l s =
        ((0, Locals.afterAttempt s l 0), after s 4) :=
      scripted_attempt slaveAddr s l (h 0 (Nat.zero_le _))
    have hc : dataReady (Locals.afterAttempt s l 0).statusRegister ≠ 0 := hset 0 (by omega)
    have hrest := ih (after s 4) (Locals.afterAttempt s l 0)
      (fun j hj => (attemptReported_after s j).mpr (h (j + 1) (by omega)))
      (fun j hj => by rw [recheck_after]; exact hset (j + 1) (by omega))
    rw [retryFrame]
    simp only [ha, ne_eq, not_true_eq_false, hc, not_false_eq_true, ↓reduceIte]
    rw [hrest, afterAttempt_succ, after_after]
    congr 2
    omega

theorem pollStatus_scripted (n fuel : Nat) (w : UInt16) (h : ∀ i ≤ n, (s i).fails = none)
    (hfirst : ∀ i < n, dataReady ((s i).word 0) = 0) (hready : dataReady ((s n).word 0) ≠ 0)
    (hf : n < fuel) :
    pollStatus (some scriptedBus) slaveAddr fuel w s =
      some ((0, (s n).word 0), after s (n + 1)) := by
  induction n generalizing fuel w s with
  | zero =>
    obtain ⟨fuel, rfl⟩ : ∃ m, fuel = m + 1 := ⟨fuel - 1, by omega⟩
    simp only [pollStatus, scripted_readWord slaveAddr s 0x8000 w (h 0 (Nat.zero_le _)), ne_eq,
      not_true_eq_false, hready, ↓reduceIte]
  | succ n ih =>
    obtain ⟨fuel, rfl⟩ : ∃ m, fuel = m + 1 := ⟨fuel - 1, by omega⟩
    have h0 : dataReady ((s 0).word 0) = 0 := hfirst 0 (by omega)
    have hrest := ih (after s 1) fuel ((s 0).word 0) (fun i hi => h (i + 1) (by omega))
      (fun i hi => hfirst (i + 1) (by omega)) hready (by omega)
    simp only [pollStatus, scripted_readWord slaveAddr s 0x8000 w (h 0 (Nat.zero_le _)), ne_eq,
      not_true_eq_false, h0, ↓reduceIte]
    rw [hrest, after_after, Nat.add_comm 1 (n + 1)]
    rfl

/-- As many polls as are allowed, and none of them finds data. -/
def Waits (fuel : Nat) : Prop :=
  ∀ i < fuel, (s i).fails = none ∧ dataReady ((s i).word 0) = 0

theorem pollStatus_waits (fuel : Nat) (w : UInt16) (h : Waits s fuel) :
    pollStatus (some scriptedBus) slaveAddr fuel w s = none := by
  induction fuel generalizing w s with
  | zero => rfl
  | succ fuel ih =>
    obtain ⟨hreported, hclear⟩ := h 0 (Nat.succ_pos _)
    have hrest := ih (after s 1) ((s 0).word 0) fun i hi => h (i + 1) (by omega)
    simp only [pollStatus, scripted_readWord slaveAddr s 0x8000 w hreported, ne_eq,
      not_true_eq_false, hclear, ↓reduceIte]
    exact hrest

theorem getFrameData_waits {fuel : Nat} (frameData : Nat → UInt16) (h : Waits s fuel) :
    getFrameData (some scriptedBus) fuel slaveAddr frameData s = none := by
  simp only [getFrameData, pollStatus_waits slaveAddr s fuel _ h]

/-- Status poll `n` is the first to show the new-data bit. -/
def FirstReady (n : Nat) : Prop :=
  (∀ i < n, dataReady ((s i).word 0) = 0) ∧ dataReady ((s n).word 0) ≠ 0

/-- The call returns this, however many further polls it is allowed. -/
def Returns (frameData : Nat → UInt16) (r : Int) (fd : Nat → UInt16) : Prop :=
  ∃ fuel₀ s', ∀ fuel, fuel₀ ≤ fuel →
    getFrameData (some scriptedBus) fuel slaveAddr frameData s = some ((r, fd), s')

theorem Returns.unique {frameData fd fd' : Nat → UInt16} {r r' : Int}
    (h : Returns slaveAddr s frameData r fd) (h' : Returns slaveAddr s frameData r' fd') :
    r = r' ∧ fd = fd' := by
  obtain ⟨fuel, s₁, hf⟩ := h
  obtain ⟨fuel', s₂, hf'⟩ := h'
  have he := (hf (max fuel fuel') (le_max_left _ _)).symm.trans (hf' _ (le_max_right _ _))
  simp only [Option.some.injEq, Prod.mk.injEq] at he
  exact he.1

theorem getFrameData_polled {n fuel : Nat} (frameData : Nat → UInt16)
    (h : ∀ i ≤ n, (s i).fails = none) (hn : FirstReady s n) (hf : n < fuel) {l : Locals} {s' : Script}
    (hr : retryFrame (some scriptedBus) slaveAddr 5 ⟨frameData, (s n).word 0, 0⟩ (after s (n + 1)) =
      ((0, l), s')) :
    getFrameData (some scriptedBus) fuel slaveAddr frameData s =
      some (closeFrame (some scriptedBus) slaveAddr ((s 0).stack .controlRegister1) l s') := by
  have hpoll := pollStatus_scripted slaveAddr s n fuel ((s 0).stack .statusRegister) h hn.1 hn.2 hf
  have hs : stackWord (some scriptedBus) s = (s 0).stack := rfl
  simp only [getFrameData, hs, hpoll, hr, ne_eq, not_true_eq_false, ↓reduceIte]

theorem closeFrame_exhausted (i2cBus : Option (I2CBus σ)) (w : UInt16) (l : Locals) (s : σ)
    (h : l.cnt > 4) : closeFrame i2cBus slaveAddr w l s = ((-8, l.frameData), s) := by
  simp only [closeFrame, if_pos h]

theorem closeFrame_accepted (w : UInt16) (l : Locals) (h : ¬ l.cnt > 4) (hf : (s 0).fails = none) :
    closeFrame (some scriptedBus) slaveAddr w l s =
      ((((l.statusRegister &&& 0x0001).toNat : Int),
        Function.update (Function.update l.frameData 832 ((s 0).word 0)) 833
          (l.statusRegister &&& 0x0001)), after s 1) := by
  simp only [closeFrame, if_neg h, scripted_readWord slaveAddr s 0x800D w hf, ne_eq,
    not_true_eq_false, ↓reduceIte, Function.update_self]

/-- The buffer after attempt `k`, the words behind the frame untouched. -/
def attemptedFrame (n k : Nat) (frameData : Nat → UInt16) : Nat → UInt16 := fun i =>
  if i < 832 then (attemptFrame (after s (n + 1)) k).word i else frameData i

/-- The buffer of a call that accepted attempt `k`. -/
def acceptedFrame (n k : Nat) (frameData : Nat → UInt16) : Nat → UInt16 :=
  Function.update (Function.update (attemptedFrame s n k frameData) 832
    ((s (n + 1 + 4 * (k + 1))).word 0)) 833 (recheck (after s (n + 1)) k &&& 0x0001)

/-- A clear bit after one of the first four attempts accepts that attempt's frame. -/
theorem getFrameData_clear {n fuel k : Nat} (frameData : Nat → UInt16)
    (h : ∀ i ≤ n, (s i).fails = none) (hattempt : ∀ j ≤ k, AttemptReported (after s (n + 1)) j)
    (hcontrol : (s (n + 1 + 4 * (k + 1))).fails = none) (hn : FirstReady s n) (hf : n < fuel)
    (hk : k < 4)
    (hset : ∀ j < k, dataReady (recheck (after s (n + 1)) j) ≠ 0)
    (hclear : dataReady (recheck (after s (n + 1)) k) = 0) :
    getFrameData (some scriptedBus) fuel slaveAddr frameData s =
      some ((((recheck (after s (n + 1)) k &&& 0x0001).toNat : Int), acceptedFrame s n k frameData),
        after s (n + 1 + 4 * (k + 1) + 1)) := by
  have hr := retryFrame_clear slaveAddr (after s (n + 1)) 5 k ⟨frameData, (s n).word 0, 0⟩
    hattempt (by omega) hset hclear
  have hcnt : ¬ (Locals.afterAttempt (after s (n + 1)) ⟨frameData, (s n).word 0, 0⟩ k).cnt > 4 := by
    have hcases : k = 0 ∨ k = 1 ∨ k = 2 ∨ k = 3 := by omega
    simp only [Locals.afterAttempt]
    rcases hcases with rfl | rfl | rfl | rfl <;> decide
  have hnext : after (after s (n + 1)) (4 * (k + 1)) 0 = s (n + 1 + 4 * (k + 1)) := by
    rw [after_after, after, Nat.zero_add]
  have hfails : (after (after s (n + 1)) (4 * (k + 1)) 0).fails = none := by rwa [hnext]
  rw [getFrameData_polled slaveAddr s frameData h hn hf hr,
    closeFrame_accepted _ _ _ _ hcnt hfails, hnext, after_after, after_after]
  rfl

/-- Four set bits make the verdict -8, whatever the fifth attempt finds. -/
theorem getFrameData_set {n fuel : Nat} (frameData : Nat → UInt16)
    (h : ∀ i ≤ n, (s i).fails = none) (hattempt : ∀ j ≤ 4, AttemptReported (after s (n + 1)) j)
    (hn : FirstReady s n) (hf : n < fuel)
    (hset : ∀ j < 4, dataReady (recheck (after s (n + 1)) j) ≠ 0) :
    getFrameData (some scriptedBus) fuel slaveAddr frameData s =
      some ((-8, attemptedFrame s n 4 frameData), after s (n + 1 + 20)) := by
  have hr : retryFrame (some scriptedBus) slaveAddr 5 ⟨frameData, (s n).word 0, 0⟩
      (after s (n + 1)) =
      ((0, Locals.afterAttempt (after s (n + 1)) ⟨frameData, (s n).word 0, 0⟩ 4),
        after (after s (n + 1)) 20) := by
    by_cases h4 : dataReady (recheck (after s (n + 1)) 4) = 0
    · exact retryFrame_clear slaveAddr _ 5 4 _ hattempt (by omega) hset h4
    · refine retryFrame_set slaveAddr _ 4 _ hattempt fun j hj => ?_
      rcases Nat.lt_succ_iff_lt_or_eq.mp hj with hlt | rfl
      · exact hset j hlt
      · exact h4
  have hcnt : (Locals.afterAttempt (after s (n + 1)) ⟨frameData, (s n).word 0, 0⟩ 4).cnt > 4 := by
    simp only [Locals.afterAttempt]
    decide
  rw [getFrameData_polled slaveAddr s frameData h hn hf hr, closeFrame_exhausted _ _ _ _ _ hcnt,
    after_after]
  rfl

theorem returns_of_set (n : Nat) (frameData : Nat → UInt16) (h : ∀ i, (s i).fails = none)
    (hn : FirstReady s n) (hset : ∀ j < 4, dataReady (recheck (after s (n + 1)) j) ≠ 0) :
    ∃ fd, Returns slaveAddr s frameData (-8) fd :=
  ⟨_, n + 1, _, fun _ hf => getFrameData_set slaveAddr s frameData (fun i _ => h i)
    (fun _ _ => ⟨h _, h _, h _⟩) hn hf hset⟩

/-- The retry contract: -8 exactly when all five attempts find new data again; an attempt
that finds none, the fifth included, has its frame and subpage returned. -/
def RetryContract (n : Nat) (frameData : Nat → UInt16) : Prop :=
  ∃ r fd, Returns slaveAddr s frameData r fd ∧
    (r = -8 ↔ ∀ k < 5, dataReady (recheck (after s (n + 1)) k) ≠ 0) ∧
    ∀ k < 5, (∀ j < k, dataReady (recheck (after s (n + 1)) j) ≠ 0) →
      dataReady (recheck (after s (n + 1)) k) = 0 →
      r = ((recheck (after s (n + 1)) k &&& 0x0001).toNat : Int) ∧
      fd 833 = recheck (after s (n + 1)) k &&& 0x0001 ∧
      ∀ i < 832, fd i = (attemptFrame (after s (n + 1)) k).word i

theorem retryContract_of_clear (n k : Nat) (frameData : Nat → UInt16)
    (h : ∀ i, (s i).fails = none) (hn : FirstReady s n) (hk : k < 4)
    (hset : ∀ j < k, dataReady (recheck (after s (n + 1)) j) ≠ 0)
    (hclear : dataReady (recheck (after s (n + 1)) k) = 0) :
    RetryContract slaveAddr s n frameData := by
  have hret : Returns slaveAddr s frameData (recheck (after s (n + 1)) k &&& 0x0001).toNat
      (acceptedFrame s n k frameData) :=
    ⟨n + 1, _, fun _ hf => getFrameData_clear slaveAddr s frameData (fun i _ => h i)
      (fun _ _ => ⟨h _, h _, h _⟩) (h _) hn hf hk hset hclear⟩
  have hsub : acceptedFrame s n k frameData 833 = recheck (after s (n + 1)) k &&& 0x0001 :=
    Function.update_self _ _ _
  have hframe : ∀ i < 832, acceptedFrame s n k frameData i =
      (attemptFrame (after s (n + 1)) k).word i := by
    intro i hi
    rw [acceptedFrame, Function.update_of_ne (by omega), Function.update_of_ne (by omega),
      attemptedFrame, if_pos hi]
  refine ⟨_, acceptedFrame s n k frameData, hret, ?_, ?_⟩
  · refine ⟨fun he => by omega, fun hall => ?_⟩
    exact absurd hclear (hall k (by omega))
  · intro k' _ hset' hclear'
    have hkk : k' = k := by
      rcases Nat.lt_trichotomy k' k with hlt | he | hgt
      · exact absurd hclear' (hset k' hlt)
      · exact he
      · exact absurd hclear (hset' k hgt)
    subst hkk
    exact ⟨rfl, hsub, hframe⟩

/-- The code meets the retry contract unless the first four attempts find the bit set
and the fifth finds it clear. -/
theorem retryContract_iff (n : Nat) (frameData : Nat → UInt16) (h : ∀ i, (s i).fails = none)
    (hn : FirstReady s n) :
    RetryContract slaveAddr s n frameData ↔
      ¬ ((∀ k < 4, dataReady (recheck (after s (n + 1)) k) ≠ 0) ∧
        dataReady (recheck (after s (n + 1)) 4) = 0) := by
  constructor
  · rintro ⟨r, fd, hret, -, haccept⟩ ⟨hset, hclear⟩
    obtain ⟨fd', hret'⟩ := returns_of_set slaveAddr s n frameData h hn hset
    obtain ⟨hr, -⟩ := hret.unique slaveAddr s hret'
    have hsub := (haccept 4 (by omega) hset hclear).1
    omega
  · intro hnot
    by_cases hset : ∀ k < 4, dataReady (recheck (after s (n + 1)) k) ≠ 0
    · have h4 : dataReady (recheck (after s (n + 1)) 4) ≠ 0 := fun he => hnot ⟨hset, he⟩
      have hall : ∀ k < 5, dataReady (recheck (after s (n + 1)) k) ≠ 0 := by
        intro k hk
        rcases Nat.lt_succ_iff_lt_or_eq.mp hk with hlt | rfl
        · exact hset k hlt
        · exact h4
      obtain ⟨fd, hret⟩ := returns_of_set slaveAddr s n frameData h hn hset
      exact ⟨-8, fd, hret, ⟨fun _ => hall, fun _ => rfl⟩, fun k hk _ hc => absurd hc (hall k hk)⟩
    · have hex : ∃ k, k < 4 ∧ dataReady (recheck (after s (n + 1)) k) = 0 := by
        by_contra hno
        exact hset fun k hk hc => hno ⟨k, hk, hc⟩
      obtain ⟨hk, hc⟩ := Nat.find_spec hex
      refine retryContract_of_clear slaveAddr s n (Nat.find hex) frameData h hn hk ?_ hc
      intro j hj hz
      exact Nat.find_min hex hj ⟨by omega, hz⟩

end Scripted

/-- A script of reported transfers in which response `i` carries the status word `w i`. -/
def statusScript (w : Nat → UInt16) : Script := fun i =>
  { fails := none, bytes := [hiByte (w i), loByte (w i)], stack := fun _ => 0 }

/-- New data again after the first attempt: the second is the one that is accepted. -/
theorem retryContract_second_attempt :
    RetryContract 0x33 (statusScript fun i => if i = 0 ∨ i = 4 then 8 else 1) 0 (fun _ => 0) := by
  rw [retryContract_iff 0x33 _ 0 _ (fun _ => rfl) ⟨by omega, by decide⟩]
  decide

/-- The bit is set after attempts one to four and clear after the fifth, which carries
subpage 1: the call returns -8 all the same. -/
theorem retryContract_fails_at_fifth :
    ¬ RetryContract 0x33
      (statusScript fun i => if i = 0 ∨ i = 4 ∨ i = 8 ∨ i = 12 ∨ i = 16 then 8 else 1) 0
      (fun _ => 0) := by
  intro h
  obtain ⟨r, fd, hret, -, haccept⟩ := h
  obtain ⟨fd', hret'⟩ := returns_of_set 0x33
    (statusScript fun i => if i = 0 ∨ i = 4 ∨ i = 8 ∨ i = 12 ∨ i = 16 then 8 else 1) 0 (fun _ => 0)
    (fun _ => rfl) ⟨by omega, by decide⟩ (by decide)
  obtain ⟨hr, -⟩ := hret.unique _ _ hret'
  have hsub := (haccept 4 (by omega) (by decide) (by decide)).1
  omega

end Mlx90640.Bus.FrameData
