import Mlx90640.Lib.Loops
import Mathlib.Tactic.Linarith

/-!
# Word transfers over the I2C bus

`i2cRead` and `i2cWrite` are `MLX90640_I2CRead` and `MLX90640_I2CWrite` over an
arbitrary bus. `rt_i2c_transfer` is the bus: it maps the messages to a result and a
next state of everything outside the host, so one model serves a scripted device, a
free-running sensor and a plain register file. A read may leave any bytes behind when
it fails, and a local that the C code does not initialise starts with whatever the bus
state assigns to it.
-/
namespace Mlx90640.Bus.Transfer

open Mlx90640.Lib.Loops

def RT_I2C_WR : UInt16 := 0x0000
def RT_I2C_RD : UInt16 := 0x0001
def RT_I2C_NO_STOP : UInt16 := 0x0080

/-- `struct rt_i2c_msg`, with the contents of the buffer in place of its address. -/
structure I2CMsg where
  addr : UInt16
  flags : UInt16
  len : UInt16
  buf : List UInt8
  deriving DecidableEq, Repr

/-- What `rt_i2c_transfer` returns, and the bytes that arrived for the read message. -/
structure I2CResult where
  ret : Int
  received : List UInt8
  deriving DecidableEq, Repr

/-- The locals that the driver leaves uninitialised. -/
inductive Local where
  | dataCheck | controlRegister1 | statusRegister
  deriving DecidableEq, Repr

def readLength (msgs : List I2CMsg) : Nat :=
  ((msgs.filter (fun m => m.flags &&& RT_I2C_RD ≠ 0)).map (fun m => m.len.toNat)).sum

/-- A bus with everything behind it. `full` is the driver's own contract: when all
messages are reported, every requested byte has arrived. -/
structure I2CBus (σ : Type) where
  transfer : List I2CMsg → σ → I2CResult × σ
  indeterminate : σ → Local → UInt16
  full : ∀ msgs s, (transfer msgs s).1.ret = msgs.length →
    (transfer msgs s).1.received.length = readLength msgs

variable {σ : Type}

def hiByte (w : UInt16) : UInt8 := (w >>> 8).toUInt8
def loByte (w : UInt16) : UInt8 := (w &&& 0x00FF).toUInt8
def ofBytes (hi lo : UInt8) : UInt16 := (hi.toUInt16 <<< 8) ||| lo.toUInt16

/-- The `uint8_t *` view of a word buffer on the little-endian host. -/
def bytesOf (data : Nat → UInt16) : Nat → UInt8 := fun i =>
  if i % 2 = 0 then loByte (data (i / 2)) else hiByte (data (i / 2))

def wordsOf (bp : Nat → UInt8) : Nat → UInt16 := fun k => ofBytes (bp (2 * k + 1)) (bp (2 * k))

/-- The buffer after the driver stored the bytes that arrived. -/
def fill (bp : Nat → UInt8) (len : Nat) (received : List UInt8) : Nat → UInt8 := fun i =>
  if i < len then received.getD i (bp i) else bp i

/-- The loop that exchanges the two bytes of each word in place. -/
def swapBytes (num : Nat) (bp : Nat → UInt8) : Nat → UInt8 :=
  Nat.fold num (fun k _ bp =>
    let cnt := 2 * k
    let tmpbytelsb := bp (cnt + 1)
    let bp := Function.update bp (cnt + 1) (bp cnt)
    Function.update bp cnt tmpbytelsb) bp

def readMsgs (slaveAddr : UInt8) (startAddr num : UInt16) (bp : Nat → UInt8) : List I2CMsg :=
  [{ addr := slaveAddr.toUInt16, flags := RT_I2C_WR ||| RT_I2C_NO_STOP, len := 2,
     buf := [hiByte startAddr, loByte startAddr] },
   { addr := slaveAddr.toUInt16, flags := RT_I2C_RD, len := num * 2,
     buf := (List.range (num * 2).toNat).map bp }]

def writeMsgs (slaveAddr : UInt8) (writeAddr data : UInt16) : List I2CMsg :=
  [{ addr := slaveAddr.toUInt16, flags := RT_I2C_WR, len := 4,
     buf := [hiByte writeAddr, loByte writeAddr, hiByte data, loByte data] }]

/-- `_mlx90640_i2cread`, the single-transfer variant that is compiled in. -/
def mlx90640I2cread (bus : I2CBus σ) (slaveAddr : UInt8) (startAddr num : UInt16)
    (data : Nat → UInt16) (s : σ) : (Int × (Nat → UInt16)) × σ :=
  let bp := bytesOf data
  let (r, s) := bus.transfer (readMsgs slaveAddr startAddr num bp) s
  let bp := fill bp (num * 2).toNat r.received
  if r.ret ≠ 2 then ((-1, wordsOf bp), s)
  else ((0, wordsOf (swapBytes num.toNat bp)), s)

/-- The same read into one word, the way the callers pass `&statusRegister`. -/
def readWord (read : (Nat → UInt16) → σ → (Int × (Nat → UInt16)) × σ) (w : UInt16) (s : σ) :
    (Int × UInt16) × σ :=
  let r := read (fun _ => w) s
  ((r.1.1, r.1.2 0), r.2)

/-- `_mlx90640_i2cwrite`: the return code of the read-back is not looked at. -/
def mlx90640I2cwrite (bus : I2CBus σ) (slaveAddr : UInt8) (writeAddr data : UInt16) (s : σ) :
    Int × σ :=
  let dataCheck := bus.indeterminate s .dataCheck
  let (r, s) := bus.transfer (writeMsgs slaveAddr writeAddr data) s
  if r.ret ≠ 1 then (-1, s)
  else
    let ((_, dataCheck), s) := readWord (mlx90640I2cread bus slaveAddr writeAddr 1) dataCheck s
    if dataCheck ≠ data then (-2, s) else (0, s)

/-- `MLX90640_I2CRead`; the static `i2c_bus` pointer is `none` when it is NULL. -/
def i2cRead (i2cBus : Option (I2CBus σ)) (slaveAddr : UInt8) (startAddr num : UInt16)
    (data : Nat → UInt16) (s : σ) : (Int × (Nat → UInt16)) × σ :=
  match i2cBus with
  | none => ((-1, data), s)
  | some bus => mlx90640I2cread bus slaveAddr startAddr num data s

theorem i2cRead_some (bus : I2CBus σ) : i2cRead (some bus) = mlx90640I2cread bus := rfl

/-- `MLX90640_I2CWrite`. -/
def i2cWrite (i2cBus : Option (I2CBus σ)) (slaveAddr : UInt8) (writeAddr data : UInt16) (s : σ) :
    Int × σ :=
  match i2cBus with
  | none => (-1, s)
  | some bus => mlx90640I2cwrite bus slaveAddr writeAddr data s

theorem hiByte_toNat (w : UInt16) : (hiByte w).toNat = w.toNat / 256 := by
  have hw := w.toNat_lt
  simp only [hiByte, UInt16.toNat_toUInt8, UInt16.toNat_shiftRight]
  change w.toNat >>> 8 % 256 = _
  rw [Nat.shiftRight_eq_div_pow]
  omega

theorem loByte_toNat (w : UInt16) : (loByte w).toNat = w.toNat % 256 := by
  simp only [loByte, UInt16.toNat_toUInt8, UInt16.toNat_and]
  change (w.toNat &&& 255) % 256 = _
  rw [show (255 : Nat) = 2 ^ 8 - 1 from rfl, Nat.and_two_pow_sub_one_eq_mod]
  omega

theorem ofBytes_toNat (hi lo : UInt8) : (ofBytes hi lo).toNat = 256 * hi.toNat + lo.toNat := by
  have hh := hi.toNat_lt
  have hl := lo.toNat_lt
  simp only [ofBytes, UInt16.toNat_or, UInt16.toNat_shiftLeft, UInt8.toNat_toUInt16]
  change (hi.toNat <<< 8 % 65536) ||| lo.toNat = _
  have hs : hi.toNat <<< 8 % 65536 = hi.toNat <<< 8 := by
    rw [Nat.shiftLeft_eq]
    omega
  rw [hs, ← Nat.shiftLeft_add_eq_or_of_lt (by omega : lo.toNat < 2 ^ 8), Nat.shiftLeft_eq]
  omega

@[simp] theorem ofBytes_hi_lo (w : UInt16) : ofBytes (hiByte w) (loByte w) = w := by
  apply UInt16.toNat_inj.mp
  rw [ofBytes_toNat, hiByte_toNat, loByte_toNat]
  omega

@[simp] theorem wordsOf_bytesOf (data : Nat → UInt16) : wordsOf (bytesOf data) = data := by
  funext k
  have hodd : (2 * k + 1) % 2 ≠ 0 := by omega
  have hhalf : (2 * k + 1) / 2 = k := by omega
  simp [wordsOf, bytesOf, hhalf]

theorem swapBytes_at (num : Nat) (bp : Nat → UInt8) (i : Nat) :
    swapBytes num bp i =
      if i < 2 * num then (if i % 2 = 0 then bp (i + 1) else bp (i - 1)) else bp i := by
  induction num generalizing i with
  | zero => simp [swapBytes]
  | succ num ih =>
    have hstep : swapBytes (num + 1) bp =
        Function.update (Function.update (swapBytes num bp) (2 * num + 1) (swapBytes num bp (2 * num)))
          (2 * num) (swapBytes num bp (2 * num + 1)) := rfl
    rw [hstep]
    by_cases h0 : i = 2 * num
    · subst h0
      rw [Function.update_self, ih]
      simp
    · rw [Function.update_of_ne h0]
      by_cases h1 : i = 2 * num + 1
      · subst h1
        rw [Function.update_self, ih, if_neg (by omega), if_pos (by omega), if_neg (by omega)]
        rfl
      · rw [Function.update_of_ne h1, ih]
        have hlt : i < 2 * num ↔ i < 2 * (num + 1) := by omega
        simp only [hlt]

/-- Word `k` of a read message, most significant byte first. -/
def receivedWord (received : List UInt8) (k : Nat) : UInt16 :=
  ofBytes (received.getD (2 * k) 0) (received.getD (2 * k + 1) 0)

/-- What a one-word buffer holds after a transfer that failed: the bytes that arrived,
in the order of the wire, over the buffer's earlier contents. -/
def residue (w : UInt16) (received : List UInt8) : UInt16 :=
  ofBytes (received.getD 1 (hiByte w)) (received.getD 0 (loByte w))

theorem readLength_write {m : I2CMsg} (hm : m.flags = RT_I2C_WR) : readLength [m] = 0 := by
  have hwr : RT_I2C_WR &&& RT_I2C_RD = 0 := by decide
  rw [readLength, List.filter_cons_of_neg (by simp [hm, hwr])]
  rfl

theorem readLength_read {m r : I2CMsg} (hm : m.flags = RT_I2C_WR ||| RT_I2C_NO_STOP)
    (hr : r.flags = RT_I2C_RD) : readLength [m, r] = r.len.toNat := by
  have hwr : (RT_I2C_WR ||| RT_I2C_NO_STOP) &&& RT_I2C_RD = 0 := by decide
  have hrd : RT_I2C_RD &&& RT_I2C_RD ≠ 0 := by decide
  rw [readLength, List.filter_cons_of_neg (by simp [hm, hwr]),
    List.filter_cons_of_pos (by simpa [hr] using hrd)]
  simp

theorem two_mul_toNat {num : UInt16} (hn : num.toNat < 32768) : (num * 2).toNat = 2 * num.toNat := by
  rw [UInt16.toNat_mul]
  change num.toNat * 2 % 65536 = _
  omega

/-- The buffer after a transfer in which every byte arrived, once the bytes of its words
are exchanged. -/
theorem wordsOf_swap_fill (data : Nat → UInt16) (num : Nat) (received : List UInt8)
    (hl : received.length = 2 * num) (k : Nat) :
    wordsOf (swapBytes num (fill (bytesOf data) (2 * num) received)) k =
      if k < num then receivedWord received k else data k := by
  simp only [wordsOf, swapBytes_at]
  by_cases hk : k < num
  · have hodd : ¬ (2 * k + 1) % 2 = 0 := by omega
    have h0 : 2 * k < received.length := by omega
    have h1 : 2 * k + 1 < received.length := by omega
    rw [if_pos (by omega), if_neg hodd, if_pos (by omega), if_pos (by omega), if_pos hk]
    simp only [fill, receivedWord, Nat.add_sub_cancel]
    rw [if_pos (by omega), if_pos (by omega)]
    simp only [List.getD_eq_getElem?_getD, List.getElem?_eq_getElem h0, List.getElem?_eq_getElem h1,
      Option.getD_some]
  · rw [if_neg (by omega), if_neg (by omega), if_neg hk]
    simp only [fill]
    rw [if_neg (by omega), if_neg (by omega)]
    exact congrFun (wordsOf_bytesOf data) k

section Spec

variable (bus : I2CBus σ) (slaveAddr : UInt8) (startAddr num : UInt16) (data : Nat → UInt16) (s : σ)

/-- The transfer behind a read. -/
def readTransfer : I2CResult × σ :=
  bus.transfer (readMsgs slaveAddr startAddr num (bytesOf data)) s

/-- The transfer behind a write, before the read-back. -/
def writeTransfer (writeAddr data : UInt16) : I2CResult × σ :=
  bus.transfer (writeMsgs slaveAddr writeAddr data) s

theorem mlx90640I2cread_failed (h : (readTransfer bus slaveAddr startAddr num data s).1.ret ≠ 2) :
    mlx90640I2cread bus slaveAddr startAddr num data s =
      ((-1, wordsOf (fill (bytesOf data) (num * 2).toNat
        (readTransfer bus slaveAddr startAddr num data s).1.received)),
        (readTransfer bus slaveAddr startAddr num data s).2) := by
  unfold readTransfer at h ⊢
  simp only [mlx90640I2cread, if_pos h]

/-- A reported transfer returns 0 and decodes every requested word; the rest of the
buffer is untouched. -/
theorem mlx90640I2cread_ok (hn : num.toNat < 32768)
    (h : (readTransfer bus slaveAddr startAddr num data s).1.ret = 2) :
    mlx90640I2cread bus slaveAddr startAddr num data s =
      ((0, fun k => if k < num.toNat then
        receivedWord (readTransfer bus slaveAddr startAddr num data s).1.received k else data k),
        (readTransfer bus slaveAddr startAddr num data s).2) := by
  have hlen : (readTransfer bus slaveAddr startAddr num data s).1.received.length = 2 * num.toNat := by
    have hfull := bus.full (readMsgs slaveAddr startAddr num (bytesOf data)) s h
    rw [readTransfer, hfull, ← two_mul_toNat hn]
    exact readLength_read rfl rfl
  have hwords := wordsOf_swap_fill data num.toNat _ hlen
  unfold readTransfer at h hwords ⊢
  simp only [mlx90640I2cread, two_mul_toNat hn]
  rw [if_neg (not_not.mpr h)]
  exact congrArg (fun d => ((0, d), _)) (funext hwords)

/-- `MLX90640_I2CRead` returns 0 or -1, and 0 exactly when the transfer is reported. -/
theorem mlx90640I2cread_code :
    (mlx90640I2cread bus slaveAddr startAddr num data s).1.1 =
      if (readTransfer bus slaveAddr startAddr num data s).1.ret = 2 then 0 else -1 := by
  unfold readTransfer
  simp only [mlx90640I2cread]
  split_ifs <;> first | rfl | contradiction

theorem mlx90640I2cread_state :
    (mlx90640I2cread bus slaveAddr startAddr num data s).2 =
      (readTransfer bus slaveAddr startAddr num data s).2 := by
  unfold readTransfer
  simp only [mlx90640I2cread]
  split_ifs <;> rfl

end Spec

theorem i2cRead_code (i2cBus : Option (I2CBus σ)) (slaveAddr : UInt8) (startAddr num : UInt16)
    (data : Nat → UInt16) (s : σ) :
    (i2cRead i2cBus slaveAddr startAddr num data s).1.1 = 0 ∨
      (i2cRead i2cBus slaveAddr startAddr num data s).1.1 = -1 := by
  cases i2cBus with
  | none => exact Or.inr rfl
  | some bus =>
    rw [i2cRead_some, mlx90640I2cread_code]
    split_ifs
    · exact Or.inl rfl
    · exact Or.inr rfl

section OneWord

variable (bus : I2CBus σ) (slaveAddr : UInt8) (addr w : UInt16) (s : σ)

theorem readWord_ok (h : (readTransfer bus slaveAddr addr 1 (fun _ => w) s).1.ret = 2) :
    readWord (mlx90640I2cread bus slaveAddr addr 1) w s =
      ((0, receivedWord (readTransfer bus slaveAddr addr 1 (fun _ => w) s).1.received 0),
        (readTransfer bus slaveAddr addr 1 (fun _ => w) s).2) := by
  simp only [readWord, mlx90640I2cread_ok bus slaveAddr addr 1 (fun _ => w) s (by decide) h]
  rfl

theorem readWord_failed (h : (readTransfer bus slaveAddr addr 1 (fun _ => w) s).1.ret ≠ 2) :
    readWord (mlx90640I2cread bus slaveAddr addr 1) w s =
      ((-1, residue w (readTransfer bus slaveAddr addr 1 (fun _ => w) s).1.received),
        (readTransfer bus slaveAddr addr 1 (fun _ => w) s).2) := by
  simp only [readWord, mlx90640I2cread_failed bus slaveAddr addr 1 (fun _ => w) s h]
  rfl

end OneWord

section VerifiedWrite

variable (bus : I2CBus σ) (slaveAddr : UInt8) (writeAddr data : UInt16) (s : σ)

/-- The read-back transfer of a write that was reported. -/
def readBack : I2CResult × σ :=
  readTransfer bus slaveAddr writeAddr 1 (fun _ => bus.indeterminate s .dataCheck)
    (writeTransfer bus slaveAddr s writeAddr data).2

theorem mlx90640I2cwrite_failed (h : (writeTransfer bus slaveAddr s writeAddr data).1.ret ≠ 1) :
    mlx90640I2cwrite bus slaveAddr writeAddr data s =
      (-1, (writeTransfer bus slaveAddr s writeAddr data).2) := by
  unfold writeTransfer at h ⊢
  simp only [mlx90640I2cwrite, if_pos h]

/-- After a reported write only the word left in `data_check` decides, whatever became
of the read-back. -/
theorem mlx90640I2cwrite_reported (h : (writeTransfer bus slaveAddr s writeAddr data).1.ret = 1) :
    mlx90640I2cwrite bus slaveAddr writeAddr data s =
      (if (if (readBack bus slaveAddr writeAddr data s).1.ret = 2
          then receivedWord (readBack bus slaveAddr writeAddr data s).1.received 0
          else residue (bus.indeterminate s .dataCheck)
            (readBack bus slaveAddr writeAddr data s).1.received) = data then 0 else -2,
        (readBack bus slaveAddr writeAddr data s).2) := by
  have hw : ¬ (bus.transfer (writeMsgs slaveAddr writeAddr data) s).1.ret ≠ 1 := not_not.mpr h
  simp only [mlx90640I2cwrite, if_neg hw]
  by_cases hr : (readBack bus slaveAddr writeAddr data s).1.ret = 2
  · have hread := readWord_ok bus slaveAddr writeAddr (bus.indeterminate s .dataCheck) _ hr
    simp only [writeTransfer] at hread
    rw [hread, if_pos hr]
    unfold readBack writeTransfer
    split_ifs <;> first | rfl | contradiction
  · have hread := readWord_failed bus slaveAddr writeAddr (bus.indeterminate s .dataCheck) _ hr
    simp only [writeTransfer] at hread
    rw [hread, if_neg hr]
    unfold readBack writeTransfer
    split_ifs <;> first | rfl | contradiction

/-- What a verified write promises: 0 means written, read back, and found equal. -/
def WriteVerified : Prop :=
  (i2cWrite (some bus) slaveAddr writeAddr data s).1 = 0 ↔
    (writeTransfer bus slaveAddr s writeAddr data).1.ret = 1 ∧
    (readBack bus slaveAddr writeAddr data s).1.ret = 2 ∧
    receivedWord (readBack bus slaveAddr writeAddr data s).1.received 0 = data

/-- The failed read-back leaves in `data_check` the very word that was written. -/
def StaleMatch : Prop :=
  (writeTransfer bus slaveAddr s writeAddr data).1.ret = 1 ∧
  (readBack bus slaveAddr writeAddr data s).1.ret ≠ 2 ∧
  residue (bus.indeterminate s .dataCheck) (readBack bus slaveAddr writeAddr data s).1.received = data

/-- The write is verified except when the read-back fails over a `data_check` that
already holds the written word. -/
theorem writeVerified_iff_not_staleMatch :
    WriteVerified bus slaveAddr writeAddr data s ↔ ¬ StaleMatch bus slaveAddr writeAddr data s := by
  unfold WriteVerified StaleMatch
  change ((mlx90640I2cwrite bus slaveAddr writeAddr data s).1 = 0 ↔ _) ↔ _
  by_cases hw : (writeTransfer bus slaveAddr s writeAddr data).1.ret = 1
  · rw [mlx90640I2cwrite_reported bus slaveAddr writeAddr data s hw]
    by_cases hr : (readBack bus slaveAddr writeAddr data s).1.ret = 2
    · simp [hw, hr]
    · simp [hw, hr]
  · rw [mlx90640I2cwrite_failed bus slaveAddr writeAddr data s hw]
    simp [hw]

end VerifiedWrite

/-- A device that takes writes and never answers a read. -/
def deafBus (garbage : UInt16) : I2CBus Unit where
  transfer := fun msgs _ =>
    if msgs.length = 1 then (⟨1, List.replicate (readLength msgs) 0⟩, ()) else (⟨-1, []⟩, ())
  indeterminate := fun _ _ => garbage
  full := by
    intro msgs s h
    by_cases hm : msgs.length = 1
    · simp [hm]
    · simp only [if_neg hm] at h
      omega

/-- A write of 0x1901 to the control register reports success although its read-back
failed, because the stack word happened to hold 0x1901. -/
theorem writeVerified_fails_on_stale_stack :
    ¬ WriteVerified (deafBus 0x1901) 0x33 0x800D 0x1901 () := by
  rw [WriteVerified]
  decide

end Mlx90640.Bus.Transfer
