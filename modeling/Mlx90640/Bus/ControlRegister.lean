import Mlx90640.Bus.Transfer
import Mathlib.Tactic.IntervalCases

/-!
# Runs of read-modify-write calls on the control register

Four setters share the word at 0x800D. A `ControlDevice` is any device that stores there
what a reported write carries, byte for byte, and answers reads with it. Which transfers
fail is up to the device, so every subset of failures is covered. Nothing is assumed
about the read-back verdict of a write.
-/
namespace Mlx90640.Bus.ControlRegister

open Mlx90640.Bus.Transfer

variable {σ : Type}

/-- The contents of an uninitialised local; without a bus nothing is ever read from it. -/
def stackWord (i2cBus : Option (I2CBus σ)) (s : σ) (l : Local) : UInt16 :=
  match i2cBus with
  | none => 0
  | some bus => bus.indeterminate s l

theorem stackWord_some (bus : I2CBus σ) (s : σ) (l : Local) :
    stackWord (some bus) s l = bus.indeterminate s l := rfl

/-- The common body of the setters: read 0x800D, and only if that succeeded write the
updated word back. -/
def updateControl (i2cBus : Option (I2CBus σ)) (slaveAddr : UInt8) (update : UInt16 → UInt16)
    (s : σ) : Int × σ :=
  let controlRegister1 := stackWord i2cBus s .controlRegister1
  let ((error, controlRegister1), s) :=
    readWord (i2cRead i2cBus slaveAddr 0x800D 1) controlRegister1 s
  if error = 0 then i2cWrite i2cBus slaveAddr 0x800D (update controlRegister1) s else (error, s)

/-- The common body of the getters. -/
def controlField (i2cBus : Option (I2CBus σ)) (slaveAddr : UInt8) (field : UInt16 → UInt16)
    (s : σ) : Int × σ :=
  let controlRegister1 := stackWord i2cBus s .controlRegister1
  let ((error, controlRegister1), s) :=
    readWord (i2cRead i2cBus slaveAddr 0x800D 1) controlRegister1 s
  if error ≠ 0 then (error, s) else ((field controlRegister1).toNat, s)

def resolutionUpdate (resolution : UInt8) (controlRegister1 : UInt16) : UInt16 :=
  let value : UInt16 := (resolution &&& 0x03).toUInt16 <<< 10
  (controlRegister1 &&& 0xF3FF) ||| value

def refreshRateUpdate (refreshRate : UInt8) (controlRegister1 : UInt16) : UInt16 :=
  let value : UInt16 := (refreshRate &&& 0x07).toUInt16 <<< 7
  (controlRegister1 &&& 0xFC7F) ||| value

def setResolution (i2cBus : Option (I2CBus σ)) (slaveAddr resolution : UInt8) : σ → Int × σ :=
  updateControl i2cBus slaveAddr (resolutionUpdate resolution)

def setRefreshRate (i2cBus : Option (I2CBus σ)) (slaveAddr refreshRate : UInt8) : σ → Int × σ :=
  updateControl i2cBus slaveAddr (refreshRateUpdate refreshRate)

def setInterleavedMode (i2cBus : Option (I2CBus σ)) (slaveAddr : UInt8) : σ → Int × σ :=
  updateControl i2cBus slaveAddr (fun controlRegister1 => controlRegister1 &&& 0xEFFF)

def setChessMode (i2cBus : Option (I2CBus σ)) (slaveAddr : UInt8) : σ → Int × σ :=
  updateControl i2cBus slaveAddr (fun controlRegister1 => controlRegister1 ||| 0x1000)

def getCurResolution (i2cBus : Option (I2CBus σ)) (slaveAddr : UInt8) : σ → Int × σ :=
  controlField i2cBus slaveAddr (fun controlRegister1 => (controlRegister1 &&& 0x0C00) >>> 10)

def getRefreshRate (i2cBus : Option (I2CBus σ)) (slaveAddr : UInt8) : σ → Int × σ :=
  controlField i2cBus slaveAddr (fun controlRegister1 => (controlRegister1 &&& 0x0380) >>> 7)

def getCurMode (i2cBus : Option (I2CBus σ)) (slaveAddr : UInt8) : σ → Int × σ :=
  controlField i2cBus slaveAddr (fun controlRegister1 => (controlRegister1 &&& 0x1000) >>> 12)

section Spec

variable (bus : I2CBus σ) (slaveAddr : UInt8) (s : σ)

/-- The read transfer that opens every setter and getter. -/
def opening : I2CResult × σ :=
  readTransfer bus slaveAddr 0x800D 1 (fun _ => bus.indeterminate s .controlRegister1) s

theorem updateControl_ok (update : UInt16 → UInt16) (h : (opening bus slaveAddr s).1.ret = 2) :
    updateControl (some bus) slaveAddr update s =
      i2cWrite (some bus) slaveAddr 0x800D
        (update (receivedWord (opening bus slaveAddr s).1.received 0)) (opening bus slaveAddr s).2 := by
  have hread := readWord_ok bus slaveAddr 0x800D (bus.indeterminate s .controlRegister1) s h
  simp only [updateControl, i2cRead_some, stackWord_some, hread]
  rfl

theorem updateControl_failed (update : UInt16 → UInt16) (h : (opening bus slaveAddr s).1.ret ≠ 2) :
    updateControl (some bus) slaveAddr update s = (-1, (opening bus slaveAddr s).2) := by
  have hread := readWord_failed bus slaveAddr 0x800D (bus.indeterminate s .controlRegister1) s h
  simp only [updateControl, i2cRead_some, stackWord_some, hread]
  rfl

theorem controlField_ok (field : UInt16 → UInt16) (h : (opening bus slaveAddr s).1.ret = 2) :
    controlField (some bus) slaveAddr field s =
      (((field (receivedWord (opening bus slaveAddr s).1.received 0)).toNat : Int),
        (opening bus slaveAddr s).2) := by
  have hread := readWord_ok bus slaveAddr 0x800D (bus.indeterminate s .controlRegister1) s h
  simp only [controlField, i2cRead_some, stackWord_some, hread]
  rfl

end Spec

/-- A device whose word at 0x800D stores what a reported write carries and is returned,
most significant byte first, by reported reads. A write that is not reported changes
nothing. -/
structure ControlDevice (σ : Type) extends I2CBus σ where
  control : σ → UInt16
  write_reported : ∀ (m : I2CMsg) (hi lo : UInt8) (s : σ), m.flags = RT_I2C_WR →
    m.buf = [0x80, 0x0D, hi, lo] → (transfer [m] s).1.ret = 1 →
    control (transfer [m] s).2 = ofBytes hi lo
  write_unreported : ∀ (m : I2CMsg) (hi lo : UInt8) (s : σ), m.flags = RT_I2C_WR →
    m.buf = [0x80, 0x0D, hi, lo] → (transfer [m] s).1.ret ≠ 1 →
    control (transfer [m] s).2 = control s
  read_keeps : ∀ (m r : I2CMsg) (s : σ), m.flags = RT_I2C_WR ||| RT_I2C_NO_STOP →
    m.buf = [0x80, 0x0D] → r.flags = RT_I2C_RD → control (transfer [m, r] s).2 = control s
  read_returns : ∀ (m r : I2CMsg) (s : σ), m.flags = RT_I2C_WR ||| RT_I2C_NO_STOP →
    m.buf = [0x80, 0x0D] → r.flags = RT_I2C_RD → r.len = 2 → (transfer [m, r] s).1.ret = 2 →
    (transfer [m, r] s).1.received = [hiByte (control s), loByte (control s)]

inductive Call where
  | setResolution (resolution : UInt8)
  | setRefreshRate (refreshRate : UInt8)
  | setInterleavedMode
  | setChessMode
  deriving DecidableEq, Repr

/-- The three fields of the register, one for each kind of setter. -/
inductive Field where
  | resolution | refreshRate | mode
  deriving DecidableEq, Repr

namespace Field

def get : Field → UInt16 → UInt16
  | resolution, w => (w &&& 0x0C00) >>> 10
  | refreshRate, w => (w &&& 0x0380) >>> 7
  | mode, w => (w &&& 0x1000) >>> 12

/-- The getter of the field. -/
def read (i2cBus : Option (I2CBus σ)) (slaveAddr : UInt8) : Field → σ → Int × σ
  | resolution => getCurResolution i2cBus slaveAddr
  | refreshRate => getRefreshRate i2cBus slaveAddr
  | mode => getCurMode i2cBus slaveAddr

end Field

namespace Call

def exec (i2cBus : Option (I2CBus σ)) (slaveAddr : UInt8) : Call → σ → Int × σ
  | setResolution r => ControlRegister.setResolution i2cBus slaveAddr r
  | setRefreshRate r => ControlRegister.setRefreshRate i2cBus slaveAddr r
  | setInterleavedMode => ControlRegister.setInterleavedMode i2cBus slaveAddr
  | setChessMode => ControlRegister.setChessMode i2cBus slaveAddr

/-- The update each setter applies to the word it read. -/
def update : Call → UInt16 → UInt16
  | setResolution r => resolutionUpdate r
  | setRefreshRate r => refreshRateUpdate r
  | setInterleavedMode => fun w => w &&& 0xEFFF
  | setChessMode => fun w => w ||| 0x1000

def kind : Call → Field
  | setResolution _ => .resolution
  | setRefreshRate _ => .refreshRate
  | setInterleavedMode => .mode
  | setChessMode => .mode

/-- The masked argument, as the field shows it. -/
def value : Call → UInt16
  | setResolution r => (r &&& 0x03).toUInt16
  | setRefreshRate r => (r &&& 0x07).toUInt16
  | setInterleavedMode => 0
  | setChessMode => 1

theorem exec_eq (i2cBus : Option (I2CBus σ)) (slaveAddr : UInt8) (c : Call) :
    c.exec i2cBus slaveAddr = updateControl i2cBus slaveAddr c.update := by
  cases c <;> rfl

/-- An update sets its own field and leaves the other two alone. -/
theorem get_update (c : Call) (f : Field) (w : UInt16) :
    f.get (c.update w) = if c.kind = f then c.value else f.get w := by
  apply UInt16.eq_of_toBitVec_eq
  cases c <;> cases f
  all_goals
    simp only [update, kind, value, Field.get, resolutionUpdate, refreshRateUpdate, reduceCtorEq,
      ↓reduceIte]
    ext i hi
    interval_cases i <;> simp

/-- No update touches a bit outside bits 7 to 12. -/
theorem update_outside (c : Call) (w : UInt16) : c.update w &&& 0xE07F = w &&& 0xE07F := by
  apply UInt16.eq_of_toBitVec_eq
  cases c
  all_goals
    simp only [update, resolutionUpdate, refreshRateUpdate]
    ext i hi
    interval_cases i <;> simp

end Call

section Run

variable (dev : ControlDevice σ)

/-- The call reached its write and the bus reported it. -/
def delivered (slaveAddr : UInt8) (c : Call) (s : σ) : Bool :=
  (opening dev.toI2CBus slaveAddr s).1.ret = 2 ∧
    (writeTransfer dev.toI2CBus slaveAddr (opening dev.toI2CBus slaveAddr s).2 0x800D
      (c.update (receivedWord (opening dev.toI2CBus slaveAddr s).1.received 0))).1.ret = 1

/-- A finite sequence of calls, each with its own slave address. -/
def runCalls : List (UInt8 × Call) → σ → σ
  | [], s => s
  | (slaveAddr, c) :: calls, s => runCalls calls (c.exec (some dev.toI2CBus) slaveAddr s).2

/-- The calls of a run, each with whether its write was delivered. -/
def trace : List (UInt8 × Call) → σ → List (Call × Bool)
  | [], _ => []
  | (slaveAddr, c) :: calls, s =>
    (c, delivered dev slaveAddr c s) :: trace calls (c.exec (some dev.toI2CBus) slaveAddr s).2

/-- The value of the last delivered call of the field's kind. -/
def lastDelivered (f : Field) (tr : List (Call × Bool)) : Option UInt16 :=
  ((tr.filter (fun e => e.1.kind = f ∧ e.2)).getLast?).map (fun e => e.1.value)

theorem lastDelivered_cons (f : Field) (e : Call × Bool) (tr : List (Call × Bool)) :
    lastDelivered f (e :: tr) =
      (lastDelivered f tr).or (if e.1.kind = f ∧ e.2 = true then some e.1.value else none) := by
  unfold lastDelivered
  by_cases he : e.1.kind = f ∧ e.2 = true
  · rw [List.filter_cons_of_pos (by simpa using he), if_pos he, List.getLast?_cons]
    cases (tr.filter (fun e => e.1.kind = f ∧ e.2)).getLast? <;> rfl
  · rw [List.filter_cons_of_neg (by simpa using he), if_neg he, Option.or_none]

theorem opening_control (slaveAddr : UInt8) (s : σ) :
    dev.control (opening dev.toI2CBus slaveAddr s).2 = dev.control s :=
  dev.read_keeps _ _ s rfl rfl rfl

/-- A reported opening read delivers the register's own word. -/
theorem opening_word (slaveAddr : UInt8) (s : σ) (h : (opening dev.toI2CBus slaveAddr s).1.ret = 2) :
    receivedWord (opening dev.toI2CBus slaveAddr s).1.received 0 = dev.control s := by
  have hr : (opening dev.toI2CBus slaveAddr s).1.received =
      [hiByte (dev.control s), loByte (dev.control s)] := dev.read_returns _ _ s rfl rfl rfl rfl h
  rw [hr]
  exact ofBytes_hi_lo _

theorem writeTransfer_control (slaveAddr : UInt8) (data : UInt16) (s : σ) :
    dev.control (writeTransfer dev.toI2CBus slaveAddr s 0x800D data).2 =
      if (writeTransfer dev.toI2CBus slaveAddr s 0x800D data).1.ret = 1 then data
      else dev.control s := by
  split_ifs with h
  · exact (dev.write_reported _ _ _ s rfl rfl h).trans (ofBytes_hi_lo data)
  · exact dev.write_unreported _ _ _ s rfl rfl h

theorem i2cWrite_control (slaveAddr : UInt8) (data : UInt16) (s : σ) :
    dev.control (i2cWrite (some dev.toI2CBus) slaveAddr 0x800D data s).2 =
      if (writeTransfer dev.toI2CBus slaveAddr s 0x800D data).1.ret = 1 then data
      else dev.control s := by
  rw [← writeTransfer_control dev slaveAddr data s]
  change dev.control (mlx90640I2cwrite dev.toI2CBus slaveAddr 0x800D data s).2 = _
  by_cases hw : (writeTransfer dev.toI2CBus slaveAddr s 0x800D data).1.ret = 1
  · rw [mlx90640I2cwrite_reported _ _ _ _ _ hw]
    exact dev.read_keeps _ _ _ rfl rfl rfl
  · rw [mlx90640I2cwrite_failed _ _ _ _ _ hw]

/-- One call: the register holds the updated word if the write was delivered and is
unchanged otherwise. -/
theorem exec_control (slaveAddr : UInt8) (c : Call) (s : σ) :
    dev.control (c.exec (some dev.toI2CBus) slaveAddr s).2 =
      if delivered dev slaveAddr c s then c.update (dev.control s) else dev.control s := by
  rw [Call.exec_eq]
  by_cases hr : (opening dev.toI2CBus slaveAddr s).1.ret = 2
  · rw [updateControl_ok _ _ _ _ hr, i2cWrite_control, opening_control]
    simp only [delivered, hr, true_and, decide_eq_true_eq, opening_word dev slaveAddr s hr]
  · have hd : delivered dev slaveAddr c s = false := by simp [delivered, hr]
    rw [updateControl_failed _ _ _ _ hr, hd]
    exact opening_control dev slaveAddr s

theorem read_field (f : Field) (slaveAddr : UInt8) (s : σ)
    (h : (opening dev.toI2CBus slaveAddr s).1.ret = 2) :
    (f.read (some dev.toI2CBus) slaveAddr s).1 = ((f.get (dev.control s)).toNat : Int) := by
  have hbody : ∀ field : UInt16 → UInt16,
      (controlField (some dev.toI2CBus) slaveAddr field s).1 =
        ((field (dev.control s)).toNat : Int) := by
    intro field
    rw [controlField_ok _ _ _ _ h, opening_word dev slaveAddr s h]
  cases f <;> exact hbody _

theorem runCalls_outside (calls : List (UInt8 × Call)) (s : σ) :
    dev.control (runCalls dev calls s) &&& 0xE07F = dev.control s &&& 0xE07F := by
  induction calls generalizing s with
  | nil => rfl
  | cons call calls ih =>
    obtain ⟨slaveAddr, c⟩ := call
    rw [runCalls, ih, exec_control]
    split_ifs
    · exact c.update_outside _
    · rfl

/-- Along a run each field follows the delivered calls of its own kind. -/
theorem runCalls_field (f : Field) (calls : List (UInt8 × Call)) (s : σ) :
    f.get (dev.control (runCalls dev calls s)) =
      (lastDelivered f (trace dev calls s)).getD (f.get (dev.control s)) := by
  induction calls generalizing s with
  | nil => rfl
  | cons call calls ih =>
    obtain ⟨slaveAddr, c⟩ := call
    rw [runCalls, ih, trace, lastDelivered_cons, exec_control]
    have hstep : f.get (if delivered dev slaveAddr c s then c.update (dev.control s)
          else dev.control s) =
        (if c.kind = f ∧ delivered dev slaveAddr c s = true then some c.value
          else none).getD (f.get (dev.control s)) := by
      by_cases hd : delivered dev slaveAddr c s = true
      · rw [if_pos hd, c.get_update]
        by_cases hk : c.kind = f <;> simp [hk, hd]
      · simp [hd]
    rw [hstep]
    cases lastDelivered f (trace dev calls (c.exec (some dev.toI2CBus) slaveAddr s).2) <;> rfl

/-- After any sequence of setter calls, under any failures: the bits outside 7 to 12 are
the initial ones, each field holds the masked argument of the last delivered call of its
kind, or its initial value, and a reported getter returns that field. -/
theorem control_register_run (calls : List (UInt8 × Call)) (s : σ) :
    dev.control (runCalls dev calls s) &&& 0xE07F = dev.control s &&& 0xE07F ∧
    ∀ f : Field,
      f.get (dev.control (runCalls dev calls s)) =
        (lastDelivered f (trace dev calls s)).getD (f.get (dev.control s)) ∧
      ∀ slaveAddr : UInt8, (opening dev.toI2CBus slaveAddr (runCalls dev calls s)).1.ret = 2 →
        (f.read (some dev.toI2CBus) slaveAddr (runCalls dev calls s)).1 =
          (((lastDelivered f (trace dev calls s)).getD (f.get (dev.control s))).toNat : Int) := by
  refine ⟨runCalls_outside dev calls s, fun f => ⟨runCalls_field dev f calls s, ?_⟩⟩
  intro slaveAddr h
  rw [read_field dev f slaveAddr _ h, runCalls_field]

end Run

/-- A register behind a bus that drops the transfers a script marks. -/
structure RegisterFile where
  control : UInt16
  drops : List Bool
  deriving DecidableEq, Repr

def registerTransfer (msgs : List I2CMsg) (s : RegisterFile) : I2CResult × RegisterFile :=
  let next := { s with drops := s.drops.tail }
  if s.drops.headD false then (⟨-1, []⟩, next)
  else match msgs with
  | [m] =>
    if m.flags = RT_I2C_WR then
      match m.buf with
      | [0x80, 0x0D, hi, lo] => (⟨1, []⟩, { next with control := ofBytes hi lo })
      | _ => (⟨-1, []⟩, next)
    else (⟨-1, []⟩, next)
  | [m, r] =>
    if m.flags = RT_I2C_WR ||| RT_I2C_NO_STOP ∧ m.buf = [0x80, 0x0D] ∧ r.flags = RT_I2C_RD ∧ r.len = 2
    then (⟨2, [hiByte s.control, loByte s.control]⟩, next)
    else (⟨-1, []⟩, next)
  | _ => (⟨-1, []⟩, next)

theorem registerTransfer_full (msgs : List I2CMsg) (s : RegisterFile)
    (h : (registerTransfer msgs s).1.ret = msgs.length) :
    (registerTransfer msgs s).1.received.length = readLength msgs := by
  have hneg : ¬ (-1 : Int) = msgs.length := by omega
  unfold registerTransfer at h ⊢
  split_ifs at h ⊢ with hd
  · exact absurd h hneg
  · split at h
    · rename_i m
      split_ifs at h ⊢ with hm
      · split at h
        · rw [readLength_write hm]
          rfl
        · exact absurd h hneg
      · exact absurd h hneg
    · rename_i m r
      split_ifs at h ⊢ with hm
      · obtain ⟨hw, -, hr, hl⟩ := hm
        rw [readLength_read hw hr, hl]
        rfl
      · exact absurd h hneg
    · exact absurd h hneg

def registerFile : ControlDevice RegisterFile where
  transfer := registerTransfer
  indeterminate := fun _ _ => 0
  full := registerTransfer_full
  control := RegisterFile.control
  write_reported := by
    intro m hi lo s hf hb h
    unfold registerTransfer at h ⊢
    split_ifs at h ⊢ <;> simp_all
  write_unreported := by
    intro m hi lo s hf hb h
    unfold registerTransfer at h ⊢
    split_ifs at h ⊢ <;> simp_all
  read_keeps := by
    intro m r s hf hb hr
    unfold registerTransfer
    split_ifs
    · rfl
    · simp only [hf, hb, hr, true_and]
      split_ifs <;> rfl
  read_returns := by
    intro m r s hf hb hr hl h
    unfold registerTransfer at h ⊢
    split_ifs at h ⊢ <;> simp_all

/-- Refresh rate 4 is delivered, the write of resolution 3 is dropped, chess mode is
delivered; the register then reads 0x1A01 and the refresh rate reads 4. -/
theorem control_register_run_dropped_write :
    (runCalls registerFile
        [(0x33, .setRefreshRate 4), (0x33, .setResolution 3), (0x33, .setChessMode)]
        ⟨0x0801, [false, false, false, false, true]⟩).control = 0x1A01 ∧
    (Field.refreshRate.read (some registerFile.toI2CBus) 0x33
      (runCalls registerFile
        [(0x33, .setRefreshRate 4), (0x33, .setResolution 3), (0x33, .setChessMode)]
        ⟨0x0801, [false, false, false, false, true]⟩)).1 = 4 := by
  refine ⟨by decide, ?_⟩
  rw [((control_register_run registerFile _ _).2 .refreshRate).2 0x33 (by decide)]
  decide

end Mlx90640.Bus.ControlRegister
