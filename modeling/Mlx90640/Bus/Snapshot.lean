import Mlx90640.Bus.FrameData

/-!
# Snapshot safety against a free-running sensor

The sensor is a party of its own: before every word on the bus, and before every write,
any number of measurements may complete, each rewriting the whole RAM, raising bit 3 of
the status word and putting its subpage in bit 0. A schedule fixes what happens at each
bus event, including a failure of the running transfer at that point; all schedules are
allowed. A write of 0x0030 to 0x8000 clears bit 3 and keeps bit 0, the other status bits
are the schedule's. No progress is claimed: only what an accepted frame contains.
-/
namespace Mlx90640.Bus.Snapshot

open Mlx90640.Bus.Transfer Mlx90640.Bus.FrameData

structure Measurement where
  subpage : Fin 2
  image : Fin 832 → UInt16

/-- The sensor with the history of its completed measurements, newest first. The two
laws tie the visible words to that history, so no other combination can be built. -/
structure Sensor where
  ram : Fin 832 → UInt16
  status : UInt16
  control : UInt16
  other : UInt16 → UInt16
  completed : List Measurement
  flagged : dataReady status ≠ 0 → completed ≠ []
  latest : ∀ m, completed.head? = some m →
    ram = m.image ∧ (status &&& 0x0001).toNat = m.subpage.val

namespace Sensor

/-- A sensor before its first measurement: the new-data bit is clear, nothing else is known. -/
def powerOn (ram : Fin 832 → UInt16) (status control : UInt16) (other : UInt16 → UInt16)
    (h : dataReady status = 0) : Sensor where
  ram := ram
  status := status
  control := control
  other := other
  completed := []
  flagged := fun hne => absurd h hne
  latest := by simp

def subpageBit (k : Fin 2) : UInt16 := UInt16.ofNat k.val

theorem dataReady_complete (status : UInt16) (k : Fin 2) :
    dataReady ((status &&& 0xFFF6) ||| 0x0008 ||| subpageBit k) ≠ 0 := by
  have hbit : dataReady ((status &&& 0xFFF6) ||| 0x0008 ||| subpageBit k) = 8 := by
    apply UInt16.eq_of_toBitVec_eq
    obtain rfl | rfl : k = 0 ∨ k = 1 := by omega
    all_goals
      simp only [dataReady, subpageBit]
      ext i hi
      interval_cases i <;> simp
  rw [hbit]
  decide

theorem subpage_complete (status : UInt16) (k : Fin 2) :
    (((status &&& 0xFFF6) ||| 0x0008 ||| subpageBit k) &&& 0x0001).toNat = k.val := by
  have hbit : ((status &&& 0xFFF6) ||| 0x0008 ||| subpageBit k) &&& 0x0001 = subpageBit k := by
    apply UInt16.eq_of_toBitVec_eq
    obtain rfl | rfl : k = 0 ∨ k = 1 := by omega
    all_goals
      simp only [subpageBit]
      ext i hi
      interval_cases i <;> simp
  rw [hbit]
  obtain rfl | rfl : k = 0 ∨ k = 1 := by omega
  all_goals rfl

/-- A measurement completes. -/
def complete (d : Sensor) (m : Measurement) : Sensor where
  ram := m.image
  status := (d.status &&& 0xFFF6) ||| 0x0008 ||| subpageBit m.subpage
  control := d.control
  other := d.other
  completed := m :: d.completed
  flagged := fun _ => List.cons_ne_nil _ _
  latest := by
    intro m' hm
    obtain rfl : m = m' := by simpa using hm
    exact ⟨rfl, subpage_complete _ _⟩

theorem dataReady_clear (bits status : UInt16) :
    dataReady ((bits &&& 0xFFF6) ||| (status &&& 0x0001)) = 0 := by
  apply UInt16.eq_of_toBitVec_eq
  simp only [dataReady]
  ext i hi
  interval_cases i <;> simp

theorem subpage_clear (bits status : UInt16) :
    ((bits &&& 0xFFF6) ||| (status &&& 0x0001)) &&& 0x0001 = status &&& 0x0001 := by
  apply UInt16.eq_of_toBitVec_eq
  ext i hi
  interval_cases i <;> simp

/-- The write of 0x0030 to the status word. -/
def clearStatus (d : Sensor) (bits : UInt16) : Sensor where
  ram := d.ram
  status := (bits &&& 0xFFF6) ||| (d.status &&& 0x0001)
  control := d.control
  other := d.other
  completed := d.completed
  flagged := fun h => absurd (dataReady_clear bits d.status) h
  latest := by
    intro m hm
    rw [subpage_clear]
    exact d.latest m hm

/-- A delivered write. The driver writes nothing but 0x0030 to the status word. -/
def write (d : Sensor) (bits addr data : UInt16) : Sensor :=
  if addr = 0x8000 ∧ data = 0x0030 then d.clearStatus bits
  else if addr = 0x800D then { d with control := data }
  else d

/-- The word the sensor sends for an address. -/
def read (d : Sensor) (addr : UInt16) : UInt16 :=
  if addr = 0x8000 then d.status
  else if addr = 0x800D then d.control
  else if h : 0x0400 ≤ addr.toNat ∧ addr.toNat < 0x0740 then d.ram ⟨addr.toNat - 0x0400, by omega⟩
  else d.other addr

theorem write_completed (d : Sensor) (bits addr data : UInt16) :
    (d.write bits addr data).completed = d.completed := by
  unfold write
  split_ifs <;> rfl

theorem read_ram (d : Sensor) (i : Nat) (hi : i < 832) :
    d.read (0x0400 + UInt16.ofNat i) = d.ram ⟨i, hi⟩ := by
  have hn : (0x0400 + UInt16.ofNat i).toNat = 0x0400 + i := by
    rw [UInt16.toNat_add, UInt16.toNat_ofNat']
    change (1024 + i % 65536) % 65536 = 1024 + i
    omega
  have h1 : 0x0400 + UInt16.ofNat i ≠ 0x8000 := by
    intro he
    rw [he] at hn
    change 32768 = 1024 + i at hn
    omega
  have h2 : 0x0400 + UInt16.ofNat i ≠ 0x800D := by
    intro he
    rw [he] at hn
    change 32781 = 1024 + i at hn
    omega
  rw [read, if_neg h1, if_neg h2, dif_pos (by omega)]
  apply congrArg d.ram
  apply Fin.ext
  rw [Fin.val_mk, hn, Nat.add_sub_cancel_left]

end Sensor

/-- `d'` is `d` after some measurements and no write to the status word: either nothing
completed and nothing changed, or the new-data bit is up. -/
def Later (d d' : Sensor) : Prop :=
  ∃ new, d'.completed = new ++ d.completed ∧ (new = [] → d' = d) ∧
    (new ≠ [] → dataReady d'.status ≠ 0)

theorem Later.refl (d : Sensor) : Later d d := ⟨[], rfl, fun _ => rfl, fun h => absurd rfl h⟩

theorem Later.trans {d d' d'' : Sensor} (h : Later d d') (h' : Later d' d'') : Later d d'' := by
  obtain ⟨new, hc, heq, hflag⟩ := h
  obtain ⟨new', hc', heq', hflag'⟩ := h'
  refine ⟨new' ++ new, by rw [hc', hc, List.append_assoc], ?_, ?_⟩
  · intro hnil
    obtain ⟨h1, h2⟩ := List.append_eq_nil_iff.mp hnil
    rw [heq' h1, heq h2]
  · intro hne
    by_cases h1 : new' = []
    · rw [heq' h1]
      apply hflag
      rintro rfl
      exact hne (by rw [h1, List.append_nil])
    · exact hflag' h1

theorem later_complete (d : Sensor) (m : Measurement) : Later d (d.complete m) :=
  ⟨[m], rfl, fun h => absurd h (List.cons_ne_nil _ _), fun _ => Sensor.dataReady_complete _ _⟩

theorem later_completes (ms : List Measurement) (d : Sensor) :
    Later d (ms.foldl Sensor.complete d) := by
  induction ms generalizing d with
  | nil => exact Later.refl d
  | cons m ms ih => exact (later_complete d m).trans (ih (d.complete m))

/-- A clear new-data bit at the end of an interval without status writes proves that the
sensor did not move in it. -/
theorem Later.eq_of_clear {d d' : Sensor} (h : Later d d') (hc : dataReady d'.status = 0) : d' = d := by
  obtain ⟨new, -, heq, hflag⟩ := h
  by_cases hn : new = []
  · exact heq hn
  · exact absurd hc (hflag hn)

theorem Later.suffix {d d' : Sensor} (h : Later d d') : d.completed <:+ d'.completed := by
  obtain ⟨new, hc, -, -⟩ := h
  exact ⟨new, hc.symm⟩

/-- What one bus event brings: the measurements that complete before it, and whether the
running transfer fails at it, with which code, after which bytes and, for a write, with
or without effect. -/
structure Tick where
  completes : List Measurement
  statusBits : UInt16
  fails : Option Int
  delivered : Bool
  bytes : List UInt8
  stack : Local → UInt16

structure World where
  sensor : Sensor
  sched : Nat → Tick
  now : Nat

namespace World

def tick (w : World) : Tick := w.sched w.now

/-- The measurements before the next event complete. -/
def advance (w : World) : World :=
  { w with sensor := w.tick.completes.foldl Sensor.complete w.sensor, now := w.now + 1 }

def deliver (w : World) (bits addr data : UInt16) : World :=
  { w with sensor := w.sensor.write bits addr data }

/-- A running read: one event before each word. -/
def readWords : Nat → UInt16 → World → Except (Int × List UInt8) (List UInt8) × World
  | 0, _, w => (.ok [], w)
  | n + 1, addr, w =>
    match w.tick.fails with
    | some code => (.error (code, w.tick.bytes), w.advance)
    | none =>
      let word := w.advance.sensor.read addr
      let rest := readWords n (addr + 1) w.advance
      (rest.1.map (fun bytes => hiByte word :: loByte word :: bytes), rest.2)

/-- A failure is never reported with the full message count. -/
def failCode (code : Int) (num : Nat) : Int := if code = num then -1 else code

def writeTo (addr data : UInt16) (w : World) : I2CResult × World :=
  let w' := w.advance.deliver w.tick.statusBits addr data
  match w.tick.fails with
  | none => (⟨1, []⟩, w')
  | some code => (⟨failCode code 1, []⟩, if w.tick.delivered then w' else w.advance)

def readFrom (addr : UInt16) (n : Nat) (w : World) : I2CResult × World :=
  match readWords n addr w with
  | (.ok bytes, w') => (⟨2, bytes⟩, w')
  | (.error (code, bytes), w') => (⟨failCode code 2, bytes⟩, w')

/-- The sensor answers the two message shapes of its datasheet and no other. -/
def transfer (msgs : List I2CMsg) (w : World) : I2CResult × World :=
  match msgs with
  | [m] =>
    match m.buf with
    | [a1, a0, d1, d0] =>
      if m.flags = RT_I2C_WR then w.writeTo (ofBytes a1 a0) (ofBytes d1 d0)
      else (⟨-1, []⟩, w.advance)
    | _ => (⟨-1, []⟩, w.advance)
  | [m, r] =>
    match m.buf with
    | [a1, a0] =>
      if m.flags = RT_I2C_WR ||| RT_I2C_NO_STOP ∧ r.flags = RT_I2C_RD ∧ r.len.toNat % 2 = 0 then
        w.readFrom (ofBytes a1 a0) (r.len.toNat / 2)
      else (⟨-1, []⟩, w.advance)
    | _ => (⟨-1, []⟩, w.advance)
  | _ => (⟨-1, []⟩, w.advance)

theorem failCode_ne (code : Int) (num : Nat) : failCode code num ≠ num := by
  unfold failCode
  split_ifs with h
  · omega
  · exact h

theorem readWords_length (n : Nat) (addr : UInt16) (w : World) (bytes : List UInt8)
    (h : (readWords n addr w).1 = .ok bytes) : bytes.length = 2 * n := by
  induction n generalizing addr w bytes with
  | zero =>
    simp only [readWords, Except.ok.injEq] at h
    rw [← h]
    rfl
  | succ n ih =>
    rw [readWords] at h
    split at h
    · simp at h
    · cases hr : (readWords n (addr + 1) w.advance).1 with
      | error e => simp [hr, Except.map] at h
      | ok rest =>
        simp only [hr, Except.map, Except.ok.injEq] at h
        rw [← h, List.length_cons, List.length_cons, ih _ _ _ hr]
        omega

theorem readFrom_reported {addr : UInt16} {n : Nat} {w : World}
    (h : (w.readFrom addr n).1.ret = 2) :
    (readWords n addr w).1 = .ok (w.readFrom addr n).1.received := by
  unfold readFrom at h ⊢
  split at h
  · rename_i bytes w' hread
    rw [hread]
  · exact absurd h (failCode_ne _ 2)

theorem readFrom_world (addr : UInt16) (n : Nat) (w : World) :
    (w.readFrom addr n).2 = (readWords n addr w).2 := by
  unfold readFrom
  split <;> simp_all

theorem transfer_full (msgs : List I2CMsg) (w : World)
    (h : (transfer msgs w).1.ret = msgs.length) :
    (transfer msgs w).1.received.length = readLength msgs := by
  have hneg : ¬ (-1 : Int) = msgs.length := by omega
  unfold transfer at h ⊢
  split at h
  · rename_i m
    split at h
    · split_ifs at h ⊢ with hm
      · rw [readLength_write hm]
        unfold writeTo at h ⊢
        split at h
        · rfl
        · exact absurd h (failCode_ne _ 1)
      · exact absurd h hneg
    · exact absurd h hneg
  · rename_i m r
    split at h
    · split_ifs at h ⊢ with hm
      · obtain ⟨hw, hr, hl⟩ := hm
        rw [readLength_read hw hr, readWords_length _ _ _ _ (readFrom_reported h)]
        omega
      · exact absurd h hneg
    · exact absurd h hneg
  · exact absurd h hneg

end World

def sensorBus : I2CBus World where
  transfer := World.transfer
  indeterminate := fun w l => w.tick.stack l
  full := World.transfer_full

theorem writeTransfer_sensorBus (slaveAddr : UInt8) (addr data : UInt16) (w : World) :
    writeTransfer sensorBus slaveAddr w addr data = w.writeTo addr data := by
  change w.writeTo (ofBytes (hiByte addr) (loByte addr)) (ofBytes (hiByte data) (loByte data)) = _
  rw [ofBytes_hi_lo, ofBytes_hi_lo]

theorem readTransfer_sensorBus (slaveAddr : UInt8) (addr num : UInt16) (data : Nat → UInt16)
    (w : World) (hn : num.toNat < 32768) :
    readTransfer sensorBus slaveAddr addr num data w = w.readFrom addr num.toNat := by
  have hlen : (num * 2).toNat % 2 = 0 := by
    rw [two_mul_toNat hn]
    omega
  have hhalf : (num * 2).toNat / 2 = num.toNat := by
    rw [two_mul_toNat hn]
    omega
  change (if RT_I2C_WR ||| RT_I2C_NO_STOP = RT_I2C_WR ||| RT_I2C_NO_STOP ∧ RT_I2C_RD = RT_I2C_RD ∧
      (num * 2).toNat % 2 = 0 then
    w.readFrom (ofBytes (hiByte addr) (loByte addr)) ((num * 2).toNat / 2) else _) = _
  rw [if_pos ⟨rfl, rfl, hlen⟩, ofBytes_hi_lo, hhalf]

namespace World

theorem later_advance (w : World) : Later w.sensor w.advance.sensor :=
  later_completes w.tick.completes w.sensor

theorem later_readWords (n : Nat) (addr : UInt16) (w : World) :
    Later w.sensor (readWords n addr w).2.sensor := by
  induction n generalizing addr w with
  | zero => exact Later.refl w.sensor
  | succ n ih =>
    rw [readWords]
    split
    · exact w.later_advance
    · exact w.later_advance.trans (ih (addr + 1) w.advance)

/-- If the new-data bit is clear when a read ends, every word of it comes from the sensor
as it then stands. The induction runs over the words; a completion between two of them
would have raised the bit. -/
theorem readWords_clear (n : Nat) (addr : UInt16) (w : World) (bytes : List UInt8)
    (h : (readWords n addr w).1 = .ok bytes)
    (hc : dataReady (readWords n addr w).2.sensor.status = 0) (k : Nat) (hk : k < n) :
    receivedWord bytes k = (readWords n addr w).2.sensor.read (addr + UInt16.ofNat k) := by
  induction n generalizing addr w bytes k with
  | zero => omega
  | succ n ih =>
    rw [readWords] at h hc ⊢
    split at h
    · simp at h
    · rename_i hf
      simp only [hf] at hc ⊢
      cases hr : (readWords n (addr + 1) w.advance).1 with
      | error e => simp [hr, Except.map] at h
      | ok rest =>
        simp only [hr, Except.map, Except.ok.injEq] at h
        subst h
        cases k with
        | zero =>
          have hsame := (later_readWords n (addr + 1) w.advance).eq_of_clear hc
          rw [hsame]
          change ofBytes (hiByte _) (loByte _) = _
          rw [ofBytes_hi_lo]
          simp
        | succ k =>
          have hrest := ih (addr + 1) w.advance rest hr hc k (by omega)
          change receivedWord rest k = _
          rw [hrest]
          congr 1
          rw [UInt16.add_assoc, UInt16.ofNat_add, UInt16.add_comm 1]
          rfl

theorem readWords_one (addr : UInt16) (w : World) (bytes : List UInt8)
    (h : (readWords 1 addr w).1 = .ok bytes) :
    receivedWord bytes 0 = (readWords 1 addr w).2.sensor.read addr := by
  rw [readWords] at h ⊢
  split at h
  · simp at h
  · rename_i hf
    simp only [readWords, Except.map, Except.ok.injEq] at h
    subst h
    simp only [readWords]
    exact ofBytes_hi_lo _

end World

section Host

variable (slaveAddr : UInt8) (w : World)

theorem read_state (addr num : UInt16) (data : Nat → UInt16) (hn : num.toNat < 32768) :
    (i2cRead (some sensorBus) slaveAddr addr num data w).2 =
      (World.readWords num.toNat addr w).2 := by
  rw [i2cRead_some, mlx90640I2cread_state, readTransfer_sensorBus _ _ _ _ _ hn,
    World.readFrom_world]

theorem read_later (addr num : UInt16) (data : Nat → UInt16) (hn : num.toNat < 32768) :
    Later w.sensor (i2cRead (some sensorBus) slaveAddr addr num data w).2.sensor := by
  rw [read_state _ _ _ _ _ hn]
  exact World.later_readWords _ _ _

theorem read_reported (addr num : UInt16) (data : Nat → UInt16) (hn : num.toNat < 32768)
    (h : (i2cRead (some sensorBus) slaveAddr addr num data w).1.1 = 0) :
    ∃ bytes, (World.readWords num.toNat addr w).1 = .ok bytes ∧
      ∀ k < num.toNat,
        (i2cRead (some sensorBus) slaveAddr addr num data w).1.2 k = receivedWord bytes k := by
  rw [i2cRead_some] at h ⊢
  have hret : (readTransfer sensorBus slaveAddr addr num data w).1.ret = 2 := by
    by_contra hne
    rw [mlx90640I2cread_code, if_neg hne] at h
    omega
  rw [mlx90640I2cread_ok _ _ _ _ _ _ hn hret]
  rw [readTransfer_sensorBus _ _ _ _ _ hn] at hret ⊢
  exact ⟨_, World.readFrom_reported hret, fun k hk => if_pos hk⟩

theorem readWord_current (addr v : UInt16)
    (h : (readWord (i2cRead (some sensorBus) slaveAddr addr 1) v w).1.1 = 0) :
    (readWord (i2cRead (some sensorBus) slaveAddr addr 1) v w).1.2 =
      (readWord (i2cRead (some sensorBus) slaveAddr addr 1) v w).2.sensor.read addr := by
  obtain ⟨bytes, hb, hw⟩ := read_reported slaveAddr w addr 1 (fun _ => v) (by decide) h
  have hstate := read_state slaveAddr w addr 1 (fun _ => v) (by decide)
  change (i2cRead (some sensorBus) slaveAddr addr 1 (fun _ => v) w).1.2 0 =
    (i2cRead (some sensorBus) slaveAddr addr 1 (fun _ => v) w).2.sensor.read addr
  rw [hw 0 (by decide), hstate]
  exact World.readWords_one addr w bytes hb

theorem readWord_later (addr v : UInt16) :
    Later w.sensor (readWord (i2cRead (some sensorBus) slaveAddr addr 1) v w).2.sensor :=
  read_later slaveAddr w addr 1 (fun _ => v) (by decide)

/-- A frame read that ends with the new-data bit clear copied the RAM as it stands. -/
theorem read_frame (data : Nat → UInt16)
    (h : (i2cRead (some sensorBus) slaveAddr 0x0400 832 data w).1.1 = 0)
    (hc : dataReady (i2cRead (some sensorBus) slaveAddr 0x0400 832 data w).2.sensor.status = 0)
    (i : Nat) (hi : i < 832) :
    (i2cRead (some sensorBus) slaveAddr 0x0400 832 data w).1.2 i =
      (i2cRead (some sensorBus) slaveAddr 0x0400 832 data w).2.sensor.ram ⟨i, hi⟩ := by
  obtain ⟨bytes, hb, hw⟩ := read_reported slaveAddr w 0x0400 832 data (by decide) h
  rw [read_state _ _ _ _ _ (by decide)] at hc ⊢
  rw [hw i hi, World.readWords_clear _ _ _ _ hb hc i hi, Sensor.read_ram]

theorem write_completed (addr data : UInt16) :
    w.sensor.completed <:+ (i2cWrite (some sensorBus) slaveAddr addr data w).2.sensor.completed := by
  have hto : w.sensor.completed <:+ (w.writeTo addr data).2.sensor.completed := by
    have hadv : w.sensor.completed <:+ w.advance.sensor.completed := w.later_advance.suffix
    have hdel : w.sensor.completed <:+
        (w.advance.deliver w.tick.statusBits addr data).sensor.completed := by
      rw [World.deliver, Sensor.write_completed]
      exact hadv
    unfold World.writeTo
    split
    · exact hdel
    · split_ifs
      · exact hdel
      · exact hadv
  rw [← writeTransfer_sensorBus slaveAddr] at hto
  change w.sensor.completed <:+ (mlx90640I2cwrite sensorBus slaveAddr addr data w).2.sensor.completed
  by_cases hr : (writeTransfer sensorBus slaveAddr w addr data).1.ret = 1
  · rw [mlx90640I2cwrite_reported _ _ _ _ _ hr]
    refine hto.trans ?_
    rw [readBack, readTransfer_sensorBus _ _ _ _ _ (by decide), World.readFrom_world]
    exact (World.later_readWords _ _ _).suffix
  · rw [mlx90640I2cwrite_failed _ _ _ _ _ hr]
    exact hto

/-- The locals hold one completed measurement, under its own subpage. -/
def IsSnapshot (l : Locals) (w : World) : Prop :=
  ∃ m ∈ w.sensor.completed, (l.statusRegister &&& 0x0001).toNat = m.subpage.val ∧
    ∀ i (hi : i < 832), l.frameData i = m.image ⟨i, hi⟩

theorem ne_nil_of_suffix {α : Type*} {l l' : List α} (h : l <:+ l') (hl : l ≠ []) : l' ≠ [] := by
  rintro rfl
  exact hl (List.suffix_nil.mp h)

/-- One pass. A clear recheck proves that the sensor stood still from the end of the frame
read on, and the frame read itself then saw no completion either. -/
theorem frameAttempt_snapshot (l l' : Locals) (w' : World) (hw : w.sensor.completed ≠ [])
    (h : frameAttempt (some sensorBus) slaveAddr l w = ((0, l'), w')) :
    w'.sensor.completed ≠ [] ∧ l'.cnt = l.cnt + 1 ∧
      (dataReady l'.statusRegister = 0 → IsSnapshot l' w') := by
  rcases frameAttempt_cases (some sensorBus) slaveAddr l w with ha | ⟨v, f, r, hv, hf, hf0, hr, hr0, ha⟩
  · rw [h] at ha
    change (0 : Int) = -1 at ha
    omega
  · rw [h] at ha
    simp only [Prod.mk.injEq, true_and] at ha
    obtain ⟨rfl, rfl⟩ := ha
    have hlater : Later f.2.sensor r.2.sensor := by
      rw [← hr]
      exact readWord_later _ _ _ _
    have hsuffix : w.sensor.completed <:+ r.2.sensor.completed := by
      have h1 : w.sensor.completed <:+ v.2.sensor.completed := by
        rw [← hv]
        exact write_completed _ _ _ _
      have h2 : v.2.sensor.completed <:+ f.2.sensor.completed := by
        rw [← hf]
        exact (read_later _ _ _ _ _ (by decide)).suffix
      exact h1.trans (h2.trans hlater.suffix)
    have hne := ne_nil_of_suffix hsuffix hw
    refine ⟨hne, rfl, fun hc => ?_⟩
    have hstatus : r.1.2 = r.2.sensor.status := by
      rw [← hr] at hr0 ⊢
      exact readWord_current _ _ _ _ hr0
    have hstill : r.2.sensor = f.2.sensor := by
      apply hlater.eq_of_clear
      rw [← hstatus]
      exact hc
    obtain ⟨m, ms, hms⟩ := List.exists_cons_of_ne_nil hne
    obtain ⟨hram, hsub⟩ := r.2.sensor.latest m (by rw [hms]; rfl)
    refine ⟨m, by rw [hms]; exact List.mem_cons_self, ?_, ?_⟩
    · change (r.1.2 &&& 0x0001).toNat = _
      rw [hstatus, hsub]
    · intro i hi
      have hclear : dataReady f.2.sensor.status = 0 := by
        rw [← hstill, ← hstatus]
        exact hc
      change f.1.2 i = _
      rw [← hram, hstill]
      rw [← hf] at hf0 hclear ⊢
      exact read_frame _ _ _ hf0 hclear i hi

/-- The retry loop ends with a snapshot or with its counter used up. -/
theorem retryFrame_snapshot (n : Nat) (l l' : Locals) (w' : World)
    (hw : w.sensor.completed ≠ []) (hn : l.cnt.toNat + n < 256)
    (h : retryFrame (some sensorBus) slaveAddr n l w = ((0, l'), w')) :
    w'.sensor.completed ≠ [] ∧ (IsSnapshot l' w' ∨ l'.cnt.toNat = l.cnt.toNat + n) := by
  induction n generalizing l w with
  | zero =>
    simp only [retryFrame, Prod.mk.injEq, true_and] at h
    obtain ⟨rfl, rfl⟩ := h
    exact ⟨hw, Or.inr rfl⟩
  | succ n ih =>
    rcases ha : frameAttempt (some sensorBus) slaveAddr l w with ⟨⟨e, l₁⟩, w₁⟩
    simp only [retryFrame, ha] at h
    split_ifs at h with he hd
    · simp only [Prod.mk.injEq] at h
      exact absurd h.1.1 he
    · obtain rfl : e = 0 := by simpa using he
      obtain ⟨hne, hcnt, -⟩ := frameAttempt_snapshot slaveAddr w l l₁ w₁ hw ha
      have hc1 : l₁.cnt.toNat = l.cnt.toNat + 1 := by
        rw [hcnt, UInt8.toNat_add]
        change (l.cnt.toNat + 1) % 256 = _
        omega
      obtain ⟨hne', hres⟩ := ih w₁ l₁ hne (by omega) h
      refine ⟨hne', hres.imp id fun hcount => ?_⟩
      omega
    · simp only [Prod.mk.injEq] at h
      obtain ⟨⟨rfl, rfl⟩, rfl⟩ := h
      obtain ⟨hne, -, hsnap⟩ := frameAttempt_snapshot slaveAddr w l l₁ w₁ hw ha
      exact ⟨hne, Or.inl (hsnap (by simpa using hd))⟩

/-- A poll that found data has a completed measurement behind it. -/
theorem pollStatus_completed (fuel : Nat) (v v' : UInt16) (w' : World)
    (h : pollStatus (some sensorBus) slaveAddr fuel v w = some ((0, v'), w')) :
    w'.sensor.completed ≠ [] := by
  induction fuel generalizing v w with
  | zero => simp [pollStatus] at h
  | succ fuel ih =>
    rw [pollStatus] at h
    split_ifs at h with he hd
    · simp only [Option.some.injEq] at h
      rw [h] at he
      exact absurd rfl he
    · exact ih _ _ h
    · simp only [Option.some.injEq] at h
      have he0 := not_not.mp he
      have hcur := readWord_current slaveAddr w 0x8000 v he0
      rw [h] at hd hcur
      apply w'.sensor.flagged
      change v' = w'.sensor.status at hcur
      rw [← hcur]
      exact hd

/-- An accepted frame is a completed measurement, with the control word as it stands at the end
and the measurement's subpage behind it. -/
theorem getFrameData_measured {fuel : Nat} {frameData fd : Nat → UInt16} {w' : World} {r : Int}
    (h : getFrameData (some sensorBus) fuel slaveAddr frameData w = some ((r, fd), w'))
    (hr : 0 ≤ r) :
    ∃ m ∈ w'.sensor.completed, r = (m.subpage.val : Int) ∧
      (∀ i (hi : i < 832), fd i = m.image ⟨i, hi⟩) ∧ fd 832 = w'.sensor.control ∧
      (fd 833).toNat = m.subpage.val := by
  obtain ⟨statusRegister, w₁, l, w₂, c, hpoll, hretry, hcnt, hc, hread, hr', hfd, hw'⟩ :=
    getFrameData_nonneg (some sensorBus) slaveAddr h hr
  have hne := pollStatus_completed slaveAddr w fuel _ _ _ hpoll
  obtain ⟨-, hres⟩ := retryFrame_snapshot slaveAddr w₁ 5 ⟨frameData, statusRegister, 0⟩ l w₂ hne
    (show 0 + 5 < 256 by omega) hretry
  have hsnap : IsSnapshot l w₂ := by
    rcases hres with hs | hcount
    · exact hs
    · change l.cnt.toNat = 0 + 5 at hcount
      exact absurd (UInt8.lt_iff_toNat_lt.mpr (by rw [hcount]; decide)) hcnt
  obtain ⟨m, hm, hsub, himage⟩ := hsnap
  refine ⟨m, ?_, by rw [hr', hsub], ?_, ?_, ?_⟩
  · rw [hw', ← hc]
    exact (readWord_later slaveAddr w₂ 0x800D _).suffix.subset hm
  · intro i hi
    rw [hfd, Function.update_of_ne (by omega), Function.update_of_ne (by omega)]
    exact himage i hi
  · rw [hfd, Function.update_of_ne (by omega), Function.update_self, hw']
    subst hc
    exact readWord_current slaveAddr w₂ 0x800D _ hread
  · rw [hfd, Function.update_self, hsub]

end Host

/-- Whatever the sensor does between any two words of the transfers, and whichever
transfers fail, a nonnegative result is the subpage of one completed measurement and the
frame buffer holds that measurement's RAM image word for word. -/
theorem getFrameData_snapshot (fuel : Nat) (slaveAddr : UInt8) (frameData fd : Nat → UInt16)
    (w w' : World) (r : Int)
    (h : getFrameData (some sensorBus) fuel slaveAddr frameData w = some ((r, fd), w'))
    (hr : 0 ≤ r) :
    (r = 0 ∨ r = 1) ∧ r = ((fd 833).toNat : Int) ∧
    ∃ m ∈ w'.sensor.completed, r = (m.subpage.val : Int) ∧
      ∀ i (hi : i < 832), fd i = m.image ⟨i, hi⟩ := by
  obtain ⟨m, hm, hrm, himage, -, hsub⟩ := getFrameData_measured slaveAddr w h hr
  have hlt := m.subpage.isLt
  refine ⟨by omega, ?_, m, hm, hrm, himage⟩
  rw [hrm, hsub]

/-- A sensor that completes one measurement of subpage 1, again before word 400 of the
first frame read, and is quiet afterwards. -/
def interruptedWorld : World where
  sensor := Sensor.powerOn (fun _ => 0) 0 0x1901 (fun _ => 0) rfl
  sched := fun n =>
    { completes :=
        if n = 0 then [⟨1, fun _ => 7⟩]
        else if n = 403 then [⟨0, fun i => UInt16.ofNat i.val⟩]
        else []
      statusBits := 0x0010
      fails := none
      delivered := true
      bytes := []
      stack := fun _ => 0 }
  now := 0

theorem getFrameData_snapshot_interrupted :
    ∃ fd w', getFrameData (some sensorBus) 1 0x33 (fun _ => 0) interruptedWorld = some ((0, fd), w') ∧
      ∃ m ∈ w'.sensor.completed, (0 : Int) = (m.subpage.val : Int) ∧
        ∀ i (hi : i < 832), fd i = m.image ⟨i, hi⟩ := by
  have hcode : (getFrameData (some sensorBus) 1 0x33 (fun _ => 0) interruptedWorld).map
      (fun res => res.1.1) = some 0 := by decide +kernel
  obtain ⟨⟨⟨r, fd⟩, w'⟩, hres, hr⟩ := Option.map_eq_some_iff.mp hcode
  change r = 0 at hr
  subst hr
  exact ⟨fd, w', hres, (getFrameData_snapshot _ _ _ _ _ _ _ hres (le_refl 0)).2.2⟩

end Mlx90640.Bus.Snapshot
