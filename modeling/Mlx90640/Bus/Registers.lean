import Mlx90640.Bus.Driver
import Mlx90640.Bus.Chunks

/-!
# A device of words on the wire

A follower that holds 16-bit words behind two-byte addresses, and talks in the way the
sensor's driver expects: a write sets the pointer and stores the words after it, a read sends
the words from the pointer on, most significant byte first. Over the interrupt-driven master
the driver's reads and writes reach exactly the words they name.
-/
namespace Mlx90640.Bus.Registers

open Mlx90640.Lib.OpenDrain
open Mlx90640.Bus.Transfer
open Mlx90640.Bus.Chunks
open Mlx90640.Bus.Controller
open Mlx90640.Bus.Driver

/-- The words of a device, and what a store does to them. -/
structure Words (ρ : Type) where
  peek : ρ → UInt16 → UInt16
  poke : UInt16 → UInt16 → ρ → ρ

/-- Where the device is in a transaction. -/
inductive Mode where
  | idle
  /-- After a start condition, before the address. -/
  | called
  /-- Written to, with no byte of the pointer so far. -/
  | pointing
  | pointed (hi : UInt8)
  | storing
  | stored (hi : UInt8)
  | talking (low : Bool)
  deriving DecidableEq, Repr

structure Device (ρ : Type) where
  regs : ρ
  pointer : UInt16
  mode : Mode

variable {ρ : Type}

/-- The device with an address on the bus. -/
def device (w : Words ρ) (address : UInt8) : Follower (Device ρ) where
  start d := { d with mode := .called }
  stop d := { d with mode := .idle }
  drives d :=
    match d.mode with
    | .talking false => hiByte (w.peek d.regs d.pointer)
    | .talking true => loByte (w.peek d.regs d.pointer)
    | _ => 0xFF
  pulls d byte :=
    match d.mode with
    | .idle => false
    | .called => byte >>> 1 == address
    | .talking _ => false
    | _ => true
  next d byte low :=
    match d.mode with
    | .idle => d
    | .called =>
      if byte >>> 1 = address then
        { d with mode := if byte &&& 1 = 1 then .talking false else .pointing }
      else { d with mode := .idle }
    | .pointing => { d with mode := .pointed byte }
    | .pointed hi => { d with pointer := ofBytes hi byte, mode := .storing }
    | .storing => { d with mode := .stored byte }
    | .stored hi =>
      { regs := w.poke d.pointer (ofBytes hi byte) d.regs, pointer := d.pointer + 1, mode := .storing }
    | .talking false => { d with mode := if low then .talking true else .idle }
    | .talking true =>
      { d with pointer := d.pointer + 1, mode := if low then .talking false else .idle }

section Device

variable (w : Words ρ) (address : UInt8) (d : Device ρ)

theorem clock_written (b : UInt8) (hdrives : (device w address).drives d = 0xFF)
    (hpulls : (device w address).pulls d b = true) :
    (device w address).clock b false d = (⟨b, true⟩, (device w address).next d b true) := by
  have hbyte : b &&& 0xFF = b := by
    rw [show (0xFF : UInt8) = -1 from rfl, UInt8.and_neg_one]
  simp only [Follower.clock, hdrives, hbyte, hpulls, Bool.or_true]

theorem clock_called {b : UInt8} (hmode : d.mode = .called) (hb : b >>> 1 = address) :
    (device w address).clock b false d =
      (⟨b, true⟩, { d with mode := if b &&& 1 = 1 then .talking false else .pointing }) := by
  rw [clock_written w address d b (by simp [device, hmode]) (by simp [device, hmode, hb])]
  simp only [device, hmode, hb, if_true]

theorem send_pointer {b : UInt8} (addr : UInt16) (rest : List UInt8) (hmode : d.mode = .called)
    (hb : b >>> 1 = address) (hwrite : ¬ b &&& 1 = 1) :
    (device w address).send (b :: hiByte addr :: loByte addr :: rest) d =
      (device w address).send rest { d with pointer := addr, mode := .storing } := by
  rw [Follower.send, clock_called w address d hmode hb]
  simp only [if_neg hwrite, if_true]
  rw [Follower.send, clock_written w address _ _ rfl rfl]
  simp only [if_true]
  rw [Follower.send, clock_written w address _ _ rfl rfl]
  simp only [device, if_true, ofBytes_hi_lo]

theorem send_word (data : UInt16) (hmode : d.mode = .storing) :
    (device w address).send [hiByte data, loByte data] d =
      (true, { regs := w.poke d.pointer data d.regs, pointer := d.pointer + 1, mode := .storing }) := by
  rw [Follower.send, clock_written w address d _ (by simp [device, hmode]) (by simp [device, hmode])]
  have hnext : (device w address).next d (hiByte data) true = { d with mode := .stored (hiByte data) } := by
    simp only [device, hmode]
  simp only [hnext, if_true]
  rw [Follower.send, clock_written w address _ _ rfl rfl]
  simp only [device, if_true, ofBytes_hi_lo, Follower.send]

theorem clock_talking {low : Bool} (pull : Bool) (hmode : d.mode = .talking low) :
    (device w address).clock 0xFF pull d =
      (⟨if low then loByte (w.peek d.regs d.pointer) else hiByte (w.peek d.regs d.pointer), pull⟩,
        { d with
          pointer := if low then d.pointer + 1 else d.pointer
          mode := if pull then .talking (!low) else .idle }) := by
  have hbyte : ∀ b : UInt8, 0xFF &&& b = b := fun b => by
    rw [show (0xFF : UInt8) = -1 from rfl, UInt8.neg_one_and]
  cases low with
  | true => simp [Follower.clock, device, hmode, hbyte]
  | false => simp [Follower.clock, device, hmode, hbyte]

theorem wordBytes_cons (mem : UInt16 → UInt16) (addr : UInt16) (n : Nat) :
    wordBytes mem addr (n + 1) =
      hiByte (mem addr) :: loByte (mem addr) :: wordBytes mem (addr + 1) n := by
  have hnext : ∀ k : Nat, addr + 1 + UInt16.ofNat k = addr + UInt16.ofNat (k + 1) := fun k => by
    rw [UInt16.ofNat_add, UInt16.add_assoc, UInt16.add_comm 1]
    rfl
  simp only [wordBytes, List.range_succ_eq_map, List.flatMap_cons, List.flatMap_map, hnext]
  simp

/-- A read of whole words: the device sends them from its pointer on, leaves the last
acknowledgement to the master, and changes nothing in its words. -/
theorem receive_words (n : Nat) (hmode : d.mode = .talking false) :
    ((device w address).receive (2 * n) d).1 = wordBytes (w.peek d.regs) d.pointer n ∧
      ((device w address).receive (2 * n) d).2.regs = d.regs ∧
      (device w address).releases (2 * n) d = true := by
  induction n generalizing d with
  | zero => exact ⟨rfl, rfl, rfl⟩
  | succ n ih =>
    have hhigh := clock_talking w address d true hmode
    have hlow := fun pull => clock_talking w address { d with mode := .talking true } pull rfl
    simp only [Bool.false_eq_true, if_false, Bool.not_false, if_true] at hhigh
    simp only [if_true, Bool.not_true] at hlow
    rw [wordBytes_cons, show 2 * (n + 1) = 2 * n + 1 + 1 by omega]
    -- the master acknowledges the low byte of every word but the last
    cases n with
    | zero =>
      refine ⟨?_, ?_, ?_⟩
      · simp [Follower.receive, hhigh, hlow, wordBytes]
      · simp [Follower.receive, hhigh, hlow]
      · show (device w address).releases 2 d = true
        rw [Follower.releases, hhigh]
        rfl
    | succ n =>
      obtain ⟨hbytes, hregs, hrel⟩ := ih { d with pointer := d.pointer + 1, mode := .talking false } rfl
      have hsome : decide (2 * (n + 1) ≠ 0) = true := by simp
      refine ⟨?_, ?_, ?_⟩
      · rw [Follower.receive, show decide (2 * (n + 1) + 1 ≠ 0) = true by simp, hhigh,
          Follower.receive, hsome, hlow true]
        simp only [if_true, hbytes]
      · rw [Follower.receive, show decide (2 * (n + 1) + 1 ≠ 0) = true by simp, hhigh,
          Follower.receive, hsome, hlow true]
        simp only [if_true, hregs]
      · rw [show 2 * (n + 1) + 1 + 1 = 2 * (n + 1) + 2 from rfl, Follower.releases, hhigh,
          show 2 * (n + 1) + 1 = (2 * n + 1) + 2 by omega, Follower.releases, hlow true]
        exact hrel

end Device

section Messages

variable (w : Words ρ) (slaveAddr : UInt8) (indeterminate : Line (Device ρ) → Local → UInt16)
  (line : Line (Device ρ))

theorem addressOf_shift {a : UInt8} (ha : a < 128) (read : Bool) :
    addressOf a.toUInt16.toUInt32 read >>> 1 = a ∧
      (addressOf a.toUInt16.toUInt32 read &&& 1 = 1 ↔ read = true) := by
  have hall : ∀ n : Fin 128, ∀ read : Bool,
      addressOf (UInt8.ofNat n).toUInt16.toUInt32 read >>> 1 = UInt8.ofNat n ∧
        (addressOf (UInt8.ofNat n).toUInt16.toUInt32 read &&& 1 = 1 ↔ read = true) := by
    decide +kernel
  have hlt : a.toNat < 128 := UInt8.lt_iff_toNat_lt.mp ha
  have h := hall ⟨a.toNat, hlt⟩ read
  rwa [UInt8.ofNat_toNat] at h

theorem stored_read (msg : I2CMsg) (bytes : List UInt8) (h : bytes.length = msg.len.toNat) :
    Driver.stored msg (some bytes) = bytes := by
  rw [Driver.stored, ← h, List.range_eq_range']
  exact map_overlay bytes (bufferOf msg) 0

/-- The first message of a read. -/
def pointerMsg (slaveAddr : UInt8) (addr : UInt16) : I2CMsg :=
  ⟨slaveAddr.toUInt16, RT_I2C_WR ||| RT_I2C_NO_STOP, 2, [hiByte addr, loByte addr]⟩

/-- The second message of a read. -/
def wordsMsg (slaveAddr : UInt8) (num : UInt16) (bp : Nat → UInt8) : I2CMsg :=
  ⟨slaveAddr.toUInt16, RT_I2C_RD, num * 2, (List.range (num * 2).toNat).map bp⟩

/-- The message of a write. -/
def storeMsg (slaveAddr : UInt8) (writeAddr data : UInt16) : I2CMsg :=
  ⟨slaveAddr.toUInt16, RT_I2C_WR, 4, [hiByte writeAddr, loByte writeAddr, hiByte data, loByte data]⟩

theorem isRead_msgs (addr num data : UInt16) (bp : Nat → UInt8) :
    isRead (pointerMsg slaveAddr addr) = false ∧ isRead (wordsMsg slaveAddr num bp) = true ∧
      isRead (storeMsg slaveAddr addr data) = false := by
  have hpointer : ((RT_I2C_WR ||| RT_I2C_NO_STOP) &&& RT_I2C_RD != 0) = false := by decide
  have hwords : (RT_I2C_RD &&& RT_I2C_RD != 0) = true := by decide
  have hstore : (RT_I2C_WR &&& RT_I2C_RD != 0) = false := by decide
  exact ⟨hpointer, hwords, hstore⟩

theorem keepsBus_msgs (addr num data : UInt16) (bp : Nat → UInt8) :
    keepsBus (pointerMsg slaveAddr addr) = true ∧ keepsBus (wordsMsg slaveAddr num bp) = false ∧
      keepsBus (storeMsg slaveAddr addr data) = false := by
  have hpointer : ((RT_I2C_WR ||| RT_I2C_NO_STOP) &&& RT_I2C_NO_STOP != 0) = true := by decide
  have hwords : (RT_I2C_RD &&& RT_I2C_NO_STOP != 0) = false := by decide
  have hstore : (RT_I2C_WR &&& RT_I2C_NO_STOP != 0) = false := by decide
  exact ⟨hpointer, hwords, hstore⟩

theorem opened_free (hfree : line.held = false) :
    line.opened (device w slaveAddr) = { line.follower with mode := .called } := by
  rw [Line.opened, hfree]
  rfl

/-- The first message of a read sets the pointer and keeps the bus. -/
theorem run_pointerMsg (hslave : slaveAddr < 128) (hfree : line.held = false) (addr : UInt16) :
    (transaction (pointerMsg slaveAddr addr)).run (device w slaveAddr) line =
      (some [], ⟨true, { line.follower with pointer := addr, mode := .called }⟩) := by
  have hnot := (isRead_msgs slaveAddr addr 0 0 fun _ => 0).1
  have hkeeps := (keepsBus_msgs slaveAddr addr 0 0 fun _ => 0).1
  obtain ⟨hshift, hdir⟩ := addressOf_shift hslave false
  have hwrite : ¬ addressOf slaveAddr.toUInt16.toUInt32 false &&& 1 = 1 := fun h => by
    cases hdir.mp h
  have hpayload : (transaction (pointerMsg slaveAddr addr)).payload =
      .write [hiByte addr, loByte addr] := payload_write hnot rfl
  have haddress := addressByte_transaction (pointerMsg slaveAddr addr)
  rw [hnot] at haddress
  have hsend := send_pointer w slaveAddr { line.follower with mode := .called } addr [] rfl hshift hwrite
  rw [Transaction.run_write _ _ _ hpayload, haddress, opened_free w slaveAddr line hfree]
  rw [show (pointerMsg slaveAddr addr).addr.toUInt32 = slaveAddr.toUInt16.toUInt32 from rfl, hsend]
  rw [show (transaction (pointerMsg slaveAddr addr)).hold = true from hkeeps]
  rfl

/-- The second message reads the words from there on. -/
theorem run_wordsMsg (hslave : slaveAddr < 128) (num : UInt16) (hnum : num.toNat ≤ 32767)
    (bp : Nat → UInt8) (d : Device ρ) (hcalled : d.mode = .called) :
    (∃ d', (transaction (wordsMsg slaveAddr num bp)).run (device w slaveAddr) ⟨true, d⟩ =
        (some (wordBytes (w.peek d.regs) d.pointer num.toNat), ⟨false, d'⟩) ∧ d'.regs = d.regs) ∧
      (transaction (wordsMsg slaveAddr num bp)).releases (device w slaveAddr) ⟨true, d⟩ = true := by
  have hyes := (isRead_msgs slaveAddr 0 num 0 bp).2.1
  have hkeeps := (keepsBus_msgs slaveAddr 0 num 0 bp).2.1
  obtain ⟨hshift, hdir⟩ := addressOf_shift hslave true
  have hread : addressOf slaveAddr.toUInt16.toUInt32 true &&& 1 = 1 := hdir.mpr rfl
  have hlen : (wordsMsg slaveAddr num bp).len.toNat = 2 * num.toNat := two_mul_toNat (by omega)
  have hpayload : (transaction (wordsMsg slaveAddr num bp)).payload = .read (2 * num.toNat) := by
    rw [payload_read hyes, hlen]
  have haddress := addressByte_transaction (wordsMsg slaveAddr num bp)
  rw [hyes] at haddress
  have hclock := clock_called w slaveAddr d hcalled hshift
  rw [if_pos hread] at hclock
  have haddressed : (device w slaveAddr).clock (transaction (wordsMsg slaveAddr num bp)).addressByte
      false (Line.opened (device w slaveAddr) ⟨true, d⟩) =
      (⟨addressOf slaveAddr.toUInt16.toUInt32 true, true⟩, { d with mode := .talking false }) := by
    rw [haddress]
    exact hclock
  obtain ⟨hbytes, hregs, hrel⟩ :=
    receive_words w slaveAddr { d with mode := .talking false } num.toNat rfl
  constructor
  · rw [Transaction.run_read _ _ _ hpayload (by rw [haddressed]), haddressed, hbytes,
      show (transaction (wordsMsg slaveAddr num bp)).hold = false from hkeeps]
    exact ⟨_, rfl, hregs⟩
  · rw [Transaction.releases, hpayload]
    simp only [haddressed, hrel, Bool.or_true]

/-- The message of a write stores the word. -/
theorem run_storeMsg (hslave : slaveAddr < 128) (hfree : line.held = false)
    (writeAddr data : UInt16) :
    (transaction (storeMsg slaveAddr writeAddr data)).run (device w slaveAddr) line =
      (some [], ⟨false, ⟨w.poke writeAddr data line.follower.regs, writeAddr + 1, .idle⟩⟩) := by
  have hnot := (isRead_msgs slaveAddr writeAddr 0 data fun _ => 0).2.2
  have hkeeps := (keepsBus_msgs slaveAddr writeAddr 0 data fun _ => 0).2.2
  obtain ⟨hshift, hdir⟩ := addressOf_shift hslave false
  have hwrite : ¬ addressOf slaveAddr.toUInt16.toUInt32 false &&& 1 = 1 := fun h => by
    cases hdir.mp h
  have hpayload : (transaction (storeMsg slaveAddr writeAddr data)).payload =
      .write [hiByte writeAddr, loByte writeAddr, hiByte data, loByte data] := payload_write hnot rfl
  have haddress := addressByte_transaction (storeMsg slaveAddr writeAddr data)
  rw [hnot] at haddress
  have hsend := send_pointer w slaveAddr { line.follower with mode := .called } writeAddr
    [hiByte data, loByte data] rfl hshift hwrite
  rw [send_word w slaveAddr _ data rfl] at hsend
  rw [Transaction.run_write _ _ _ hpayload, haddress, opened_free w slaveAddr line hfree]
  rw [show (storeMsg slaveAddr writeAddr data).addr.toUInt32 = slaveAddr.toUInt16.toUInt32 from rfl,
    hsend]
  rw [show (transaction (storeMsg slaveAddr writeAddr data)).hold = false from hkeeps]
  rfl

/-- The two messages of a read, on a free bus. -/
theorem exchange_read (hslave : slaveAddr < 128) (hfree : line.held = false)
    (startAddr num : UInt16) (hnum : num.toNat ≤ 32767) (bp : Nat → UInt8) :
    (∃ d', exchange (device w slaveAddr) (readMsgs slaveAddr startAddr num bp) line =
        ⟨2, [Driver.stored (pointerMsg slaveAddr startAddr) (some []),
          wordBytes (w.peek line.follower.regs) startAddr num.toNat], ⟨false, d'⟩⟩ ∧
        d'.regs = line.follower.regs) ∧
      courteous (device w slaveAddr) (readMsgs slaveAddr startAddr num bp) line = true := by
  have hpointer := run_pointerMsg w slaveAddr line hslave hfree startAddr
  obtain ⟨⟨d', hwords, hregs⟩, hrel⟩ := run_wordsMsg w slaveAddr hslave num hnum bp
    { line.follower with pointer := startAddr, mode := .called } rfl
  have hlen : (wordBytes (w.peek line.follower.regs) startAddr num.toNat).length =
      (wordsMsg slaveAddr num bp).len.toNat := by
    rw [length_wordBytes]
    exact (two_mul_toNat (by omega)).symm
  have hnot := (isRead_msgs slaveAddr startAddr num 0 bp).1
  have hmsgs : readMsgs slaveAddr startAddr num bp =
      [pointerMsg slaveAddr startAddr, wordsMsg slaveAddr num bp] := rfl
  rw [hmsgs]
  constructor
  · refine ⟨d', ?_, hregs⟩
    simp only [exchange, hpointer, hwords, Option.isSome_some, if_true, stored_read _ _ hlen]
  · have hfirst : (transaction (pointerMsg slaveAddr startAddr)).releases (device w slaveAddr) line =
        true := by
      rw [Transaction.releases, payload_write hnot rfl]
    simp only [courteous, hpointer, hrel, hfirst, hwords, Bool.or_true, Bool.and_true]

/-- On a free bus the words are served. -/
theorem device_serves (hslave : slaveAddr < 128) (regs : ρ) :
    Serves (lineBus (device w slaveAddr) indeterminate) slaveAddr (w.peek regs)
      (fun line => line.held = false ∧ line.follower.regs = regs) where
  answer line hready addr num bp hnum := by
    obtain ⟨⟨d', hexchange, -⟩, -⟩ :=
      exchange_read w slaveAddr line hslave hready.1 addr num hnum bp
    obtain ⟨hnot, hyes, -⟩ := isRead_msgs slaveAddr addr num 0 bp
    show (⟨((exchange _ _ line).ret : Int), received _ (exchange _ _ line).buffers⟩ : I2CResult) = _
    rw [hexchange, hready.2]
    have hreceived : received (readMsgs slaveAddr addr num bp)
        [Driver.stored (pointerMsg slaveAddr addr) (some []), wordBytes (w.peek regs) addr num.toNat] =
        wordBytes (w.peek regs) addr num.toNat := by
      show received [pointerMsg slaveAddr addr, wordsMsg slaveAddr num bp] _ = _
      rw [received_cons, received_cons, hnot, hyes]
      simp [received]
    simp only [hreceived]
    rfl
  next line hready addr num bp hnum := by
    obtain ⟨⟨d', hexchange, hregs⟩, -⟩ :=
      exchange_read w slaveAddr line hslave hready.1 addr num hnum bp
    show (exchange _ _ line).line.held = false ∧ (exchange _ _ line).line.follower.regs = regs
    rw [hexchange]
    exact ⟨rfl, hregs.trans hready.2⟩

theorem sevenBit_readMsgs (startAddr num : UInt16) (bp : Nat → UInt8) :
    ∀ msg ∈ readMsgs slaveAddr startAddr num bp, msg.flags &&& RT_I2C_ADDR_10BIT = 0 := by
  intro msg hmsg
  have hflags : msg.flags = RT_I2C_WR ||| RT_I2C_NO_STOP ∨ msg.flags = RT_I2C_RD := by
    simp only [readMsgs, List.mem_cons, List.not_mem_nil, or_false] at hmsg
    cases hmsg with
    | inl h => exact Or.inl (by rw [h])
    | inr h => exact Or.inr (by rw [h])
  cases hflags with
  | inl h => rw [h]; decide
  | inr h => rw [h]; decide

theorem exchange_write (hslave : slaveAddr < 128) (hfree : line.held = false)
    (writeAddr data : UInt16) :
    exchange (device w slaveAddr) (writeMsgs slaveAddr writeAddr data) line =
        ⟨1, [Driver.stored (storeMsg slaveAddr writeAddr data) (some [])],
          ⟨false, ⟨w.poke writeAddr data line.follower.regs, writeAddr + 1, .idle⟩⟩⟩ ∧
      courteous (device w slaveAddr) (writeMsgs slaveAddr writeAddr data) line = true := by
  have hstore := run_storeMsg w slaveAddr line hslave hfree writeAddr data
  have hnot := (isRead_msgs slaveAddr writeAddr 0 data fun _ => 0).2.2
  have hmsgs : writeMsgs slaveAddr writeAddr data = [storeMsg slaveAddr writeAddr data] := rfl
  rw [hmsgs]
  constructor
  · simp only [exchange, hstore, Option.isSome_some, if_true]
  · have hfirst : (transaction (storeMsg slaveAddr writeAddr data)).releases (device w slaveAddr) line =
        true := by
      rw [Transaction.releases, payload_write hnot rfl]
    simp only [courteous, hfirst, Bool.or_true, Bool.and_true]

theorem readWord_over_line (hslave : slaveAddr < 128) (line : Line (Device ρ))
    (hfree : line.held = false) (addr word : UInt16) :
    ∃ line', readWord (mlx90640I2cread (lineBus (device w slaveAddr) indeterminate) slaveAddr addr 1)
        word line = ((0, w.peek line.follower.regs addr), line') ∧
      line'.held = false ∧ line'.follower.regs = line.follower.regs := by
  have hserves := device_serves w slaveAddr indeterminate hslave line.follower.regs
  obtain ⟨line', hread, hready⟩ := hserves.read 1 (by decide) addr (fun _ => word) (s := line)
    ⟨hfree, rfl⟩
  have hword : served (w.peek line.follower.regs) addr (1 : UInt16).toNat (fun _ => word) 0 =
      w.peek line.follower.regs addr := by
    rw [served, if_pos (by decide)]
    simp
  refine ⟨line', ?_, hready⟩
  simp only [readWord, hread, hword]

/-- `MLX90640_I2CWrite` on a free bus stores the word once and looks at what the device then
shows. -/
theorem i2cWrite_over_line (hslave : slaveAddr < 128) (hfree : line.held = false)
    (writeAddr data : UInt16) :
    ∃ line', i2cWrite (some (lineBus (device w slaveAddr) indeterminate)) slaveAddr writeAddr data
        line = (if w.peek (w.poke writeAddr data line.follower.regs) writeAddr = data then 0 else -2,
          line') ∧
      line'.held = false ∧ line'.follower.regs = w.poke writeAddr data line.follower.regs := by
  obtain ⟨hexchange, -⟩ := exchange_write w slaveAddr line hslave hfree writeAddr data
  have htransfer : (lineBus (device w slaveAddr) indeterminate).transfer
      (writeMsgs slaveAddr writeAddr data) line =
      (⟨1, []⟩, ⟨false, ⟨w.poke writeAddr data line.follower.regs, writeAddr + 1, .idle⟩⟩) := by
    show ((⟨((exchange _ _ line).ret : Int), received _ (exchange _ _ line).buffers⟩ : I2CResult),
      (exchange _ _ line).line) = _
    have hnot := (isRead_msgs slaveAddr writeAddr 0 data fun _ => 0).2.2
    have hnone : received (writeMsgs slaveAddr writeAddr data)
        [Driver.stored (storeMsg slaveAddr writeAddr data) (some [])] = [] := by
      show received [storeMsg slaveAddr writeAddr data] _ = _
      rw [received_cons, hnot]
      rfl
    rw [hexchange]
    simp only [hnone]
    rfl
  obtain ⟨line', hread, hready⟩ := readWord_over_line w slaveAddr indeterminate hslave
    ⟨false, ⟨w.poke writeAddr data line.follower.regs, writeAddr + 1, .idle⟩⟩ rfl writeAddr
    (indeterminate line .dataCheck)
  refine ⟨line', ?_, hready⟩
  have hcheck : (lineBus (device w slaveAddr) indeterminate).indeterminate line .dataCheck =
      indeterminate line .dataCheck := rfl
  simp only [i2cWrite, mlx90640I2cwrite, htransfer, hcheck, hread]
  split_ifs <;> simp_all

/-- A word write over the whole stack: `MLX90640_I2CWrite` stores the word once and reports 0
exactly when the device then shows it. In whatever order the thread and the interrupts run, the
call of the channel underneath is over within a bounded number of steps, can always go on until
then, and has then stored the word and left the channel at rest. -/
theorem word_write_over_wire (hslave : slaveAddr < 128) (hfree : line.held = false)
    (writeAddr data : UInt16) (m : Machine (Device ρ)) (hrest : Rests m line) (prio : UInt8) :
    (∃ line', i2cWrite (some (lineBus (device w slaveAddr) indeterminate)) slaveAddr writeAddr data
        line = (if w.peek (w.poke writeAddr data line.follower.regs) writeAddr = data then 0 else -2,
          line') ∧
      line'.held = false ∧ line'.follower.regs = w.poke writeAddr data line.follower.regs) ∧
    ∀ acts, Action.timeout ∉ acts → ∀ sys,
      Driver.run (device w slaveAddr) prio acts
        ⟨m, quiet, .start 0 (writeMsgs slaveAddr writeAddr data) []⟩ = some sys →
      acts.length ≤ cost (writeMsgs slaveAddr writeAddr data) ∧
      (((∀ i bufs, sys.thread ≠ .returned i bufs) ∧
          ∃ a, a ≠ Action.timeout ∧ (Driver.step (device w slaveAddr) prio a sys).isSome) ∨
        ∃ bufs, sys.thread = .returned 1 bufs ∧
          sys.machine.follower.regs = w.poke writeAddr data line.follower.regs ∧
          Rests sys.machine ⟨false, sys.machine.follower⟩ ∧ sys.event = quiet) := by
  constructor
  · exact i2cWrite_over_line w slaveAddr indeterminate line hslave hfree writeAddr data
  · intro acts hacts sys hrun
    obtain ⟨hexchange, hq⟩ := exchange_write w slaveAddr line hslave hfree writeAddr data
    have hseven : ∀ msg ∈ writeMsgs slaveAddr writeAddr data,
        msg.flags &&& RT_I2C_ADDR_10BIT = 0 := by
      intro msg hmsg
      rw [List.mem_singleton.mp hmsg]
      show RT_I2C_WR &&& RT_I2C_ADDR_10BIT = 0
      decide
    obtain ⟨k, hk, hends⟩ := run_ends (device w slaveAddr) prio hrest hq hseven hacts hrun
    refine ⟨by omega, hends.progress.imp id ?_⟩
    intro h
    obtain ⟨hthread, hrests, hevent⟩ := h
    rw [hexchange] at hthread hrests
    have hfollower := hrests.follower
    refine ⟨_, hthread, by rw [hfollower], ?_, hevent⟩
    rw [hfollower]
    exact hrests

end Messages

def memory : Words (UInt16 → UInt16) where
  peek regs addr := regs addr
  poke addr data regs := Function.update regs addr data

/-- The device at the sensor's address, with a channel that was just opened. -/
def powered (regs : UInt16 → UInt16) : Line (Device (UInt16 → UInt16)) :=
  ⟨false, ⟨regs, 0, .idle⟩⟩

def opened (regs : UInt16 → UInt16) : Machine (Device (UInt16 → UInt16)) :=
  ⟨openMaster 0x33 .sevenBit, (powered regs).follower⟩

/-- The thread sleeps through the first message and comes late for the second. -/
def readTwoWords : List Action :=
  [.thread, .thread, .interrupt, .interrupt, .interrupt, .interrupt, .interrupt,
   .thread, .interrupt, .interrupt, .interrupt, .interrupt, .interrupt, .interrupt, .thread, .thread]

theorem readTwoWords_returns :
    (Driver.run (device memory 0x33) 10 readTwoWords
      ⟨opened (· * 3), quiet, .start 0 (readMsgs 0x33 0x0701 2 (bytesOf fun _ => 0)) []⟩).map
        System.thread = some (.returned 2 [[0x07, 0x01], [0x15, 0x03, 0x15, 0x06]]) := by
  decide +kernel

/-- The thread is still on its way to the event when the last interrupt comes. -/
def writeOneWord : List Action :=
  [.thread, .interrupt, .interrupt, .interrupt, .interrupt, .interrupt, .interrupt, .interrupt,
   .thread, .thread]

theorem writeOneWord_returns :
    (Driver.run (device memory 0x33) 10 writeOneWord
      ⟨opened fun _ => 0, quiet, .start 0 (writeMsgs 0x33 0x800D 0x1901) []⟩).map System.thread =
        some (.returned 1 [[0x80, 0x0D, 0x19, 0x01]]) := by
  decide +kernel

theorem word_write_at_control_register :
    (∃ line', i2cWrite (some (lineBus (device memory 0x33) fun _ _ => 0)) 0x33 0x800D 0x1901
        (powered fun _ => 0) = (0, line') ∧ line'.follower.regs 0x800D = 0x1901) ∧
    ∃ sys, Driver.run (device memory 0x33) 10 writeOneWord
        ⟨opened fun _ => 0, quiet, .start 0 (writeMsgs 0x33 0x800D 0x1901) []⟩ = some sys ∧
      sys.thread = .returned 1 [[0x80, 0x0D, 0x19, 0x01]] ∧
      sys.machine.follower.regs = Function.update (fun _ => 0) 0x800D 0x1901 ∧
      sys.event = quiet := by
  have hwire := word_write_over_wire memory 0x33 (fun _ _ => 0) (powered fun _ => 0) (by decide) rfl
    0x800D 0x1901 (opened fun _ => 0) (rests_openMaster _ _ _) 10
  constructor
  · obtain ⟨line', hwrite, -, hregs⟩ := hwire.1
    refine ⟨line', hwrite, ?_⟩
    rw [hregs]
    rfl
  · obtain ⟨sys, hrun, hthread⟩ := Option.map_eq_some_iff.mp writeOneWord_returns
    obtain ⟨-, ⟨hnot, -⟩ | ⟨bufs, -, hregs, -, hevent⟩⟩ := hwire.2 writeOneWord (by decide) sys hrun
    · exact absurd hthread (hnot _ _)
    · exact ⟨sys, hrun, hthread, hregs, hevent⟩

end Mlx90640.Bus.Registers
