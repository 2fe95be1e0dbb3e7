import Mlx90640.Lib.OpenDrain
import Mathlib.Logic.Function.Basic
import Mathlib.Tactic.SplitIfs

/-!
# The interrupt-driven I2C master

The SCI channel that carries the sensor's bus, without DTC, ten-bit addresses and parameter
checks, as the project configures it. `readWrite` starts a message; from then on the channel
works through its interrupts alone. The peripheral does one thing at a time: it puts a start
or stop condition on the wire and raises the transmit-end interrupt, or it clocks the byte in
`TDR` and raises the transmit interrupt. What answers on the wire is any `Follower`.
-/
namespace Mlx90640.Bus.Controller

open Mlx90640.Lib.OpenDrain

inductive AddrMode where
  | sevenBit | tenBit
  deriving DecidableEq, Repr

/-- `i2c_master_event_t`. -/
inductive MasterEvent where
  | aborted | rxComplete | txComplete
  deriving DecidableEq, Repr

/-- The transfer in `sci_b_i2c_instance_ctrl_t`; `pBuff` is the memory from the buffer's
first byte on. -/
structure Ctrl where
  slave : UInt32
  addrMode : AddrMode
  pBuff : Nat → UInt8
  total : UInt32
  remain : UInt32
  loaded : UInt32
  addrLow : UInt8
  addrHigh : UInt8
  addrTotal : UInt8
  addrRemain : UInt8
  addrLoaded : UInt8
  read : Bool
  restart : Bool
  err : Bool
  restarted : Bool
  doDummyRead : Bool

inductive Condition where
  | start | restart | stop
  deriving DecidableEq, Repr

/-- What `IICSDAS` and `IICSCLS` select, which the driver always writes alike. -/
inductive Output where
  | serial | condition | highImpedance
  deriving DecidableEq, Repr

/-- What the peripheral was last asked to do. -/
inductive Request where
  | condition (c : Condition)
  | byte (b : UInt8)
  deriving DecidableEq, Repr

/-- The registers of the channel: `CCR0` with its transmitter and receiver and its two
interrupts, `ICR`, the acknowledgement in `ISR`, and `RDR`. -/
structure Regs where
  te : Bool
  tie : Bool
  output : Output
  iicackt : Bool
  iicackr : Bool
  rdr : UInt8
  request : Option Request
  deriving DecidableEq, Repr

structure Channel where
  ctrl : Ctrl
  reg : Regs

namespace Channel

/-- A write of `ICR` with one of the three request bits: `SCI_B_I2C_PRV_GENERATE_REQUEST`. -/
def generate (c : Condition) (ch : Channel) : Channel :=
  { ch with reg := { ch.reg with output := .condition, request := some (.condition c) } }

/-- A write of `TDR`. -/
def transmit (b : UInt8) (ch : Channel) : Channel :=
  { ch with reg := { ch.reg with request := some (.byte b) } }

/-- `R_SCI_B_I2C_SlaveAddressSet`. -/
def slaveAddressSet (slave : UInt32) (addrMode : AddrMode) (ch : Channel) : Channel :=
  { ch with ctrl := { ch.ctrl with slave := slave, addrMode := addrMode } }

/-- `sci_b_i2c_run_hw_master`. -/
def runHwMaster (ch : Channel) : Channel :=
  let ctrl := { ch.ctrl with
    addrLoaded := 0, loaded := 0, remain := ch.ctrl.total, addrRemain := ch.ctrl.addrTotal,
    err := false, doDummyRead := ch.ctrl.read }
  let ch := { ctrl := ctrl, reg := { ch.reg with te := true, tie := true } : Channel }
  if ctrl.restarted then
    -- the bus was kept with a restart condition, and the address follows at once
    let data := if ctrl.addrTotal = 1 then ctrl.addrLow else ctrl.addrHigh
    transmit data
      { ch with ctrl := { ctrl with
          restarted := false, addrRemain := ctrl.addrRemain - 1, addrLoaded := ctrl.addrLoaded + 1 } }
  else generate .start ch

/-- `sci_b_i2c_read_write`. A ten-bit address is not compiled in, and leaves the address
bytes of the message before. -/
def readWrite (buffer : Nat → UInt8) (bytes : UInt32) (read : Bool) (ch : Channel) : Channel :=
  let ctrl := { ch.ctrl with pBuff := buffer, total := bytes }
  let ctrl := match ctrl.addrMode with
    | .sevenBit => { ctrl with
        addrHigh := 0
        addrLow := ((ctrl.slave <<< 1) ||| (if read then 1 else 0)).toUInt8
        addrTotal := 1 }
    | .tenBit => ctrl
  runHwMaster { ch with ctrl := { ctrl with read := read } }

/-- `R_SCI_B_I2C_Read` and `R_SCI_B_I2C_Write`. -/
def masterTransfer (buffer : Nat → UInt8) (bytes : UInt32) (read restart : Bool) (ch : Channel) :
    Channel :=
  readWrite buffer bytes read { ch with ctrl := { ch.ctrl with restart := restart } }

/-- `sci_b_i2c_issue_restart_or_stop`. -/
def issueRestartOrStop (ch : Channel) : Channel :=
  if ch.ctrl.restart then
    generate .restart { ch with ctrl := { ch.ctrl with restarted := true } }
  else generate .stop ch

/-- A byte from `RDR` into the buffer, with the trackers. -/
def store (ch : Channel) : Channel :=
  { ch with ctrl := { ch.ctrl with
      pBuff := Function.update ch.ctrl.pBuff ch.ctrl.loaded.toNat ch.reg.rdr
      remain := ch.ctrl.remain - 1
      loaded := ch.ctrl.loaded + 1 } }

def setAckt (nack : Bool) (ch : Channel) : Channel :=
  { ch with reg := { ch.reg with iicackt := nack } }

/-- `sci_b_i2c_txi_send_data`. -/
def txiSendData (ch : Channel) : Channel :=
  if ch.ctrl.read then
    let ch :=
      if ch.ctrl.doDummyRead then
        let ch := { ch with ctrl := { ch.ctrl with doDummyRead := false } }
        if 1 < ch.ctrl.remain then setAckt false ch else ch
      else store ch
    let ch := if ch.ctrl.remain = 1 then setAckt true ch else ch
    transmit 0xFF ch
  else
    transmit (ch.ctrl.pBuff ch.ctrl.loaded.toNat)
      { ch with ctrl := { ch.ctrl with remain := ch.ctrl.remain - 1, loaded := ch.ctrl.loaded + 1 } }

/-- `sci_b_i2c_txi_process_nack`. -/
def txiProcessNack (ch : Channel) : Channel :=
  if !ch.ctrl.read || ch.ctrl.doDummyRead then
    generate .stop { ch with ctrl := { ch.ctrl with remain := 0, err := true } }
  else issueRestartOrStop (store ch)

/-- `sci_b_i2c_txi_handler`. -/
def txiHandler (ch : Channel) : Channel :=
  if !ch.reg.iicackr then
    if ch.ctrl.addrTotal ≠ ch.ctrl.addrLoaded then
      if ch.ctrl.read ∧ ch.ctrl.addrLoaded = 2 then generate .restart ch
      else
        transmit ch.ctrl.addrLow
          { ch with ctrl := { ch.ctrl with
              addrRemain := ch.ctrl.addrRemain - 1, addrLoaded := ch.ctrl.addrLoaded + 1 } }
    else if 0 < ch.ctrl.remain then txiSendData ch
    else issueRestartOrStop ch
  else txiProcessNack ch

/-- `sci_b_i2c_tei_send_address`. -/
def teiSendAddress (ch : Channel) : Channel :=
  let data :=
    if ch.ctrl.addrLoaded = 0 then
      if ch.ctrl.addrTotal = 1 then ch.ctrl.addrLow else ch.ctrl.addrHigh
    else if ch.ctrl.read ∧ ch.ctrl.addrLoaded = 2 then ch.ctrl.addrHigh ||| 1
    else 0
  transmit data
    { ctrl := { ch.ctrl with
        addrRemain := ch.ctrl.addrRemain - 1, addrLoaded := ch.ctrl.addrLoaded + 1 }
      reg := { ch.reg with output := .serial } }

/-- The lines after the condition that ends a message. -/
def finish (ch : Channel) : Channel :=
  { ch with reg :=
    if ch.ctrl.restarted then { ch.reg with output := .serial }
    else { ch.reg with output := .highImpedance, te := false } }

/-- `sci_b_i2c_tei_handler`, with the event that it passes to the callback. -/
def teiHandler (ch : Channel) : Option MasterEvent × Channel :=
  if ch.ctrl.err then
    (some .aborted, { ch with reg := { ch.reg with output := .highImpedance } })
  else if ch.ctrl.addrTotal ≠ ch.ctrl.addrLoaded then (none, teiSendAddress ch)
  else if ch.ctrl.remain = 0 then
    (some (if ch.ctrl.read then .rxComplete else .txComplete), ch.finish)
  else (none, ch)

end Channel

structure Machine (σ : Type) where
  channel : Channel
  follower : σ

variable {σ : Type}

/-- The condition is on the wire. -/
def Channel.settle (ch : Channel) : Channel := { ch with reg := { ch.reg with request := none } }

/-- The byte was clocked, with what the line carried in the two registers. -/
def Channel.latch (r : Clocked) (ch : Channel) : Channel :=
  { ch with reg := { ch.reg with request := none, rdr := r.byte, iicackr := !r.low } }

/-- The peripheral does what it was asked for and the handler of its interrupt runs. `none`
when there is nothing to do, or when the registers do not let the peripheral do it. -/
def interrupt (f : Follower σ) (m : Machine σ) : Option (Option MasterEvent × Machine σ) :=
  let reg := m.channel.reg
  match reg.request with
  | none => none
  | some (.condition c) =>
    if reg.te ∧ reg.tie ∧ reg.output = .condition then
      let r := Channel.teiHandler m.channel.settle
      some (r.1, ⟨r.2, if c = .stop then f.stop m.follower else f.start m.follower⟩)
    else none
  | some (.byte b) =>
    if reg.te ∧ reg.tie ∧ reg.output = .serial then
      let r := f.clock b (!reg.iicackt) m.follower
      some (none, ⟨Channel.txiHandler (m.channel.latch r.1), r.2⟩)
    else none

/-- After `n` interrupts, and not before, the callback is given `event`. -/
inductive Leads (f : Follower σ) : Machine σ → Nat → MasterEvent → Machine σ → Prop where
  | notify {m m' : Machine σ} {event : MasterEvent} (h : interrupt f m = some (some event, m')) :
      Leads f m 1 event m'
  | next {m m₁ m' : Machine σ} {n : Nat} {event : MasterEvent}
      (h : interrupt f m = some (none, m₁)) (rest : Leads f m₁ n event m') :
      Leads f m (n + 1) event m'

/-- The channel rests: nothing is asked of the peripheral, it would not acknowledge, and it
keeps the bus exactly when the line is held. -/
structure Rests (m : Machine σ) (line : Line σ) : Prop where
  request : m.channel.reg.request = none
  iicackt : m.channel.reg.iicackt = true
  restarted : m.channel.ctrl.restarted = line.held
  output : line.held = true → m.channel.reg.output = .serial
  follower : m.follower = line.follower

/-- The channel after `R_SCI_B_I2C_Open`. -/
def openMaster (slave : UInt32) (addrMode : AddrMode) : Channel where
  ctrl :=
    { slave := slave, addrMode := addrMode, pBuff := fun _ => 0, total := 0, remain := 0, loaded := 0,
      addrLow := 0, addrHigh := 0, addrTotal := 0, addrRemain := 0, addrLoaded := 0, read := false,
      restart := false, err := false, restarted := false, doDummyRead := false }
  reg :=
    { te := false, tie := false, output := .highImpedance, iicackt := true, iicackr := false, rdr := 0,
      request := none }

theorem rests_openMaster (slave : UInt32) (addrMode : AddrMode) (s : σ) :
    Rests ⟨openMaster slave addrMode, s⟩ ⟨false, s⟩ :=
  ⟨rfl, rfl, rfl, nofun, rfl⟩

/-- The address is out and nothing went wrong so far. -/
structure Going (ch : Channel) : Prop where
  te : ch.reg.te = true
  tie : ch.reg.tie = true
  err : ch.ctrl.err = false
  restarted : ch.ctrl.restarted = false
  addr : ch.ctrl.addrTotal = ch.ctrl.addrLoaded

section Step

variable {f : Follower σ} {ch : Channel} {s : σ}

theorem interrupt_byte {b : UInt8} (hgo : Going ch) (hout : ch.reg.output = .serial)
    (hreq : ch.reg.request = some (.byte b)) :
    interrupt f ⟨ch, s⟩ = some (none,
      ⟨Channel.txiHandler (ch.latch (f.clock b (!ch.reg.iicackt) s).1),
        (f.clock b (!ch.reg.iicackt) s).2⟩) := by
  simp only [interrupt, hreq]
  rw [if_pos ⟨hgo.te, hgo.tie, hout⟩]

theorem interrupt_condition (f : Follower σ) (c : Condition) (ch : Channel) (s : σ)
    (hte : ch.reg.te = true) (htie : ch.reg.tie = true) :
    interrupt f ⟨ch.generate c, s⟩ = some ((ch.generate c).settle.teiHandler.1,
      ⟨(ch.generate c).settle.teiHandler.2, if c = .stop then f.stop s else f.start s⟩) := by
  show (if ch.reg.te ∧ ch.reg.tie ∧ Output.condition = Output.condition then _ else none) = _
  rw [if_pos ⟨hte, htie, rfl⟩]

theorem interrupt_last (f : Follower σ) (c : Condition) (ch : Channel) (s : σ)
    (hte : ch.reg.te = true) (htie : ch.reg.tie = true) (herr : ch.ctrl.err = false)
    (haddr : ch.ctrl.addrTotal = ch.ctrl.addrLoaded) (hremain : ch.ctrl.remain = 0) :
    interrupt f ⟨ch.generate c, s⟩ = some (some (if ch.ctrl.read then .rxComplete else .txComplete),
      ⟨(ch.generate c).settle.finish, if c = .stop then f.stop s else f.start s⟩) := by
  have htei : (ch.generate c).settle.teiHandler =
      (some (if ch.ctrl.read then .rxComplete else .txComplete), (ch.generate c).settle.finish) := by
    have herr' : (ch.generate c).settle.ctrl.err = false := herr
    have haddr' : (ch.generate c).settle.ctrl.addrTotal = (ch.generate c).settle.ctrl.addrLoaded :=
      haddr
    have hremain' : (ch.generate c).settle.ctrl.remain = 0 := hremain
    rw [Channel.teiHandler, if_neg (by simp [herr']), if_neg (not_not_intro haddr'), if_pos hremain']
    rfl
  rw [interrupt_condition f c ch s hte htie, htei]

theorem issue_leads (hgo : Going ch) (hremain : ch.ctrl.remain = 0)
    (hackt : ch.reg.iicackt = true) :
    ∃ m', Leads f ⟨ch.issueRestartOrStop, s⟩ 1
        (if ch.ctrl.read then .rxComplete else .txComplete) m' ∧
      Rests m' (Line.after f ch.ctrl.restart s) ∧ m'.channel.ctrl.pBuff = ch.ctrl.pBuff := by
  cases hrestart : ch.ctrl.restart with
  | true =>
    have hint := interrupt_last f .restart { ch with ctrl := { ch.ctrl with restarted := true } } s
      hgo.te hgo.tie hgo.err hgo.addr hremain
    rw [Channel.issueRestartOrStop, if_pos hrestart]
    exact ⟨_, .notify hint, ⟨rfl, hackt, rfl, fun _ => rfl, rfl⟩, rfl⟩
  | false =>
    have hint := interrupt_last f .stop ch s hgo.te hgo.tie hgo.err hgo.addr hremain
    have hfinish : (ch.generate .stop).settle.finish.reg =
        { (ch.generate .stop).settle.reg with output := .highImpedance, te := false } :=
      if_neg (by rw [show (ch.generate .stop).settle.ctrl.restarted = false from hgo.restarted]; simp)
    rw [Channel.issueRestartOrStop, if_neg (by simp [hrestart])]
    refine ⟨_, .notify hint, ⟨?_, ?_, hgo.restarted, fun h => absurd h (by simp [Line.after]), rfl⟩, rfl⟩
    · show (ch.generate .stop).settle.finish.reg.request = none
      rw [hfinish]
      rfl
    · show (ch.generate .stop).settle.finish.reg.iicackt = true
      rw [hfinish]
      exact hackt

theorem nack_leads (hte : ch.reg.te = true) (htie : ch.reg.tie = true)
    (hrestarted : ch.ctrl.restarted = false) (hackt : ch.reg.iicackt = true)
    (h : ch.ctrl.read = false ∨ ch.ctrl.doDummyRead = true) :
    ∃ m', Leads f ⟨ch.txiProcessNack, s⟩ 1 .aborted m' ∧ Rests m' ⟨false, f.stop s⟩ ∧
      m'.channel.ctrl.pBuff = ch.ctrl.pBuff := by
  have hcond : (!ch.ctrl.read || ch.ctrl.doDummyRead) = true := by
    cases h with
    | inl h => rw [h]; rfl
    | inr h => rw [h, Bool.or_true]
  have hint := interrupt_condition f .stop
    { ch with ctrl := { ch.ctrl with remain := 0, err := true } } s hte htie
  rw [Channel.txiProcessNack, if_pos hcond]
  exact ⟨_, .notify hint, ⟨rfl, hackt, hrestarted, fun h => absurd h (by simp), rfl⟩, rfl⟩

theorem txiHandler_nack {r : Clocked} (hr : r.low = false) :
    (ch.latch r).txiHandler = (ch.latch r).txiProcessNack := by
  rw [Channel.txiHandler, if_neg]
  show ¬ (!(!r.low)) = true
  simp [hr]

theorem txiHandler_ack {r : Clocked} (hgo : Going ch) (hr : r.low = true) :
    (ch.latch r).txiHandler =
      if 0 < ch.ctrl.remain then (ch.latch r).txiSendData else (ch.latch r).issueRestartOrStop := by
  have hack : (!(ch.latch r).reg.iicackr) = true := by
    show (!(!r.low)) = true
    simp [hr]
  have haddr : ¬ (ch.latch r).ctrl.addrTotal ≠ (ch.latch r).ctrl.addrLoaded := not_not_intro hgo.addr
  rw [Channel.txiHandler, if_pos hack, if_neg haddr]
  rfl

theorem Going.latch (hgo : Going ch) (r : Clocked) : Going (ch.latch r) :=
  ⟨hgo.te, hgo.tie, hgo.err, hgo.restarted, hgo.addr⟩

end Step

theorem remain_pos {n : UInt32} {k : Nat} (h : n.toNat = k + 1) : 0 < n := by
  rw [UInt32.lt_iff_toNat_lt, h]
  exact Nat.succ_pos k

theorem remain_sub_one {n : UInt32} {k : Nat} (h : n.toNat = k + 1) : (n - 1).toNat = k := by
  rw [UInt32.toNat_sub_of_le]
  · rw [h]
    rfl
  · rw [UInt32.le_iff_toNat_le, h]
    exact Nat.succ_le_succ (Nat.zero_le k)

theorem loaded_add_one {n : UInt32} (h : n.toNat + 1 < 4294967296) : (n + 1).toNat = n.toNat + 1 := by
  rw [UInt32.toNat_add]
  exact Nat.mod_eq_of_lt h

/-- A channel that has `b` in `TDR` and `rest` still to send. -/
structure Sending (ch : Channel) (b : UInt8) (rest : List UInt8) : Prop where
  going : Going ch
  read : ch.ctrl.read = false
  output : ch.reg.output = .serial
  iicackt : ch.reg.iicackt = true
  request : ch.reg.request = some (.byte b)
  remain : ch.ctrl.remain.toNat = rest.length
  data : ∀ i : Nat, i < rest.length → ch.ctrl.pBuff (ch.ctrl.loaded.toNat + i) = rest.getD i 0
  bound : ch.ctrl.loaded.toNat + rest.length < 4294967296

theorem Sending.next {ch : Channel} {b b' : UInt8} {rest : List UInt8} (r : Clocked)
    (h : Sending ch b (b' :: rest)) :
    Sending (ch.latch r).txiSendData b' rest ∧
      (ch.latch r).txiSendData.ctrl.restart = ch.ctrl.restart ∧
      (ch.latch r).txiSendData.ctrl.pBuff = ch.ctrl.pBuff := by
  have hremain : ch.ctrl.remain.toNat = rest.length + 1 := h.remain
  have hfirst : ch.ctrl.pBuff ch.ctrl.loaded.toNat = b' := by
    have hdata := h.data 0 (Nat.succ_pos _)
    simpa using hdata
  have hbound : ch.ctrl.loaded.toNat + (rest.length + 1) < 4294967296 := h.bound
  have hloaded : (ch.ctrl.loaded + 1).toNat = ch.ctrl.loaded.toNat + 1 :=
    loaded_add_one (by omega)
  have hdef : (ch.latch r).txiSendData = Channel.transmit (ch.ctrl.pBuff ch.ctrl.loaded.toNat)
      { ch.latch r with ctrl := { ch.ctrl with
          remain := ch.ctrl.remain - 1, loaded := ch.ctrl.loaded + 1 } } := by
    rw [Channel.txiSendData, if_neg]
    · rfl
    · rw [show (ch.latch r).ctrl.read = false from h.read]
      simp
  rw [hdef, hfirst]
  have hgo := h.going
  refine ⟨⟨⟨hgo.te, hgo.tie, hgo.err, hgo.restarted, hgo.addr⟩, h.read, h.output, h.iicackt, rfl,
    remain_sub_one hremain, fun i hi => ?_, ?_⟩, rfl, rfl⟩
  · show ch.ctrl.pBuff ((ch.ctrl.loaded + 1).toNat + i) = rest.getD i 0
    have hdata := h.data (i + 1) (by simpa using hi)
    rw [hloaded, Nat.add_assoc, Nat.add_comm 1 i, hdata, List.getD_cons_succ]
  · show (ch.ctrl.loaded + 1).toNat + rest.length < 4294967296
    omega

theorem Sending.interrupt (f : Follower σ) {ch : Channel} {b : UInt8} {rest : List UInt8} (s : σ)
    (h : Sending ch b rest) :
    Controller.interrupt f ⟨ch, s⟩ = some (none,
      ⟨Channel.txiHandler (ch.latch (f.clock b false s).1), (f.clock b false s).2⟩) := by
  have hint := interrupt_byte (f := f) (s := s) h.going h.output h.request
  rwa [h.iicackt] at hint

/-- A write runs to the end, or to the first byte that is refused. -/
theorem send_leads (f : Follower σ) {ch : Channel} {b : UInt8} {rest : List UInt8} (s : σ)
    (h : Sending ch b rest) :
    ∃ n m', n ≤ rest.length + 2 ∧
      Leads f ⟨ch, s⟩ n (if (f.send (b :: rest) s).1 then .txComplete else .aborted) m' ∧
      Rests m' (if (f.send (b :: rest) s).1 then Line.after f ch.ctrl.restart (f.send (b :: rest) s).2
        else ⟨false, f.stop (f.send (b :: rest) s).2⟩) ∧
      m'.channel.ctrl.pBuff = ch.ctrl.pBuff := by
  induction rest generalizing ch b s with
  | nil =>
    have hint := h.interrupt f s
    have hsend : f.send [b] s = ((f.clock b false s).1.low, (f.clock b false s).2) := by
      rw [Follower.send]
      cases (f.clock b false s).1.low <;> rfl
    rw [hsend]
    cases hlow : (f.clock b false s).1.low with
    | true =>
      have hzero : ch.ctrl.remain = 0 := UInt32.toNat_inj.mp h.remain
      rw [txiHandler_ack h.going hlow, if_neg (by rw [hzero]; decide)] at hint
      obtain ⟨m', hleads, hrests, hbuf⟩ :=
        issue_leads (f := f) (s := (f.clock b false s).2) (h.going.latch _) hzero h.iicackt
      rw [show (ch.latch _).ctrl.read = false from h.read] at hleads
      exact ⟨2, m', Nat.le_refl _, .next hint hleads, hrests, hbuf⟩
    | false =>
      rw [txiHandler_nack hlow] at hint
      obtain ⟨m', hleads, hrests, hbuf⟩ := nack_leads (f := f) (s := (f.clock b false s).2)
        (h.going.latch _).te h.going.tie h.going.restarted h.iicackt (Or.inl h.read)
      exact ⟨2, m', Nat.le_refl _, .next hint hleads, hrests, hbuf⟩
  | cons b' rest ih =>
    have hint := h.interrupt f s
    rw [Follower.send]
    cases hlow : (f.clock b false s).1.low with
    | true =>
      rw [txiHandler_ack h.going hlow, if_pos (remain_pos h.remain)] at hint
      obtain ⟨hnext, hrestart, hsame⟩ := h.next (f.clock b false s).1
      obtain ⟨n, m', hn, hleads, hrests, hbuf⟩ := ih (f.clock b false s).2 hnext
      rw [hrestart] at hrests
      exact ⟨n + 1, m', Nat.succ_le_succ hn, .next hint hleads, hrests, hbuf.trans hsame⟩
    | false =>
      rw [txiHandler_nack hlow] at hint
      obtain ⟨m', hleads, hrests, hbuf⟩ := nack_leads (f := f) (s := (f.clock b false s).2)
        (h.going.latch _).te h.going.tie h.going.restarted h.iicackt (Or.inl h.read)
      exact ⟨2, m', by simp, .next hint hleads, hrests, hbuf⟩

/-- A channel that clocks in a byte, the first of `n + 1` that are to come. -/
structure Receiving (ch : Channel) (n : Nat) : Prop where
  going : Going ch
  read : ch.ctrl.read = true
  doDummyRead : ch.ctrl.doDummyRead = false
  output : ch.reg.output = .serial
  iicackt : ch.reg.iicackt = decide (n = 0)
  request : ch.reg.request = some (.byte 0xFF)
  remain : ch.ctrl.remain.toNat = n + 1
  bound : ch.ctrl.loaded.toNat + (n + 1) < 4294967296

theorem Receiving.next {ch : Channel} {n : Nat} (r : Clocked) (h : Receiving ch (n + 1)) :
    Receiving (ch.latch r).txiSendData n ∧
      (ch.latch r).txiSendData.ctrl.restart = ch.ctrl.restart ∧
      (ch.latch r).txiSendData.ctrl.loaded.toNat = ch.ctrl.loaded.toNat + 1 ∧
      (ch.latch r).txiSendData.ctrl.pBuff =
        Function.update ch.ctrl.pBuff ch.ctrl.loaded.toNat r.byte := by
  have hbound := h.bound
  have hloaded : (ch.ctrl.loaded + 1).toNat = ch.ctrl.loaded.toNat + 1 :=
    loaded_add_one (by omega)
  have hremain : (ch.ctrl.remain - 1).toNat = n + 1 := remain_sub_one h.remain
  have hone : ch.ctrl.remain - 1 = 1 ↔ n = 0 := by
    rw [← UInt32.toNat_inj, hremain]
    show n + 1 = 1 ↔ n = 0
    omega
  have hread : (ch.latch r).ctrl.read = true := h.read
  have hdummy : ¬ (ch.latch r).ctrl.doDummyRead = true := by
    rw [show (ch.latch r).ctrl.doDummyRead = false from h.doDummyRead]
    simp
  have hgo := h.going
  rw [Channel.txiSendData, if_pos hread, if_neg hdummy]
  by_cases hn : n = 0
  · have hlast : (ch.latch r).store.ctrl.remain = 1 := hone.mpr hn
    simp only [if_pos hlast]
    refine ⟨⟨⟨hgo.te, hgo.tie, hgo.err, hgo.restarted, hgo.addr⟩, h.read, h.doDummyRead, h.output,
      ?_, rfl, hremain, ?_⟩, rfl, hloaded, rfl⟩
    · show true = decide (n = 0)
      simp [hn]
    · show (ch.ctrl.loaded + 1).toNat + (n + 1) < 4294967296
      omega
  · have hmore : ¬ (ch.latch r).store.ctrl.remain = 1 := fun h => hn (hone.mp h)
    simp only [if_neg hmore]
    refine ⟨⟨⟨hgo.te, hgo.tie, hgo.err, hgo.restarted, hgo.addr⟩, h.read, h.doDummyRead, h.output,
      ?_, rfl, hremain, ?_⟩, rfl, hloaded, rfl⟩
    · show ch.reg.iicackt = decide (n = 0)
      rw [h.iicackt]
      simp [hn]
    · show (ch.ctrl.loaded + 1).toNat + (n + 1) < 4294967296
      omega

/-- Memory after bytes were stored one after the other from an index on. -/
def overlay : (Nat → UInt8) → Nat → List UInt8 → Nat → UInt8
  | buffer, _, [] => buffer
  | buffer, k, b :: bs => overlay (Function.update buffer k b) (k + 1) bs

theorem overlay_below (bytes : List UInt8) (buffer : Nat → UInt8) {k i : Nat} (h : i < k) :
    overlay buffer k bytes i = buffer i := by
  induction bytes generalizing buffer k with
  | nil => rfl
  | cons b bs ih =>
    rw [overlay, ih _ (Nat.lt_succ_of_lt h), Function.update_of_ne (Nat.ne_of_lt h)]

theorem map_overlay (bytes : List UInt8) (buffer : Nat → UInt8) (k : Nat) :
    (List.range' k bytes.length).map (overlay buffer k bytes) = bytes := by
  induction bytes generalizing buffer k with
  | nil => rfl
  | cons b bs ih =>
    rw [List.length_cons, List.range'_succ, List.map_cons]
    congr 1
    · rw [overlay, overlay_below _ _ (Nat.lt_succ_self k), Function.update_self]
    · exact ih (Function.update buffer k b) (k + 1)

theorem receive_last (f : Follower σ) {ch : Channel} (s : σ) (h : Receiving ch 0)
    (hrel : f.releases 1 s = true) :
    ∃ m', Leads f ⟨ch, s⟩ 2 .rxComplete m' ∧
      Rests m' (Line.after f ch.ctrl.restart (f.clock 0xFF false s).2) ∧
      m'.channel.ctrl.pBuff =
        Function.update ch.ctrl.pBuff ch.ctrl.loaded.toNat (f.clock 0xFF false s).1.byte := by
  have hint := interrupt_byte (f := f) (s := s) h.going h.output h.request
  rw [h.iicackt, show (!decide (0 = 0)) = false from rfl] at hint
  have hlow : (f.clock 0xFF false s).1.low = false := by
    rw [Follower.releases, Bool.not_eq_true'] at hrel
    show (false || f.pulls s (0xFF &&& f.drives s)) = false
    rw [hrel]
    rfl
  rw [txiHandler_nack hlow, Channel.txiProcessNack, if_neg] at hint
  · have hgo := h.going
    have hzero : ch.ctrl.remain - 1 = 0 := UInt32.toNat_inj.mp (remain_sub_one h.remain)
    have hstored : Going (ch.latch (f.clock 0xFF false s).1).store :=
      ⟨hgo.te, hgo.tie, hgo.err, hgo.restarted, hgo.addr⟩
    obtain ⟨m', hleads, hrests, hbuf⟩ :=
      issue_leads (f := f) (s := (f.clock 0xFF false s).2) hstored hzero h.iicackt
    rw [show (ch.latch _).store.ctrl.read = true from h.read] at hleads
    exact ⟨m', .next hint hleads, hrests, hbuf⟩
  · show ¬ (!ch.ctrl.read || ch.ctrl.doDummyRead) = true
    rw [h.read, h.doDummyRead]
    decide

theorem receive_leads (f : Follower σ) {ch : Channel} {n : Nat} (s : σ) (h : Receiving ch n)
    (hrel : f.releases (n + 1) s = true) :
    ∃ m', Leads f ⟨ch, s⟩ (n + 2) .rxComplete m' ∧
      Rests m' (Line.after f ch.ctrl.restart (f.receive (n + 1) s).2) ∧
      m'.channel.ctrl.pBuff =
        overlay ch.ctrl.pBuff ch.ctrl.loaded.toNat (f.receive (n + 1) s).1 := by
  induction n generalizing ch s with
  | zero => exact receive_last f s h hrel
  | succ n ih =>
    have hint := interrupt_byte (f := f) (s := s) h.going h.output h.request
    rw [h.iicackt, show (!decide (n + 1 = 0)) = true from rfl] at hint
    rw [txiHandler_ack h.going (f.clock_true_low 0xFF s), if_pos (remain_pos h.remain)] at hint
    obtain ⟨hnext, hrestart, hloaded, hstored⟩ := h.next (f.clock 0xFF true s).1
    obtain ⟨m', hleads, hrests, hbuf⟩ := ih (f.clock 0xFF true s).2 hnext hrel
    rw [hrestart] at hrests
    refine ⟨m', .next hint hleads, hrests, ?_⟩
    rw [hbuf, hstored, hloaded]
    rfl

/-- What `readWrite` puts on the wire as the address. -/
def addressOf (slave : UInt32) (read : Bool) : UInt8 :=
  ((slave <<< 1) ||| (if read then 1 else 0)).toUInt8

/-- A message of the calling thread: `R_SCI_B_I2C_SlaveAddressSet` with a seven-bit address,
then `R_SCI_B_I2C_Read` or `R_SCI_B_I2C_Write`. -/
def submit (slave : UInt32) (buffer : Nat → UInt8) (bytes : UInt32) (read restart : Bool)
    (m : Machine σ) : Machine σ :=
  { m with channel :=
      (m.channel.slaveAddressSet slave .sevenBit).masterTransfer buffer bytes read restart }

/-- The address is in `TDR`, and the whole message is still to come. -/
structure Addressing (ch : Channel) (slave : UInt32) (buffer : Nat → UInt8) (bytes : UInt32)
    (reading hold : Bool) : Prop where
  going : Going ch
  read : ch.ctrl.read = reading
  restart : ch.ctrl.restart = hold
  doDummyRead : ch.ctrl.doDummyRead = reading
  output : ch.reg.output = .serial
  iicackt : ch.reg.iicackt = true
  request : ch.reg.request = some (.byte (addressOf slave reading))
  remain : ch.ctrl.remain = bytes
  loaded : ch.ctrl.loaded = 0
  pBuff : ch.ctrl.pBuff = buffer

section Message

variable (f : Follower σ) (slave : UInt32) (buffer : Nat → UInt8) (bytes : UInt32)
  (read restart : Bool) {m : Machine σ} {line : Line σ}

theorem submit_addressing (h : Rests m line) :
    ∃ ch, Addressing ch slave buffer bytes read restart ∧
      ∀ n event m', Leads f ⟨ch, line.opened f⟩ n event m' →
        ∃ n' ≤ n + 1, Leads f (submit slave buffer bytes read restart m) n' event m' := by
  cases hheld : line.held with
  | true =>
    have hrestarted : m.channel.ctrl.restarted = true := h.restarted.trans hheld
    refine ⟨(submit slave buffer bytes read restart m).channel, ?_, fun n event m' hleads => ?_⟩
    · simp only [submit, Channel.slaveAddressSet, Channel.masterTransfer, Channel.readWrite,
        Channel.runHwMaster, hrestarted, if_true]
      exact ⟨⟨rfl, rfl, rfl, rfl, rfl⟩, rfl, rfl, rfl, h.output hheld, h.iicackt, rfl, rfl, rfl, rfl⟩
    · refine ⟨n, Nat.le_succ n, ?_⟩
      rw [Line.opened, if_pos hheld, ← h.follower] at hleads
      exact hleads
  | false =>
    have hrestarted : m.channel.ctrl.restarted = false := h.restarted.trans hheld
    have hsubmit : ∃ ch : Channel, submit slave buffer bytes read restart m =
        ⟨ch.generate .start, m.follower⟩ ∧ ch.reg.te = true ∧ ch.reg.tie = true ∧
        ch.reg.iicackt = true ∧ ch.ctrl = { m.channel.ctrl with
          slave := slave, addrMode := .sevenBit, pBuff := buffer, total := bytes,
          addrHigh := 0, addrLow := addressOf slave read, addrTotal := 1, read := read,
          restart := restart, addrLoaded := 0, loaded := 0, remain := bytes, addrRemain := 1,
          err := false, doDummyRead := read } := by
      simp only [submit, Channel.slaveAddressSet, Channel.masterTransfer, Channel.readWrite,
        Channel.runHwMaster, hrestarted, Bool.false_eq_true, if_false]
      exact ⟨_, rfl, rfl, rfl, h.iicackt, rfl⟩
    obtain ⟨ch, hsub, hte, htie, hackt, hctrl⟩ := hsubmit
    have hint := interrupt_condition f .start ch m.follower hte htie
    have htei : (ch.generate .start).settle.teiHandler =
        (none, (ch.generate .start).settle.teiSendAddress) := by
      have herr : ¬ (ch.generate .start).settle.ctrl.err = true := by
        show ¬ ch.ctrl.err = true
        rw [hctrl]
        simp
      have haddr : (ch.generate .start).settle.ctrl.addrTotal ≠
          (ch.generate .start).settle.ctrl.addrLoaded := by
        show ch.ctrl.addrTotal ≠ ch.ctrl.addrLoaded
        rw [hctrl]
        simp
      rw [Channel.teiHandler, if_neg herr, if_pos haddr]
    rw [htei] at hint
    refine ⟨(ch.generate .start).settle.teiSendAddress, ?_, fun n event m' hleads => ?_⟩
    · have hdone : (ch.generate .start).settle.ctrl = ch.ctrl := rfl
      simp only [Channel.teiSendAddress, hdone, hctrl, if_true]
      exact ⟨⟨hte, htie, rfl, hrestarted, rfl⟩, rfl, rfl, rfl, rfl, hackt, rfl, rfl, rfl, rfl⟩
    · rw [Line.opened, if_neg (by simp [hheld]), ← h.follower] at hleads
      rw [hsub]
      exact ⟨n + 1, Nat.le_refl _, .next hint hleads⟩

/-- What a message asks of the bus. -/
def transactionOf : Transaction where
  address := slave.toUInt8
  payload := if read then .read bytes.toNat else .write ((List.range bytes.toNat).map buffer)
  hold := restart

theorem addressByte_transactionOf :
    (transactionOf slave buffer bytes read restart).addressByte = addressOf slave read := by
  cases read with
  | true =>
    show (slave.toUInt8 <<< 1) ||| (1 : UInt8) = ((slave <<< 1) ||| 1).toUInt8
    rw [UInt32.toUInt8_or, UInt32.toUInt8_shiftLeft _ _ (by decide)]
    rfl
  | false =>
    show (slave.toUInt8 <<< 1) ||| (0 : UInt8) = ((slave <<< 1) ||| 0).toUInt8
    rw [UInt32.toUInt8_or, UInt32.toUInt8_shiftLeft _ _ (by decide)]
    rfl

/-- What the callback is given at the end. -/
def eventOf (read : Bool) : Option (List UInt8) → MasterEvent
  | none => .aborted
  | some _ => if read then .rxComplete else .txComplete

theorem Addressing.sending {ch : Channel}
    (h : Addressing ch slave buffer bytes false restart) :
    Sending ch (addressOf slave false) ((List.range bytes.toNat).map buffer) := by
  have hlength : ((List.range bytes.toNat).map buffer).length = bytes.toNat := by simp
  refine ⟨h.going, h.read, h.output, h.iicackt, h.request, ?_, fun i hi => ?_, ?_⟩
  · rw [h.remain, hlength]
  · rw [hlength] at hi
    rw [h.loaded, h.pBuff]
    simp [hi]
  · rw [h.loaded, hlength]
    have hlt := bytes.toNat_lt
    show 0 + bytes.toNat < 4294967296
    omega

theorem Addressing.receiving {ch : Channel} {n : Nat} (r : Clocked)
    (h : Addressing ch slave buffer bytes true restart) (hn : bytes.toNat = n + 1) :
    Receiving (ch.latch r).txiSendData n ∧
      (ch.latch r).txiSendData.ctrl.restart = restart ∧
      (ch.latch r).txiSendData.ctrl.loaded = 0 ∧
      (ch.latch r).txiSendData.ctrl.pBuff = buffer := by
  have hread : (ch.latch r).ctrl.read = true := h.read
  have hdummy : (ch.latch r).ctrl.doDummyRead = true := h.doDummyRead
  have hlt := bytes.toNat_lt
  have hgo := h.going
  have hgo' : ∀ reg : Regs, reg.te = true → reg.tie = true →
      Going { ctrl := { ch.ctrl with doDummyRead := false }, reg := reg } :=
    fun reg hte htie => ⟨hte, htie, hgo.err, hgo.restarted, hgo.addr⟩
  have hbound : ch.ctrl.loaded.toNat + (n + 1) < 4294967296 := by
    rw [h.loaded]
    show 0 + (n + 1) < 4294967296
    omega
  have hremain : ch.ctrl.remain.toNat = n + 1 := by rw [h.remain, hn]
  rw [Channel.txiSendData, if_pos hread, if_pos hdummy]
  by_cases hzero : n = 0
  · have hone : ch.ctrl.remain = 1 := by
      rw [← UInt32.toNat_inj, hremain, hzero]
      rfl
    have hnot : ¬ (1 : UInt32) < (ch.latch r).ctrl.remain := by
      show ¬ (1 : UInt32) < ch.ctrl.remain
      rw [hone]
      decide
    simp only [if_neg hnot]
    rw [if_pos (show (ch.latch r).ctrl.remain = 1 from hone)]
    refine ⟨⟨hgo' _ hgo.te hgo.tie, h.read, rfl, h.output, ?_, rfl, hremain, hbound⟩, h.restart,
      h.loaded, h.pBuff⟩
    show true = decide (n = 0)
    simp [hzero]
  · have hmore : (1 : UInt32) < (ch.latch r).ctrl.remain := by
      rw [UInt32.lt_iff_toNat_lt]
      show 1 < ch.ctrl.remain.toNat
      omega
    have hnot : ¬ ch.ctrl.remain = 1 := by
      rw [← UInt32.toNat_inj, hremain]
      show ¬ n + 1 = 1
      omega
    simp only [if_pos hmore]
    rw [if_neg]
    · refine ⟨⟨hgo' _ hgo.te hgo.tie, h.read, rfl, h.output, ?_, rfl, hremain, hbound⟩, h.restart,
        h.loaded, h.pBuff⟩
      show false = decide (n = 0)
      simp [hzero]
    · exact hnot

theorem write_leads {ch : Channel} (s : σ) (h : Addressing ch slave buffer bytes false restart) :
    ∃ n m', n ≤ bytes.toNat + 2 ∧
      Leads f ⟨ch, s⟩ n
        (if (f.send (addressOf slave false :: (List.range bytes.toNat).map buffer) s).1
          then .txComplete else .aborted) m' ∧
      Rests m' (if (f.send (addressOf slave false :: (List.range bytes.toNat).map buffer) s).1
        then Line.after f restart (f.send (addressOf slave false :: (List.range bytes.toNat).map buffer) s).2
        else ⟨false, f.stop (f.send (addressOf slave false :: (List.range bytes.toNat).map buffer) s).2⟩) ∧
      m'.channel.ctrl.pBuff = buffer := by
  obtain ⟨n, m', hn, hleads, hrests, hbuf⟩ := send_leads f s h.sending
  rw [List.length_map, List.length_range] at hn
  rw [h.restart] at hrests
  exact ⟨n, m', hn, hleads, hrests, hbuf.trans h.pBuff⟩

theorem read_refused {ch : Channel} {s : σ} {r : Clocked × σ}
    (h : Addressing ch slave buffer bytes true restart)
    (hr : f.clock (addressOf slave true) false s = r) (hlow : r.1.low = false) :
    ∃ m', Leads f ⟨ch, s⟩ 2 .aborted m' ∧ Rests m' ⟨false, f.stop r.2⟩ ∧
      m'.channel.ctrl.pBuff = buffer := by
  have hint := interrupt_byte (f := f) (s := s) h.going h.output h.request
  rw [h.iicackt, show (!true) = false from rfl, hr, txiHandler_nack hlow] at hint
  obtain ⟨m', hleads, hrests, hbuf⟩ := nack_leads (f := f) (s := r.2) (h.going.latch r.1).te
    h.going.tie h.going.restarted h.iicackt (Or.inr h.doDummyRead)
  exact ⟨m', .next hint hleads, hrests, hbuf.trans h.pBuff⟩

theorem read_leads {ch : Channel} {s : σ} {r : Clocked × σ}
    (h : Addressing ch slave buffer bytes true restart)
    (hr : f.clock (addressOf slave true) false s = r) (hlow : r.1.low = true)
    (hrel : f.releases bytes.toNat r.2 = true) :
    ∃ m', Leads f ⟨ch, s⟩ (bytes.toNat + 2) .rxComplete m' ∧
      Rests m' (Line.after f restart (f.receive bytes.toNat r.2).2) ∧
      m'.channel.ctrl.pBuff = overlay buffer 0 (f.receive bytes.toNat r.2).1 := by
  have hint := interrupt_byte (f := f) (s := s) h.going h.output h.request
  rw [h.iicackt, show (!true) = false from rfl, hr, txiHandler_ack h.going hlow] at hint
  cases hn : bytes.toNat with
  | zero =>
    have hzero : ch.ctrl.remain = 0 := by
      rw [h.remain]
      exact UInt32.toNat_inj.mp hn
    rw [if_neg (by rw [hzero]; decide)] at hint
    obtain ⟨m', hleads, hrests, hbuf⟩ :=
      issue_leads (f := f) (s := r.2) (h.going.latch r.1) hzero h.iicackt
    rw [show (ch.latch r.1).ctrl.read = true from h.read] at hleads
    rw [show (ch.latch r.1).ctrl.restart = restart from h.restart] at hrests
    exact ⟨m', .next hint hleads, hrests, hbuf.trans h.pBuff⟩
  | succ n =>
    have hpos : 0 < ch.ctrl.remain := remain_pos (by rw [h.remain, hn])
    rw [if_pos hpos] at hint
    rw [hn] at hrel
    obtain ⟨hrecv, hrestart, hloaded, hbuf⟩ := h.receiving slave buffer bytes restart r.1 hn
    obtain ⟨m', hleads, hrests, hstored⟩ := receive_leads f r.2 hrecv hrel
    rw [hrestart] at hrests
    rw [hloaded, hbuf] at hstored
    exact ⟨m', .next hint hleads, hrests, hstored⟩

/-- From any channel at rest, every message runs through the interrupts as the transaction
that it asks for: the callback comes once, with the transaction's outcome, the buffer holds
what was read, and the channel is at rest on the bus that the transaction leaves. -/
theorem submit_leads (h : Rests m line)
    (hrel : (transactionOf slave buffer bytes read restart).releases f line = true) :
    let out := (transactionOf slave buffer bytes read restart).run f line
    ∃ n m', n ≤ bytes.toNat + 3 ∧
      Leads f (submit slave buffer bytes read restart m) n (eventOf read out.1) m' ∧
      Rests m' out.2 ∧ m'.channel.ctrl.pBuff = overlay buffer 0 (out.1.getD []) := by
  obtain ⟨ch, haddr, hextend⟩ := submit_addressing f slave buffer bytes read restart h
  have hbyte := addressByte_transactionOf slave buffer bytes read restart
  cases read with
  | false =>
    have hrun := Transaction.run_write f (transactionOf slave buffer bytes false restart) line rfl
    rw [hbyte] at hrun
    obtain ⟨n, m', hn, hleads, hrests, hbuf⟩ :=
      write_leads f slave buffer bytes restart (line.opened f) haddr
    obtain ⟨n', hn', hall⟩ := hextend n _ m' hleads
    refine ⟨n', m', by omega, ?_⟩
    rw [hrun]
    split
    · rename_i hok
      rw [if_pos hok] at hall hrests
      exact ⟨hall, hrests, hbuf⟩
    · rename_i hno
      rw [if_neg hno] at hall hrests
      exact ⟨hall, hrests, hbuf⟩
  | true =>
    cases hlow : (f.clock (addressOf slave true) false (line.opened f)).1.low with
    | false =>
      have hrun := Transaction.run_read_refused f (transactionOf slave buffer bytes true restart) line
        (by rw [hbyte, hlow])
      obtain ⟨m', hleads, hrests, hbuf⟩ :=
        read_refused f slave buffer bytes restart haddr rfl hlow
      obtain ⟨n', hn', hall⟩ := hextend 2 _ m' hleads
      rw [hrun, hbyte]
      exact ⟨n', m', by omega, hall, hrests, hbuf⟩
    | true =>
      have hrun := Transaction.run_read f (transactionOf slave buffer bytes true restart) line rfl
        (by rw [hbyte, hlow])
      rw [hbyte] at hrun
      have hquiet : f.releases bytes.toNat (f.clock (addressOf slave true) false (line.opened f)).2 =
          true := by
        have hboth : (!(f.clock (addressOf slave true) false (line.opened f)).1.low ||
            f.releases bytes.toNat (f.clock (addressOf slave true) false (line.opened f)).2) = true := by
          rw [← hbyte]
          exact hrel
        rwa [hlow] at hboth
      obtain ⟨m', hleads, hrests, hbuf⟩ :=
        read_leads f slave buffer bytes restart haddr rfl hlow hquiet
      obtain ⟨n', hn', hall⟩ := hextend _ _ m' hleads
      rw [hrun]
      exact ⟨n', m', hn', hall, hrests, hbuf⟩

end Message

end Mlx90640.Bus.Controller
