import Mlx90640.Bus.Controller
import Mlx90640.Bus.Transfer
import Mlx90640.Rtos.Event

/-!
# Message lists over the interrupt-driven master

`ra_i2c_mst_xfer` hands one message after the other to the channel and waits for the
callback's event. The thread and the interrupts run in any order: the callback may come
before the thread asks for the event, or wake it up. `exchange` is the same list of messages
as plain transactions on the bus.
-/
namespace Mlx90640.Bus.Driver

open Mlx90640.Lib.OpenDrain
open Mlx90640.Bus.Transfer
open Mlx90640.Bus.Controller
open Mlx90640.Rtos.Event

def RT_I2C_ADDR_10BIT : UInt16 := 0x0004

def RA_SCI_EVENT_ABORTED : UInt32 := 0x1
def RA_SCI_EVENT_RX_COMPLETE : UInt32 := 0x2
def RA_SCI_EVENT_TX_COMPLETE : UInt32 := 0x4
def RA_SCI_EVENT_ERROR : UInt32 := 0x8
def RA_SCI_EVENT_ALL : UInt32 := 0xF

/-- `sci_i2c_irq_callback`: the bit that it sends. -/
def irqCallback : MasterEvent → UInt32
  | .aborted => RA_SCI_EVENT_ABORTED
  | .rxComplete => RA_SCI_EVENT_RX_COMPLETE
  | .txComplete => RA_SCI_EVENT_TX_COMPLETE

variable {σ : Type}

/-- The memory that `msg->buf` points to. -/
def bufferOf (msg : I2CMsg) : Nat → UInt8 := fun i => msg.buf.getD i 0

def isRead (msg : I2CMsg) : Bool := msg.flags &&& RT_I2C_RD != 0

def keepsBus (msg : I2CMsg) : Bool := msg.flags &&& RT_I2C_NO_STOP != 0

/-- The body of the loop up to the wait. -/
def startMessage (msg : I2CMsg) (m : Machine σ) : Machine σ :=
  let addrMode := if msg.flags &&& RT_I2C_ADDR_10BIT ≠ 0 then AddrMode.tenBit else .sevenBit
  let channel := m.channel.slaveAddressSet msg.addr.toUInt32 addrMode
  ⟨channel.masterTransfer (bufferOf msg) msg.len.toUInt32 (isRead msg) (keepsBus msg), m.follower⟩

/-- The buffer of a message once the thread goes on. -/
def contents (msg : I2CMsg) (m : Machine σ) : List UInt8 :=
  (List.range msg.len.toNat).map m.channel.ctrl.pBuff

/-- Where the thread is in `ra_i2c_mst_xfer`: `i` messages are done, and `bufs` are the
buffers of those that were begun. -/
inductive Thread where
  | start (i : Nat) (left : List I2CMsg) (bufs : List (List UInt8))
  | wait (i : Nat) (msg : I2CMsg) (left : List I2CMsg) (bufs : List (List UInt8))
  | asleep (i : Nat) (msg : I2CMsg) (left : List I2CMsg) (bufs : List (List UInt8))
  | returned (i : Nat) (bufs : List (List UInt8))
  deriving DecidableEq, Repr

structure System (σ : Type) where
  machine : Machine σ
  event : RtEvent
  thread : Thread

/-- The rest of `ra_wait_complete` for the bits that were received, and of the loop's body. -/
def proceed (recved : UInt32) (i : Nat) (msg : I2CMsg) (left : List I2CMsg)
    (bufs : List (List UInt8)) (m : Machine σ) : Thread :=
  let bufs := bufs ++ [contents msg m]
  if recved &&& (RA_SCI_EVENT_ABORTED ||| RA_SCI_EVENT_ERROR) = 0 then .start (i + 1) left bufs
  else .returned i bufs

/-- The bus lock lets one thread at a time in. -/
def self : Nat := 0

/-- A thread that sleeps in `ra_wait_complete` and is given its bits. -/
def wake (resumed : List Reception) (m : Machine σ) : Thread → Thread
  | .asleep i msg left bufs =>
    match resumed.find? (fun r => r.thread == self) with
    | some r => proceed r.recved i msg left bufs m
    | none => .asleep i msg left bufs
  | t => t

inductive Action where
  | thread | interrupt | timeout
  deriving DecidableEq, Repr

/-- One step of the thread, one interrupt, or the expiry of the 400 ms. -/
def step (f : Follower σ) (prio : UInt8) (a : Action) (sys : System σ) : Option (System σ) :=
  match a with
  | .thread =>
    match sys.thread with
    | .start i [] bufs => some { sys with thread := .returned i bufs }
    | .start i (msg :: left) bufs =>
      some { sys with machine := startMessage msg sys.machine, thread := .wait i msg left bufs }
    | .wait i msg left bufs =>
      match rtEventRecv self prio RA_SCI_EVENT_ALL (RT_EVENT_FLAG_OR ||| RT_EVENT_FLAG_CLEAR) 400
        sys.event with
      | none => none
      | some (.ok r, event) =>
        some { sys with event := event, thread := proceed r.recved i msg left bufs sys.machine }
      | some (.suspended, event) =>
        some { sys with event := event, thread := .asleep i msg left bufs }
      | some (.failed, event) =>
        some { sys with
          event := event, thread := .returned i (bufs ++ [contents msg sys.machine]) }
    | .asleep .. => none
    | .returned .. => none
  | .interrupt =>
    match interrupt f sys.machine with
    | none => none
    | some (none, m) => some { sys with machine := m }
    | some (some e, m) =>
      let sent := rtEventSend (irqCallback e) sys.event
      some ⟨m, sent.2.2, wake sent.2.1 m sys.thread⟩
  | .timeout =>
    match sys.thread with
    | .asleep i msg _ bufs =>
      some { sys with
        event := threadTimeout self sys.event
        thread := .returned i (bufs ++ [contents msg sys.machine]) }
    | _ => none

def run (f : Follower σ) (prio : UInt8) : List Action → System σ → Option (System σ)
  | [], sys => some sys
  | a :: acts, sys => (step f prio a sys).bind (run f prio acts)

/-- What a message asks of the bus. -/
def transaction (msg : I2CMsg) : Transaction :=
  transactionOf msg.addr.toUInt32 (bufferOf msg) msg.len.toUInt32 (isRead msg) (keepsBus msg)

theorem addressByte_transaction (msg : I2CMsg) :
    (transaction msg).addressByte = addressOf msg.addr.toUInt32 (isRead msg) :=
  addressByte_transactionOf _ _ _ _ _

theorem payload_write {msg : I2CMsg} (h : isRead msg = false) (hlen : msg.len.toNat = msg.buf.length) :
    (transaction msg).payload = .write msg.buf := by
  have hbuf : (List.range msg.buf.length).map (bufferOf msg) = msg.buf := by
    refine List.ext_getElem (by simp) fun i h₁ h₂ => ?_
    simp [bufferOf, h₂]
  simp only [transaction, transactionOf, h, UInt16.toNat_toUInt32, hlen, hbuf]
  rfl

theorem payload_read {msg : I2CMsg} (h : isRead msg = true) :
    (transaction msg).payload = .read msg.len.toNat := by
  simp only [transaction, transactionOf, h, UInt16.toNat_toUInt32, if_true]

/-- The buffer of a message after its transaction. -/
def stored (msg : I2CMsg) (out : Option (List UInt8)) : List UInt8 :=
  (List.range msg.len.toNat).map (overlay (bufferOf msg) 0 (out.getD []))

/-- How many messages were completed, the buffers of those that were begun, and the bus. -/
structure Outcome (σ : Type) where
  ret : Nat
  buffers : List (List UInt8)
  line : Line σ

/-- The messages one after the other, up to the first that is refused. -/
def exchange (f : Follower σ) : List I2CMsg → Line σ → Outcome σ
  | [], line => ⟨0, [], line⟩
  | msg :: msgs, line =>
    let out := (transaction msg).run f line
    let rest := exchange f msgs out.2
    if out.1.isSome then ⟨rest.ret + 1, stored msg out.1 :: rest.buffers, rest.line⟩
    else ⟨0, [stored msg out.1], out.2⟩

/-- In no message that is begun does the follower disturb the acknowledgement of the last
byte that it sends. -/
def courteous (f : Follower σ) : List I2CMsg → Line σ → Bool
  | [], _ => true
  | msg :: msgs, line =>
    let out := (transaction msg).run f line
    (transaction msg).releases f line && (out.1.isNone || courteous f msgs out.2)

/-- Nothing is posted and nobody waits. -/
def quiet : RtEvent := rtEventInit .prio

/-- The callback came before the thread asked. -/
def posted (e : MasterEvent) : RtEvent := { quiet with set := irqCallback e }

/-- The thread waits for the callback. -/
def sleeping (prio : UInt8) : RtEvent :=
  { quiet with
    suspendThread :=
      [⟨self, prio, RA_SCI_EVENT_ALL, RT_EVENT_FLAG_OR ||| RT_EVENT_FLAG_CLEAR, true⟩] }

theorem recv_quiet (prio : UInt8) :
    rtEventRecv self prio RA_SCI_EVENT_ALL (RT_EVENT_FLAG_OR ||| RT_EVENT_FLAG_CLEAR) 400 quiet =
      some (.suspended, sleeping prio) := rfl

theorem recv_posted (prio : UInt8) (e : MasterEvent) :
    rtEventRecv self prio RA_SCI_EVENT_ALL (RT_EVENT_FLAG_OR ||| RT_EVENT_FLAG_CLEAR) 400 (posted e) =
      some (.ok ⟨self, RA_SCI_EVENT_ALL, RT_EVENT_FLAG_OR ||| RT_EVENT_FLAG_CLEAR, irqCallback e⟩,
        quiet) := by
  cases e <;> rfl

theorem send_quiet (e : MasterEvent) :
    (rtEventSend (irqCallback e) quiet).2 = ([], posted e) := by
  cases e <;> rfl

theorem send_sleeping (prio : UInt8) (e : MasterEvent) :
    (rtEventSend (irqCallback e) (sleeping prio)).2 =
      ([⟨self, RA_SCI_EVENT_ALL, RT_EVENT_FLAG_OR ||| RT_EVENT_FLAG_CLEAR, irqCallback e⟩], quiet) := by
  have hne : irqCallback e ≠ 0 := by cases e <;> decide
  have hyes : answers (quiet.set ||| irqCallback e) RA_SCI_EVENT_ALL
      (RT_EVENT_FLAG_OR ||| RT_EVENT_FLAG_CLEAR) = some true := by cases e <;> decide
  have hgot : Suspended.received (quiet.set ||| irqCallback e)
      ⟨self, prio, RA_SCI_EVENT_ALL, RT_EVENT_FLAG_OR ||| RT_EVENT_FLAG_CLEAR, true⟩ =
      irqCallback e := by
    have hor : ¬ (RT_EVENT_FLAG_OR ||| RT_EVENT_FLAG_CLEAR) &&& RT_EVENT_FLAG_AND ≠ 0 := by decide
    have hbits : RA_SCI_EVENT_ALL &&& (quiet.set ||| irqCallback e) = irqCallback e := by
      cases e <;> decide
    simp only [Suspended.received, if_neg hor, hbits]
  have hclear : (RT_EVENT_FLAG_OR ||| RT_EVENT_FLAG_CLEAR) &&& RT_EVENT_FLAG_CLEAR ≠ 0 := by decide
  have hleft : (quiet.set ||| irqCallback e) &&& ~~~(irqCallback e ||| 0) = 0 := by
    cases e <;> decide
  rw [rtEventSend, if_neg hne]
  simp only [sleeping, walk, hyes, hgot, if_pos hclear, if_true, hleft]
  rfl

/-- From here the system ends with `total` after at most `k` steps, whatever their order, as
long as the wait does not expire. -/
inductive Ends (f : Follower σ) (prio : UInt8) (total : Outcome σ) : Nat → System σ → Prop where
  | returned {m : Machine σ} (hrest : Rests m total.line) :
      Ends f prio total 0 ⟨m, quiet, .returned total.ret total.buffers⟩
  | last {m : Machine σ} (hrest : Rests m total.line) :
      Ends f prio total 1 ⟨m, quiet, .start total.ret [] total.buffers⟩
  | start {m : Machine σ} {k i : Nat} {msg : I2CMsg} {left : List I2CMsg}
      {bufs : List (List UInt8)} (hidle : m.channel.reg.request = none)
      (h : Ends f prio total k ⟨startMessage msg m, quiet, .wait i msg left bufs⟩) :
      Ends f prio total (k + 1) ⟨m, quiet, .start i (msg :: left) bufs⟩
  | busy {m m' : Machine σ} {n k i : Nat} {e : MasterEvent} {msg : I2CMsg} {left : List I2CMsg}
      {bufs : List (List UInt8)} (hleads : Leads f m n e m')
      (hidle : m'.channel.reg.request = none)
      (h : Ends f prio total k ⟨m', quiet, proceed (irqCallback e) i msg left bufs m'⟩) :
      Ends f prio total (n + 1 + k) ⟨m, quiet, .wait i msg left bufs⟩
  | asleep {m m' : Machine σ} {n k i : Nat} {e : MasterEvent} {msg : I2CMsg} {left : List I2CMsg}
      {bufs : List (List UInt8)} (hleads : Leads f m n e m')
      (hidle : m'.channel.reg.request = none)
      (h : Ends f prio total k ⟨m', quiet, proceed (irqCallback e) i msg left bufs m'⟩) :
      Ends f prio total (n + k) ⟨m, sleeping prio, .asleep i msg left bufs⟩
  | posted {m : Machine σ} {k i : Nat} {e : MasterEvent} {msg : I2CMsg} {left : List I2CMsg}
      {bufs : List (List UInt8)} (hidle : m.channel.reg.request = none)
      (h : Ends f prio total k ⟨m, quiet, proceed (irqCallback e) i msg left bufs m⟩) :
      Ends f prio total (1 + k) ⟨m, Driver.posted e, .wait i msg left bufs⟩

theorem interrupt_idle (f : Follower σ) {m : Machine σ} (h : m.channel.reg.request = none) :
    interrupt f m = none := by
  simp only [interrupt, h]

theorem leads_interrupt {f : Follower σ} {m m' : Machine σ} {n : Nat} {e : MasterEvent}
    (h : Leads f m n e m') :
    (n = 1 ∧ interrupt f m = some (some e, m')) ∨
      ∃ n' m₁, n = n' + 1 ∧ interrupt f m = some (none, m₁) ∧ Leads f m₁ n' e m' := by
  cases h with
  | notify h => exact Or.inl ⟨rfl, h⟩
  | next h rest => exact Or.inr ⟨_, _, rfl, h, rest⟩

/-- Every step leads closer to the end. -/
theorem Ends.step {f : Follower σ} {prio : UInt8} {total : Outcome σ} {k : Nat}
    {sys sys' : System σ} {a : Action} (h : Ends f prio total k sys) (ha : a ≠ .timeout)
    (hs : Driver.step f prio a sys = some sys') : ∃ k', k' < k ∧ Ends f prio total k' sys' := by
  cases a with
  | timeout => exact absurd rfl ha
  | thread =>
    cases h with
    | returned hrest => cases hs
    | last hrest =>
      cases hs
      exact ⟨0, Nat.one_pos, .returned hrest⟩
    | start hidle hnext =>
      cases hs
      exact ⟨_, Nat.lt_succ_self _, hnext⟩
    | busy hleads hidle hnext =>
      simp only [Driver.step, recv_quiet] at hs
      cases hs
      exact ⟨_, by omega, .asleep hleads hidle hnext⟩
    | asleep hleads hidle hnext => cases hs
    | posted hidle hnext =>
      simp only [Driver.step, recv_posted] at hs
      cases hs
      exact ⟨_, by omega, hnext⟩
  | interrupt =>
    cases h with
    | returned hrest =>
      simp only [Driver.step, interrupt_idle f hrest.request] at hs
      cases hs
    | last hrest =>
      simp only [Driver.step, interrupt_idle f hrest.request] at hs
      cases hs
    | start hidle hnext =>
      simp only [Driver.step, interrupt_idle f hidle] at hs
      cases hs
    | busy hleads hidle hnext =>
      obtain ⟨rfl, hint⟩ | ⟨n', m₁, rfl, hint, hrest⟩ := leads_interrupt hleads
      · simp only [Driver.step, hint, send_quiet] at hs
        cases hs
        exact ⟨_, by omega, .posted hidle hnext⟩
      · simp only [Driver.step, hint] at hs
        cases hs
        exact ⟨_, by omega, .busy hrest hidle hnext⟩
    | asleep hleads hidle hnext =>
      obtain ⟨rfl, hint⟩ | ⟨n', m₁, rfl, hint, hrest⟩ := leads_interrupt hleads
      · simp only [Driver.step, hint, send_sleeping] at hs
        cases hs
        exact ⟨_, by omega, hnext⟩
      · simp only [Driver.step, hint] at hs
        cases hs
        exact ⟨_, by omega, .asleep hrest hidle hnext⟩
    | posted hidle hnext =>
      simp only [Driver.step, interrupt_idle f hidle] at hs
      cases hs

theorem Ends.progress {f : Follower σ} {prio : UInt8} {total : Outcome σ} {k : Nat}
    {sys : System σ} (h : Ends f prio total k sys) :
    ((∀ i bufs, sys.thread ≠ .returned i bufs) ∧
      ∃ a, a ≠ Action.timeout ∧ (Driver.step f prio a sys).isSome) ∨
      (sys.thread = .returned total.ret total.buffers ∧ Rests sys.machine total.line ∧
        sys.event = quiet) := by
  cases h with
  | returned hrest => exact Or.inr ⟨rfl, hrest, rfl⟩
  | last hrest => exact Or.inl ⟨fun _ _ => nofun, .thread, by decide, rfl⟩
  | start hidle hnext => exact Or.inl ⟨fun _ _ => nofun, .thread, by decide, rfl⟩
  | busy hleads hidle hnext =>
    refine Or.inl ⟨fun _ _ => nofun, .thread, by decide, ?_⟩
    simp only [Driver.step, recv_quiet]
    rfl
  | asleep hleads hidle hnext =>
    refine Or.inl ⟨fun _ _ => nofun, .interrupt, by decide, ?_⟩
    obtain ⟨rfl, hint⟩ | ⟨n', m₁, rfl, hint, hrest⟩ := leads_interrupt hleads
    · simp only [Driver.step, hint]
      rfl
    · simp only [Driver.step, hint]
      rfl
  | posted hidle hnext =>
    refine Or.inl ⟨fun _ _ => nofun, .thread, by decide, ?_⟩
    simp only [Driver.step, recv_posted]
    rfl

/-- At most this many steps for a list of messages. -/
def cost (msgs : List I2CMsg) : Nat := (msgs.map fun msg => msg.len.toNat + 5).sum + 1

theorem startMessage_eq_submit {msg : I2CMsg} (h : msg.flags &&& RT_I2C_ADDR_10BIT = 0)
    (m : Machine σ) :
    startMessage msg m = submit msg.addr.toUInt32 (bufferOf msg) msg.len.toUInt32 (isRead msg)
      (keepsBus msg) m := by
  simp only [startMessage, submit, h, ne_eq, not_true_eq_false, if_false]

/-- The thread takes a refusal for one, and everything else for a success. -/
theorem proceed_eventOf (msg : I2CMsg) (out : Option (List UInt8)) (i : Nat) (left : List I2CMsg)
    (bufs : List (List UInt8)) (m : Machine σ) :
    proceed (irqCallback (eventOf (isRead msg) out)) i msg left bufs m =
      if out.isSome then .start (i + 1) left (bufs ++ [contents msg m])
      else .returned i (bufs ++ [contents msg m]) := by
  cases out with
  | none =>
    have hrefused : ¬ irqCallback .aborted &&& (RA_SCI_EVENT_ABORTED ||| RA_SCI_EVENT_ERROR) = 0 := by
      decide
    rw [eventOf, proceed, if_neg hrefused]
    rfl
  | some bytes =>
    have hdone : irqCallback (if isRead msg then .rxComplete else .txComplete) &&&
        (RA_SCI_EVENT_ABORTED ||| RA_SCI_EVENT_ERROR) = 0 := by
      cases isRead msg <;> decide
    rw [eventOf, proceed, if_pos hdone]
    rfl

theorem ends_start (f : Follower σ) (prio : UInt8) (left : List I2CMsg) :
    ∀ (i : Nat) (bufs : List (List UInt8)) (m : Machine σ) (line : Line σ), Rests m line →
      courteous f left line = true → (∀ msg ∈ left, msg.flags &&& RT_I2C_ADDR_10BIT = 0) →
      ∃ k ≤ cost left,
        Ends f prio ⟨i + (exchange f left line).ret, bufs ++ (exchange f left line).buffers,
          (exchange f left line).line⟩ k ⟨m, quiet, .start i left bufs⟩ := by
  induction left with
  | nil =>
    intro i bufs m line hrest _ _
    refine ⟨1, Nat.le_refl _, ?_⟩
    simp only [exchange, List.append_nil, Nat.add_zero]
    exact .last hrest
  | cons msg left ih =>
    intro i bufs m line hrest hq hseven
    have hsubmit := startMessage_eq_submit (hseven msg List.mem_cons_self) m
    rw [courteous, Bool.and_eq_true] at hq
    obtain ⟨n, m', hn, hleads, hrests, hbuf⟩ := submit_leads f msg.addr.toUInt32 (bufferOf msg)
      msg.len.toUInt32 (isRead msg) (keepsBus msg) hrest hq.1
    have hlength : msg.len.toUInt32.toNat = msg.len.toNat := UInt16.toNat_toUInt32 _
    have hcontents : contents msg m' = stored msg ((transaction msg).run f line).1 := by
      rw [contents, hbuf]
      rfl
    have hcost : cost (msg :: left) = msg.len.toNat + 5 + cost left := by
      simp only [cost, List.map_cons, List.sum_cons]
      omega
    rw [← hsubmit] at hleads
    have hnext := proceed_eventOf msg ((transaction msg).run f line).1 i left bufs m'
    rw [hcontents] at hnext
    rw [exchange]
    cases hout : ((transaction msg).run f line).1 with
    | none =>
      rw [hout] at hnext
      refine ⟨n + 1 + 0 + 1, by omega, .start hrest.request (.busy hleads hrests.request ?_)⟩
      show Ends f prio _ 0 ⟨m', quiet, proceed (irqCallback (eventOf (isRead msg)
        ((transaction msg).run f line).1)) i msg left bufs m'⟩
      rw [hout, hnext]
      exact .returned hrests
    | some bytes =>
      rw [hout] at hnext
      have hleft : courteous f left ((transaction msg).run f line).2 = true := by
        have hor := hq.2
        rwa [hout, Option.isNone_some, Bool.false_or] at hor
      obtain ⟨k, hk, hends⟩ := ih (i + 1) (bufs ++ [stored msg (some bytes)]) m'
        ((transaction msg).run f line).2 hrests hleft
        (fun u hu => hseven u (List.mem_cons_of_mem _ hu))
      refine ⟨n + 1 + k + 1, by omega, .start hrest.request (.busy hleads hrests.request ?_)⟩
      show Ends f prio _ k ⟨m', quiet, proceed (irqCallback (eventOf (isRead msg)
        ((transaction msg).run f line).1)) i msg left bufs m'⟩
      rw [hout, hnext]
      simp only [Option.isSome_some, if_true]
      rw [List.append_assoc, List.singleton_append, Nat.add_assoc, Nat.add_comm 1] at hends
      exact hends

theorem Ends.run {f : Follower σ} {prio : UInt8} {total : Outcome σ} {k : Nat}
    {sys sys' : System σ} {acts : List Action} (h : Ends f prio total k sys)
    (hacts : Action.timeout ∉ acts) (hrun : Driver.run f prio acts sys = some sys') :
    ∃ k', k' + acts.length ≤ k ∧ Ends f prio total k' sys' := by
  induction acts generalizing k sys with
  | nil =>
    cases hrun
    exact ⟨k, Nat.le_refl _, h⟩
  | cons a acts ih =>
    rw [Driver.run] at hrun
    cases hs : Driver.step f prio a sys with
    | none =>
      rw [hs] at hrun
      cases hrun
    | some mid =>
      rw [hs, Option.bind_some] at hrun
      have ha : a ≠ .timeout := fun heq => hacts (heq ▸ List.mem_cons_self)
      obtain ⟨k₁, hk₁, hmid⟩ := h.step ha hs
      obtain ⟨k₂, hk₂, hlast⟩ := ih hmid (fun hmem => hacts (List.mem_cons_of_mem _ hmem)) hrun
      refine ⟨k₂, ?_, hlast⟩
      rw [List.length_cons]
      omega

theorem run_ends (f : Follower σ) (prio : UInt8) {msgs : List I2CMsg} {m : Machine σ}
    {line : Line σ} (hrest : Rests m line) (hq : courteous f msgs line = true)
    (hseven : ∀ msg ∈ msgs, msg.flags &&& RT_I2C_ADDR_10BIT = 0) {acts : List Action}
    (hacts : Action.timeout ∉ acts) {sys : System σ}
    (hrun : Driver.run f prio acts ⟨m, quiet, .start 0 msgs []⟩ = some sys) :
    ∃ k, k + acts.length ≤ cost msgs ∧ Ends f prio (exchange f msgs line) k sys := by
  obtain ⟨k, hk, hends⟩ := ends_start f prio msgs 0 [] m line hrest hq hseven
  rw [Nat.zero_add, List.nil_append] at hends
  obtain ⟨k', hk', hlast⟩ := hends.run hacts hrun
  exact ⟨k', Nat.le_trans hk' hk, hlast⟩

/-- A follower with one byte of memory: it keeps the last byte that it was sent and sends it back.
It acknowledges its address and what it is sent; in a read the acknowledgements are the master's. -/
def echo : Follower (Option Bool × UInt8) where
  start s := (none, s.2)
  stop s := s
  drives s := if s.1 = some true then s.2 else 0xFF
  pulls s _ := s.1 != some true
  next s b _ :=
    match s.1 with
    | none => (some (b &&& 1 == 1), s.2)
    | some false => (some false, b)
    | some true => s

/-- Two bytes to the echo and, after a repeated start, two bytes back. -/
def echoMsgs : List I2CMsg :=
  [⟨0x33, RT_I2C_WR ||| RT_I2C_NO_STOP, 2, [0x24, 0x07]⟩, ⟨0x33, RT_I2C_RD, 2, [0x00, 0x00]⟩]

/-- The bytes of the read messages, one after the other. -/
def received (msgs : List I2CMsg) (buffers : List (List UInt8)) : List UInt8 :=
  ((msgs.zip buffers).filter fun p => isRead p.1).flatMap Prod.snd

theorem length_stored (msg : I2CMsg) (out : Option (List UInt8)) :
    (stored msg out).length = msg.len.toNat := by
  simp [stored]

theorem received_cons (msg : I2CMsg) (msgs : List I2CMsg) (buf : List UInt8)
    (bufs : List (List UInt8)) :
    received (msg :: msgs) (buf :: bufs) = (if isRead msg then buf else []) ++ received msgs bufs := by
  cases hr : isRead msg <;> simp [received, hr]

theorem readLength_cons (msg : I2CMsg) (msgs : List I2CMsg) :
    readLength (msg :: msgs) = (if isRead msg then msg.len.toNat else 0) + readLength msgs := by
  by_cases hflag : msg.flags &&& RT_I2C_RD = 0 <;> simp [readLength, isRead, hflag]

theorem length_received (f : Follower σ) (msgs : List I2CMsg) (line : Line σ)
    (h : (exchange f msgs line).ret = msgs.length) :
    (received msgs (exchange f msgs line).buffers).length = readLength msgs := by
  induction msgs generalizing line with
  | nil => rfl
  | cons msg msgs ih =>
    rw [exchange] at h ⊢
    split at h
    · rename_i hsome
      rw [if_pos hsome]
      have hrest := ih ((transaction msg).run f line).2 (Nat.succ.inj h)
      simp only [received_cons, readLength_cons, List.length_append, hrest]
      cases isRead msg <;> simp [length_stored]
    · simp at h

/-- `rt_i2c_transfer` over the master, for what hangs on the line. -/
def lineBus (f : Follower σ) (indeterminate : Line σ → Local → UInt16) : I2CBus (Line σ) where
  transfer msgs line :=
    (⟨(exchange f msgs line).ret, received msgs (exchange f msgs line).buffers⟩,
      (exchange f msgs line).line)
  indeterminate := indeterminate
  full msgs line h := length_received f msgs line (Int.ofNat.inj h)

end Mlx90640.Bus.Driver
