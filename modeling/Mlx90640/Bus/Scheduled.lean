import Mlx90640.Bus.Simulation
import Mathlib.Tactic.IntervalCases

/-!
# A bus whose transfers take many steps

Behind one call of `rt_i2c_transfer` the thread and the interrupts of the channel take many
steps. A scheduler says whose step is next in every call; a transfer over its bus is a run of the
driver's system. Whatever the scheduler, that bus simulates the one whose transfers are single
steps.
-/
namespace Mlx90640.Bus.Scheduled

open Mlx90640.Lib.OpenDrain
open Mlx90640.Lib.Simulation
open Mlx90640.Bus.Transfer
open Mlx90640.Bus.Controller
open Mlx90640.Bus.Driver
open Mlx90640.Bus.Registers
open Mlx90640.Bus.Simulation
open Mlx90640.Rtos.Event

variable {σ : Type}

/-- Whose step is next in the `n`-th call, for any machine and messages that it starts with. No
wait expires, and a call on a channel at rest comes to its end. -/
structure Scheduler (f : Follower σ) (prio : UInt8) where
  turns : Nat → Machine σ → List I2CMsg → List Action
  patient : ∀ n m msgs, Action.timeout ∉ turns n m msgs
  finishes : ∀ n m line msgs, Rests m line → courteous f msgs line = true →
    (∀ msg ∈ msgs, msg.flags &&& RT_I2C_ADDR_10BIT = 0) →
    ∃ sys i bufs, Driver.run f prio (turns n m msgs) ⟨m, quiet, .start 0 msgs []⟩ = some sys ∧
      sys.thread = .returned i bufs

/-- What is left between two calls: the channel and its follower, the event, and the number of
calls so far. -/
structure Wire (σ : Type) where
  machine : Machine σ
  event : RtEvent
  calls : Nat

/-- The bus as the channel knows it. -/
def Wire.line (s : Wire σ) : Line σ := ⟨s.machine.channel.ctrl.restarted, s.machine.follower⟩

variable (f : Follower σ) (prio : UInt8)

/-- A call under the scheduler. A call that the scheduler leaves unfinished reports no message. -/
def transfer (scheduler : Scheduler f prio) (msgs : List I2CMsg) (s : Wire σ) :
    I2CResult × Wire σ :=
  match Driver.run f prio (scheduler.turns s.calls s.machine msgs)
    ⟨s.machine, s.event, .start 0 msgs []⟩ with
  | none => (⟨-1, []⟩, s)
  | some sys =>
    match sys.thread with
    | .returned i bufs => (⟨i, received msgs bufs⟩, ⟨sys.machine, sys.event, s.calls + 1⟩)
    | _ => (⟨-1, []⟩, ⟨sys.machine, sys.event, s.calls + 1⟩)

/-- The buffers have the lengths that their messages ask for. -/
def Filled (done : List I2CMsg) (bufs : List (List UInt8)) : Prop :=
  bufs.map List.length = done.map fun msg => msg.len.toNat

/-- Where a call for `msgs` can be: the messages before are done and their buffers are filled. -/
inductive Tracks (msgs : List I2CMsg) : Thread → Prop where
  | start {done left : List I2CMsg} {bufs : List (List UInt8)} (hmsgs : msgs = done ++ left)
      (h : Filled done bufs) : Tracks msgs (.start done.length left bufs)
  | wait {done left : List I2CMsg} {msg : I2CMsg} {bufs : List (List UInt8)}
      (hmsgs : msgs = done ++ msg :: left) (h : Filled done bufs) :
      Tracks msgs (.wait done.length msg left bufs)
  | asleep {done left : List I2CMsg} {msg : I2CMsg} {bufs : List (List UInt8)}
      (hmsgs : msgs = done ++ msg :: left) (h : Filled done bufs) :
      Tracks msgs (.asleep done.length msg left bufs)
  | completed {bufs : List (List UInt8)} (h : Filled msgs bufs) :
      Tracks msgs (.returned msgs.length bufs)
  | refused {i : Nat} {bufs : List (List UInt8)} (h : i < msgs.length) :
      Tracks msgs (.returned i bufs)

theorem length_contents (msg : I2CMsg) (m : Machine σ) :
    (contents msg m).length = msg.len.toNat := by
  simp [contents]

theorem Filled.snoc {done : List I2CMsg} {bufs : List (List UInt8)} (h : Filled done bufs)
    (msg : I2CMsg) (m : Machine σ) : Filled (done ++ [msg]) (bufs ++ [contents msg m]) := by
  unfold Filled at h ⊢
  rw [List.map_append, List.map_append, h, List.map_singleton, List.map_singleton, length_contents]

theorem length_lt {msgs done left : List I2CMsg} {msg : I2CMsg} (h : msgs = done ++ msg :: left) :
    done.length < msgs.length := by
  rw [h, List.length_append, List.length_cons]
  omega

theorem proceed_tracks {msgs done left : List I2CMsg} {msg : I2CMsg} {bufs : List (List UInt8)}
    (hmsgs : msgs = done ++ msg :: left) (h : Filled done bufs) (recved : UInt32) (m : Machine σ) :
    Tracks msgs (proceed recved done.length msg left bufs m) := by
  unfold proceed
  dsimp only
  split
  · have hmore : msgs = (done ++ [msg]) ++ left := by
      rw [hmsgs, List.append_assoc, List.singleton_append]
    have hnext := Tracks.start hmore (h.snoc msg m)
    rwa [List.length_append] at hnext
  · exact .refused (length_lt hmsgs)

theorem wake_tracks {msgs : List I2CMsg} {t : Thread} (h : Tracks msgs t)
    (resumed : List Reception) (m : Machine σ) : Tracks msgs (wake resumed m t) := by
  cases h with
  | asleep hmsgs h =>
    unfold wake
    dsimp only
    split
    · exact proceed_tracks hmsgs h _ m
    · exact .asleep hmsgs h
  | start hmsgs h => exact .start hmsgs h
  | wait hmsgs h => exact .wait hmsgs h
  | completed h => exact .completed h
  | refused h => exact .refused h

/-- One step, whatever state the channel and the event are in. -/
theorem step_tracks {msgs : List I2CMsg} {a : Action} {sys sys' : System σ}
    (h : Tracks msgs sys.thread) (hs : Driver.step f prio a sys = some sys') :
    Tracks msgs sys'.thread := by
  obtain ⟨m, event, t⟩ := sys
  cases a with
  | thread =>
    cases h with
    | @start done left bufs hmsgs h =>
      cases left with
      | nil =>
        cases hs
        rw [List.append_nil] at hmsgs
        subst hmsgs
        exact .completed h
      | cons msg left =>
        cases hs
        exact .wait hmsgs h
    | wait hmsgs h =>
      simp only [Driver.step] at hs
      split at hs
      · cases hs
      · cases hs
        exact proceed_tracks hmsgs h _ m
      · cases hs
        exact .asleep hmsgs h
      · cases hs
        exact .refused (length_lt hmsgs)
    | asleep hmsgs h => cases hs
    | completed h => cases hs
    | refused h => cases hs
  | interrupt =>
    simp only [Driver.step] at hs
    split at hs
    · cases hs
    · cases hs
      exact h
    · cases hs
      exact wake_tracks h _ _
  | timeout =>
    cases h with
    | asleep hmsgs h =>
      cases hs
      exact .refused (length_lt hmsgs)
    | start hmsgs h => cases hs
    | wait hmsgs h => cases hs
    | completed h => cases hs
    | refused h => cases hs

theorem run_tracks {msgs : List I2CMsg} {acts : List Action} {sys sys' : System σ}
    (h : Tracks msgs sys.thread) (hrun : Driver.run f prio acts sys = some sys') :
    Tracks msgs sys'.thread := by
  induction acts generalizing sys with
  | nil =>
    cases hrun
    exact h
  | cons a acts ih =>
    rw [Driver.run] at hrun
    obtain ⟨mid, hstep, hrest⟩ := Option.bind_eq_some_iff.mp hrun
    exact ih (step_tracks f prio h hstep) hrest

theorem length_received_filled {msgs : List I2CMsg} {bufs : List (List UInt8)}
    (h : Filled msgs bufs) : (received msgs bufs).length = readLength msgs := by
  induction msgs generalizing bufs with
  | nil => rfl
  | cons msg msgs ih =>
    cases bufs with
    | nil => cases h
    | cons buf bufs =>
      obtain ⟨hbuf, hbufs⟩ := List.cons.inj h
      rw [received_cons, readLength_cons, List.length_append, ih hbufs]
      cases isRead msg with
      | true => simp only [if_true, hbuf]
      | false => rfl

/-- A call that reports all its messages has got every byte. -/
theorem transfer_full (scheduler : Scheduler f prio) (msgs : List I2CMsg) (s : Wire σ)
    (h : (transfer f prio scheduler msgs s).1.ret = msgs.length) :
    (transfer f prio scheduler msgs s).1.received.length = readLength msgs := by
  have hneg : ¬ (-1 : Int) = msgs.length := by omega
  have hstart : Tracks msgs (Thread.start 0 msgs []) :=
    @Tracks.start msgs [] msgs [] (List.nil_append msgs).symm rfl
  unfold transfer at h ⊢
  cases hrun : Driver.run f prio (scheduler.turns s.calls s.machine msgs)
      ⟨s.machine, s.event, .start 0 msgs []⟩ with
  | none =>
    rw [hrun] at h
    exact absurd h hneg
  | some sys =>
    have htracks := run_tracks f prio hstart hrun
    rw [hrun] at h
    dsimp only at h ⊢
    cases hthread : sys.thread with
    | start i left bufs =>
      rw [hthread] at h
      exact absurd h hneg
    | wait i msg left bufs =>
      rw [hthread] at h
      exact absurd h hneg
    | asleep i msg left bufs =>
      rw [hthread] at h
      exact absurd h hneg
    | returned i bufs =>
      rw [hthread] at h htracks
      have hall : i = msgs.length := Int.ofNat.inj h
      cases htracks with
      | completed hfilled => exact length_received_filled hfilled
      | refused hlt => omega

/-- `rt_i2c_transfer` with the steps of every call in the scheduler's order. -/
def scheduledBus (scheduler : Scheduler f prio) (indeterminate : Line σ → Local → UInt16) :
    I2CBus (Wire σ) where
  transfer := transfer f prio scheduler
  indeterminate s := indeterminate s.line
  full := transfer_full f prio scheduler

/-- As long as the bus is in a state of `ready`, the follower leaves the acknowledgement of the
last byte that it sends to the master, whatever the message. -/
structure Courteous (ready : Line σ → Prop) : Prop where
  releases : ∀ msg line, ready line → (transaction msg).releases f line = true
  next : ∀ msg line, ready line → ready ((transaction msg).run f line).2

variable {f} {ready : Line σ → Prop}

theorem Courteous.courteous (h : Courteous f ready) (msgs : List I2CMsg) {line : Line σ}
    (hready : ready line) : courteous f msgs line = true := by
  induction msgs generalizing line with
  | nil => rfl
  | cons msg msgs ih =>
    simp only [Driver.courteous, h.releases msg line hready, ih (h.next msg line hready),
      Bool.or_true, Bool.and_true]

theorem Courteous.exchange (h : Courteous f ready) (msgs : List I2CMsg) {line : Line σ}
    (hready : ready line) : ready (Driver.exchange f msgs line).line := by
  induction msgs generalizing line with
  | nil => exact hready
  | cons msg msgs ih =>
    rw [Driver.exchange]
    split
    · exact ih (h.next msg line hready)
    · exact h.next msg line hready

/-- Between two calls the channel rests on the line, and nothing is posted. -/
structure Idle (ready : Line σ → Prop) (s : Wire σ) (line : Line σ) : Prop where
  rests : Rests s.machine line
  event : s.event = quiet
  ready : ready line

theorem Idle.line {s : Wire σ} {line : Line σ} (h : Idle ready s line) : s.line = line := by
  obtain ⟨held, follower⟩ := line
  show Line.mk _ _ = _
  rw [h.rests.restarted, h.rests.follower]

/-- The order of the steps inside the transfers does not show. -/
theorem scheduledBus_simulates (hf : Courteous f ready) (scheduler : Scheduler f prio)
    (indeterminate : Line σ → Local → UInt16) :
    Simulates (scheduledBus f prio scheduler indeterminate) (lineBus f indeterminate)
      (Idle ready) where
  transfer msgs hseven s line hidle := by
    obtain ⟨m, event, calls⟩ := s
    obtain ⟨hrests, hevent, hready⟩ := hidle
    dsimp only at hrests hevent
    subst hevent
    have hcourteous := hf.courteous msgs hready
    obtain ⟨sys, i, bufs, hrun, hreturned⟩ :=
      scheduler.finishes calls m line msgs hrests hcourteous hseven
    obtain ⟨k, -, hends⟩ := run_ends f prio hrests hcourteous hseven
      (scheduler.patient calls m msgs) hrun
    obtain ⟨hnot, -⟩ | ⟨hthread, hrests', hquiet⟩ := hends.progress
    · exact absurd hreturned (hnot i bufs)
    · have hcall : transfer f prio scheduler msgs ⟨m, quiet, calls⟩ =
          (⟨(Driver.exchange f msgs line).ret,
            received msgs (Driver.exchange f msgs line).buffers⟩,
            ⟨sys.machine, sys.event, calls + 1⟩) := by
        simp only [transfer, hrun, hthread]
      show Agree _ (transfer f prio scheduler msgs ⟨m, quiet, calls⟩) _
      rw [hcall]
      exact .intro _ ⟨hrests', hquiet, hf.exchange msgs hready⟩
  indeterminate s line hidle l := by
    show indeterminate s.line l = indeterminate line l
    rw [hidle.line]

theorem ends_finish {total : Outcome σ} {k : Nat} {sys : System σ} (h : Ends f prio total k sys) :
    ∃ acts, Action.timeout ∉ acts ∧ ∃ sys', Driver.run f prio acts sys = some sys' ∧
      sys'.thread = .returned total.ret total.buffers := by
  induction k using Nat.strongRecOn generalizing sys with
  | ind k ih =>
    obtain ⟨-, a, ha, hsome⟩ | ⟨hthread, -⟩ := h.progress
    · obtain ⟨next, hstep⟩ := Option.isSome_iff_exists.mp hsome
      obtain ⟨k', hk', hnext⟩ := h.step ha hstep
      obtain ⟨acts, hacts, sys', hrun, hthread⟩ := ih k' hk' hnext
      refine ⟨a :: acts, ?_, sys', ?_, hthread⟩
      · intro hmem
        cases List.mem_cons.mp hmem with
        | inl heq => exact ha heq.symm
        | inr hmem => exact hacts hmem
      · rw [Driver.run, hstep, Option.bind_some, hrun]
    · exact ⟨[], List.not_mem_nil, sys, rfl, hthread⟩

/-- One scheduler for all calls: the steps of each call are some that end it. -/
theorem exists_scheduler (f : Follower σ) (prio : UInt8) : Nonempty (Scheduler f prio) := by
  have hturns : ∀ (m : Machine σ) (msgs : List I2CMsg), ∃ acts, Action.timeout ∉ acts ∧
      ∀ line, Rests m line → courteous f msgs line = true →
        (∀ msg ∈ msgs, msg.flags &&& RT_I2C_ADDR_10BIT = 0) →
        ∃ sys i bufs, Driver.run f prio acts ⟨m, quiet, .start 0 msgs []⟩ = some sys ∧
          sys.thread = .returned i bufs := by
    intro m msgs
    by_cases hline : ∃ line, Rests m line ∧ courteous f msgs line = true ∧
        ∀ msg ∈ msgs, msg.flags &&& RT_I2C_ADDR_10BIT = 0
    · obtain ⟨line, hrests, hcourteous, hseven⟩ := hline
      obtain ⟨k, -, hends⟩ := ends_start f prio msgs 0 [] m line hrests hcourteous hseven
      obtain ⟨acts, hacts, sys, hrun, hthread⟩ := ends_finish prio hends
      exact ⟨acts, hacts, fun _ _ _ _ => ⟨sys, _, _, hrun, hthread⟩⟩
    · exact ⟨[], List.not_mem_nil, fun line hrests hcourteous hseven =>
        absurd ⟨line, hrests, hcourteous, hseven⟩ hline⟩
  choose turns hpatient hfinishes using hturns
  exact ⟨⟨fun _ => turns, fun _ => hpatient, fun _ m line msgs => hfinishes m msgs line⟩⟩

section Device

variable {ρ : Type} (w : Words ρ) (address : UInt8)

/-- While it talks, and after its last byte, the device leaves the ninth bit alone. -/
theorem releases_talking (n : Nat) (d : Device ρ)
    (hmode : d.mode = .idle ∨ ∃ low, d.mode = .talking low) :
    (device w address).releases n d = true := by
  have hpulls : ∀ d : Device ρ, (d.mode = .idle ∨ ∃ low, d.mode = .talking low) → ∀ byte,
      (device w address).pulls d byte = false := by
    intro d hmode byte
    cases hmode with
    | inl hidle => simp only [device, hidle]
    | inr htalking =>
      obtain ⟨low, htalking⟩ := htalking
      simp only [device, htalking]
  induction n generalizing d with
  | zero => rfl
  | succ n ih =>
    cases n with
    | zero =>
      rw [Follower.releases, hpulls d hmode]
      rfl
    | succ n =>
      rw [Follower.releases]
      refine ih _ ?_
      cases hmode with
      | inl hidle =>
        left
        simp only [Follower.clock, device, hidle]
      | inr htalking =>
        right
        obtain ⟨low, htalking⟩ := htalking
        exact ⟨!low, by rw [clock_talking w address d true htalking]; rfl⟩

/-- A line that is kept has called the device. -/
def Kept (line : Line (Device ρ)) : Prop := line.held = true → line.follower.mode = .called

theorem mode_opened {line : Line (Device ρ)} (h : Kept line) :
    (line.opened (device w address)).mode = .called := by
  rw [Line.opened]
  split
  case isTrue hheld => exact h hheld
  case isFalse => rfl

theorem kept_after (hold : Bool) (d : Device ρ) : Kept (Line.after (device w address) hold d) := by
  intro hheld
  cases hold with
  | false => cases hheld
  | true => rfl

theorem addressOf_read (slave : UInt32) : addressOf slave true &&& 1 = 1 := by
  have hbyte := addressByte_transactionOf slave (fun _ => 0) 0 true false
  rw [← hbyte]
  show ((slave.toUInt8 <<< 1) ||| 1) &&& 1 = 1
  apply UInt8.eq_of_toBitVec_eq
  ext i hi
  interval_cases i <;> simp

theorem low_others {d : Device ρ} (hmode : d.mode = .called) {b : UInt8} (hb : ¬ b >>> 1 = address) :
    ((device w address).clock b false d).1.low = false := by
  have hbyte : b &&& 0xFF = b := by
    rw [show (0xFF : UInt8) = -1 from rfl, UInt8.and_neg_one]
  simp [Follower.clock, device, hmode, hbyte, hb]

/-- The device is courteous to every master. -/
theorem device_courteous : Courteous (device w address) Kept where
  releases msg line hkept := by
    have hmode := mode_opened w address hkept
    rw [Transaction.releases]
    cases hread : isRead msg with
    | false =>
      have hpayload : (transaction msg).payload =
          .write ((List.range msg.len.toUInt32.toNat).map (bufferOf msg)) := by
        simp only [transaction, transactionOf, hread, Bool.false_eq_true, if_false]
      rw [hpayload]
    | true =>
      rw [payload_read hread, addressByte_transaction, hread]
      dsimp only
      by_cases hours : addressOf msg.addr.toUInt32 true >>> 1 = address
      · rw [clock_called w address _ hmode hours, if_pos (addressOf_read _)]
        simp only [Bool.not_true, Bool.false_or]
        exact releases_talking w address _ _ (Or.inr ⟨false, rfl⟩)
      · rw [low_others w address hmode hours]
        rfl
  next msg line _ := by
    have hafter : ∀ (r : Option (List UInt8) × Device ρ) (hold : Bool),
        Kept (if r.1.isSome then Line.after (device w address) hold r.2
          else ⟨false, (device w address).stop r.2⟩) := by
      intro r hold
      split
      · exact kept_after w address hold r.2
      · intro hheld
        cases hheld
    exact hafter _ _

end Device

end Mlx90640.Bus.Scheduled
