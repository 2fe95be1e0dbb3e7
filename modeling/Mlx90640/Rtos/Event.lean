import Mathlib.Data.List.Basic
import Mathlib.Data.List.Nodup

/-!
# Event sets

`rt_event_send` and `rt_event_recv` of the kernel, for any number of threads. Interrupts are
disabled inside both, so a run is a sequence of whole calls, with the expiries of thread
timers between them. What a run hands out is kept as a list of receptions.
-/
namespace Mlx90640.Rtos.Event

def RT_EVENT_FLAG_AND : UInt8 := 0x01
def RT_EVENT_FLAG_OR : UInt8 := 0x02
def RT_EVENT_FLAG_CLEAR : UInt8 := 0x04

/-- `RT_IPC_FLAG_FIFO` and `RT_IPC_FLAG_PRIO`. -/
inductive IpcFlag where
  | fifo | prio
  deriving DecidableEq, Repr

/-- A thread in the list of an event, with what it asked for; `timer` while its timer runs. -/
structure Suspended where
  thread : Nat
  currentPriority : UInt8
  eventSet : UInt32
  eventInfo : UInt8
  timer : Bool
  deriving DecidableEq, Repr

/-- `struct rt_event`. -/
structure RtEvent where
  flag : IpcFlag
  set : UInt32
  suspendThread : List Suspended
  deriving DecidableEq, Repr

/-- A thread that comes back from `rt_event_recv` with `RT_EOK`. -/
structure Reception where
  thread : Nat
  eventSet : UInt32
  option : UInt8
  recved : UInt32
  deriving DecidableEq, Repr

/-- `rt_event_init`. -/
def rtEventInit (flag : IpcFlag) : RtEvent := { flag := flag, set := 0, suspendThread := [] }

/-- The check that both functions make; `none` when the option names neither rule. -/
def answers (present set : UInt32) (option : UInt8) : Option Bool :=
  if option &&& RT_EVENT_FLAG_AND ≠ 0 then some (present &&& set == set)
  else if option &&& RT_EVENT_FLAG_OR ≠ 0 then some (present &&& set != 0)
  else none

/-- `_ipc_list_suspend`: at the end, or before the first thread of a lower priority. -/
def ipcListSuspend (flag : IpcFlag) (thread : Suspended) : List Suspended → List Suspended
  | [] => [thread]
  | sthread :: rest =>
    if flag = .prio ∧ thread.currentPriority < sthread.currentPriority then
      thread :: sthread :: rest
    else sthread :: ipcListSuspend flag thread rest

/-- Where the walk of `rt_event_send` over the list has got to. -/
structure Walk where
  resumed : List Reception
  left : List Suspended
  needClearSet : UInt32
  status : Bool
  deriving DecidableEq, Repr

/-- What a resumed thread finds in its `event_set`. -/
def Suspended.received (present : UInt32) (t : Suspended) : UInt32 :=
  if t.eventInfo &&& RT_EVENT_FLAG_AND ≠ 0 then t.eventSet else t.eventSet &&& present

/-- The walk. It stops at a thread whose option names neither rule. -/
def walk (present : UInt32) : List Suspended → Walk
  | [] => { resumed := [], left := [], needClearSet := 0, status := true }
  | t :: rest =>
    match answers present t.eventSet t.eventInfo with
    | none => { resumed := [], left := t :: rest, needClearSet := 0, status := false }
    | some false => { walk present rest with left := t :: (walk present rest).left }
    | some true =>
      let got := t.received present
      { walk present rest with
        resumed := ⟨t.thread, t.eventSet, t.eventInfo, got⟩ :: (walk present rest).resumed
        needClearSet := (if t.eventInfo &&& RT_EVENT_FLAG_CLEAR ≠ 0 then got else 0) |||
          (walk present rest).needClearSet }

/-- `rt_event_send`: what it returns is `RT_EOK` or an error, who is resumed, and the event. -/
def rtEventSend (set : UInt32) (event : RtEvent) : Bool × List Reception × RtEvent :=
  if set = 0 then (false, [], event)
  else
    let present := event.set ||| set
    let w := walk present event.suspendThread
    (w.status, w.resumed,
      { event with
        set := if w.status then present &&& ~~~w.needClearSet else present
        suspendThread := w.left })

/-- How a call of `rt_event_recv` goes on. -/
inductive Recv where
  /-- `RT_EOK` at once. -/
  | ok (r : Reception)
  /-- `-RT_ETIMEOUT` for a timeout of zero, `-RT_ERROR` for an empty set. -/
  | failed
  | suspended
  deriving DecidableEq, Repr

/-- `rt_event_recv`; `none` is the assertion for an option that names neither rule. -/
def rtEventRecv (thread : Nat) (currentPriority : UInt8) (set : UInt32) (option : UInt8)
    (timeout : Int) (event : RtEvent) : Option (Recv × RtEvent) :=
  if set = 0 then some (.failed, event)
  else
    match answers event.set set option with
    | none => none
    | some true =>
      some (.ok ⟨thread, set, option, event.set &&& set⟩,
        if option &&& RT_EVENT_FLAG_CLEAR ≠ 0 then { event with set := event.set &&& ~~~set }
        else event)
    | some false =>
      if timeout = 0 then some (.failed, event)
      else
        let t := ⟨thread, currentPriority, set, option, decide (0 < timeout)⟩
        some (.suspended,
          { event with suspendThread := ipcListSuspend event.flag t event.suspendThread })

/-- `_thread_timeout` of a thread that waits for the event. -/
def threadTimeout (thread : Nat) (event : RtEvent) : RtEvent :=
  { event with suspendThread := event.suspendThread.filter (fun t => t.thread ≠ thread) }

inductive Op where
  | send (set : UInt32)
  | recv (thread : Nat) (currentPriority : UInt8) (set : UInt32) (option : UInt8) (timeout : Int)
  | expire (thread : Nat)
  deriving DecidableEq, Repr

/-- One call: who receives, and the event. A thread in the list makes no call, and a timer
expires only while it runs. -/
def step (op : Op) (event : RtEvent) : Option (List Reception × RtEvent) :=
  match op with
  | .send set => some (rtEventSend set event).2
  | .recv thread prio set option timeout =>
    if event.suspendThread.any (fun t => t.thread == thread) then none
    else
      match rtEventRecv thread prio set option timeout event with
      | none => none
      | some (.ok r, event) => some ([r], event)
      | some (_, event) => some ([], event)
  | .expire thread =>
    if event.suspendThread.any (fun t => t.thread == thread && t.timer) then
      some ([], threadTimeout thread event)
    else none

/-- A run, with all that it hands out. -/
def run : List Op → RtEvent → Option (List Reception × RtEvent)
  | [], event => some ([], event)
  | op :: ops, event =>
    match step op event with
    | none => none
    | some (got, event) =>
      match run ops event with
      | none => none
      | some (rest, event) => some (got ++ rest, event)

def has (set : UInt32) (bit : Nat) : Bool := set.toBitVec.getLsbD bit

@[simp] theorem has_zero (bit : Nat) : has 0 bit = false := by
  simp [has]

@[simp] theorem has_or (a b : UInt32) (bit : Nat) : has (a ||| b) bit = (has a bit || has b bit) := by
  simp [has]

@[simp] theorem has_and (a b : UInt32) (bit : Nat) : has (a &&& b) bit = (has a bit && has b bit) := by
  simp [has]

theorem has_and_not (a b : UInt32) (bit : Nat) :
    has (a &&& ~~~b) bit = (has a bit && !has b bit) := by
  by_cases hlt : bit < 32
  · simp [has, hlt]
  · have hge : 32 ≤ bit := Nat.le_of_not_lt hlt
    simp [has, BitVec.getLsbD_of_ge _ _ hge]

theorem ne_zero_iff_has (a : UInt32) : a ≠ 0 ↔ ∃ bit, has a bit = true := by
  constructor
  · intro hne
    by_contra hnone
    refine hne (UInt32.toBitVec_inj.mp (BitVec.eq_of_getLsbD_eq fun bit _ => ?_))
    have hbit : ¬ has a bit = true := fun h => hnone ⟨bit, h⟩
    simpa [has] using hbit
  · intro h hzero
    obtain ⟨bit, hbit⟩ := h
    rw [hzero, has_zero] at hbit
    cases hbit

def Reception.clears (r : Reception) : Bool := r.option &&& RT_EVENT_FLAG_CLEAR != 0

/-- The receiver was waiting for what it gets. -/
structure Reception.Fits (r : Reception) : Prop where
  within : ∀ bit, has r.recved bit = true → has r.eventSet bit = true
  some_bit : r.recved ≠ 0
  all_bits : r.option &&& RT_EVENT_FLAG_AND ≠ 0 → r.recved = r.eventSet

def Op.sent : Op → UInt32
  | .send set => set
  | _ => 0

/-- Nobody sleeps while the event holds what they wait for, and nobody waits twice. -/
structure Awake (event : RtEvent) : Prop where
  unanswered : ∀ t ∈ event.suspendThread, answers event.set t.eventSet t.eventInfo = some false
  distinct : (event.suspendThread.map Suspended.thread).Nodup
  asked : ∀ t ∈ event.suspendThread, t.eventSet ≠ 0

theorem answers_isSome (present present' set : UInt32) (option : UInt8) :
    (answers present set option).isSome = (answers present' set option).isSome := by
  unfold answers
  split
  · rfl
  · split <;> rfl

/-- What a set does not answer, no smaller set answers. -/
theorem answers_smaller {present less set : UInt32} {option : UInt8}
    (hless : ∀ bit, has less bit = true → has present bit = true)
    (h : answers present set option = some false) : answers less set option = some false := by
  unfold answers at h ⊢
  split at h
  · rename_i hand
    rw [if_pos hand]
    have hne : present &&& set ≠ set := by simpa using h
    have hsome : ∃ bit, has (set &&& ~~~present) bit = true := by
      refine (ne_zero_iff_has _).mp fun hzero => hne ?_
      refine UInt32.toBitVec_inj.mp (BitVec.eq_of_getLsbD_eq fun bit _ => ?_)
      have hbit : has (set &&& ~~~present) bit = false := by rw [hzero, has_zero]
      rw [has_and_not] at hbit
      show has (present &&& set) bit = has set bit
      rw [has_and]
      cases hs : has set bit <;> cases hp : has present bit <;> simp_all
    obtain ⟨bit, hbit⟩ := hsome
    rw [has_and_not, Bool.and_eq_true, Bool.not_eq_true'] at hbit
    have hnot : less &&& set ≠ set := by
      intro heq
      have hb : has (less &&& set) bit = true := by rw [heq, hbit.1]
      rw [has_and, Bool.and_eq_true] at hb
      rw [hless bit hb.1] at hbit
      exact absurd hbit.2 (by decide)
    simpa using hnot
  · rename_i hand
    rw [if_neg hand]
    split at h
    · rename_i hor
      rw [if_pos hor]
      have hzero : present &&& set = 0 := by simpa using h
      have hnone : less &&& set = 0 := by
        by_contra hne
        obtain ⟨bit, hbit⟩ := (ne_zero_iff_has _).mp hne
        rw [has_and, Bool.and_eq_true] at hbit
        have hb : has (present &&& set) bit = true := by
          rw [has_and, hless bit hbit.1, hbit.2]
          rfl
        rw [hzero, has_zero] at hb
        cases hb
      simpa using hnone
    · cases h

theorem answers_true {present set : UInt32} {option : UInt8} (hset : set ≠ 0)
    (h : answers present set option = some true) :
    present &&& set ≠ 0 ∧ (option &&& RT_EVENT_FLAG_AND ≠ 0 → present &&& set = set) := by
  unfold answers at h
  split at h
  · have heq : present &&& set = set := by simpa using h
    exact ⟨by rwa [heq], fun _ => heq⟩
  · rename_i hand
    split at h
    · exact ⟨by simpa using h, fun h' => absurd h' hand⟩
    · cases h

theorem fits_of_answers {present set : UInt32} {option : UInt8} (thread : Nat) (hset : set ≠ 0)
    (h : answers present set option = some true) :
    Reception.Fits ⟨thread, set, option, present &&& set⟩ := by
  obtain ⟨hne, hall⟩ := answers_true hset h
  refine ⟨fun bit hbit => ?_, hne, hall⟩
  rw [has_and, Bool.and_eq_true] at hbit
  exact hbit.2

theorem received_eq {present : UInt32} {t : Suspended} (hset : t.eventSet ≠ 0)
    (h : answers present t.eventSet t.eventInfo = some true) :
    t.received present = present &&& t.eventSet := by
  unfold Suspended.received
  split
  · rename_i hand
    exact ((answers_true hset h).2 hand).symm
  · exact UInt32.and_comm _ _

section Walk

variable {present : UInt32} {threads : List Suspended}

theorem mem_walk_left (hinfo : ∀ t ∈ threads, (answers present t.eventSet t.eventInfo).isSome) :
    (walk present threads).status = true ∧
      (walk present threads).left =
        threads.filter (fun t => answers present t.eventSet t.eventInfo = some false) := by
  induction threads with
  | nil => exact ⟨rfl, rfl⟩
  | cons t rest ih =>
    obtain ⟨hstatus, hleft⟩ := ih fun u hu => hinfo u (List.mem_cons_of_mem _ hu)
    have hsome := hinfo t List.mem_cons_self
    rw [walk]
    cases ha : answers present t.eventSet t.eventInfo with
    | none =>
      rw [ha] at hsome
      cases hsome
    | some b =>
      cases b with
      | false => exact ⟨hstatus, by simp [hleft, ha]⟩
      | true => exact ⟨hstatus, by simp [hleft, ha]⟩

theorem mem_walk_resumed (hask : ∀ t ∈ threads, t.eventSet ≠ 0) {r : Reception}
    (hr : r ∈ (walk present threads).resumed) :
    r.Fits ∧ r.recved = present &&& r.eventSet := by
  induction threads with
  | nil => cases hr
  | cons t rest ih =>
    have hrest : ∀ u ∈ rest, u.eventSet ≠ 0 := fun u hu => hask u (List.mem_cons_of_mem _ hu)
    have ht := hask t List.mem_cons_self
    rw [walk] at hr
    cases ha : answers present t.eventSet t.eventInfo with
    | none =>
      simp only [ha, List.not_mem_nil] at hr
    | some b =>
      cases b with
      | false =>
        simp only [ha] at hr
        exact ih hrest hr
      | true =>
        simp only [ha, List.mem_cons] at hr
        cases hr with
        | inl heq =>
          rw [heq, received_eq ht ha]
          exact ⟨fits_of_answers t.thread ht ha, rfl⟩
        | inr hr => exact ih hrest hr

theorem has_needClearSet (bit : Nat) :
    has (walk present threads).needClearSet bit = true ↔
      ∃ r ∈ (walk present threads).resumed, r.clears = true ∧ has r.recved bit = true := by
  induction threads with
  | nil => simp [walk]
  | cons t rest ih =>
    rw [walk]
    cases ha : answers present t.eventSet t.eventInfo with
    | none => simp
    | some b =>
      cases b with
      | false => exact ih
      | true =>
        simp only [has_or, Bool.or_eq_true, ih, List.mem_cons, exists_eq_or_imp]
        by_cases hc : t.eventInfo &&& RT_EVENT_FLAG_CLEAR = 0
        · simp [Reception.clears, hc]
        · simp [Reception.clears, hc]

end Walk

/-- What one call does to the bits: those who receive were waiting for what they get, nothing
is received that is not there, and a bit leaves the event only with a thread that clears. -/
structure Exact (before : UInt32) (op : Op) (got : List Reception) (after : UInt32) : Prop where
  fits : ∀ r ∈ got, r.Fits
  present : ∀ r ∈ got, ∀ bit, has r.recved bit = true → has (before ||| op.sent) bit = true
  after_iff : ∀ bit, has after bit = true ↔ has (before ||| op.sent) bit = true ∧
    ¬ ∃ r ∈ got, r.clears = true ∧ has r.recved bit = true

theorem exact_nil (op : Op) (set : UInt32) (h : op.sent = 0) : Exact set op [] set := by
  refine ⟨by simp, by simp, fun bit => ?_⟩
  simp [h]

theorem send_exact {event : RtEvent} (hawake : Awake event) {set : UInt32} (hset : set ≠ 0) :
    Exact event.set (.send set) (rtEventSend set event).2.1 (rtEventSend set event).2.2.set := by
  have hinfo : ∀ t ∈ event.suspendThread,
      (answers (event.set ||| set) t.eventSet t.eventInfo).isSome := by
    intro t ht
    rw [answers_isSome _ event.set, hawake.unanswered t ht]
    rfl
  have hstatus := (mem_walk_left hinfo).1
  simp only [rtEventSend, if_neg hset, hstatus, if_true]
  refine ⟨fun r hr => (mem_walk_resumed hawake.asked hr).1, fun r hr bit hbit => ?_, fun bit => ?_⟩
  · rw [(mem_walk_resumed hawake.asked hr).2, has_and, Bool.and_eq_true] at hbit
    exact hbit.1
  · rw [has_and_not, Bool.and_eq_true, Bool.not_eq_true', ← has_needClearSet, Bool.not_eq_true]
    rfl

theorem send_awake {event : RtEvent} (hawake : Awake event) {set : UInt32} (hset : set ≠ 0) :
    Awake (rtEventSend set event).2.2 := by
  have hinfo : ∀ t ∈ event.suspendThread,
      (answers (event.set ||| set) t.eventSet t.eventInfo).isSome := by
    intro t ht
    rw [answers_isSome _ event.set, hawake.unanswered t ht]
    rfl
  obtain ⟨hstatus, hleft⟩ := mem_walk_left hinfo
  simp only [rtEventSend, if_neg hset, hstatus, if_true, hleft]
  refine ⟨fun t ht => ?_, ?_, fun t ht => hawake.asked t (List.mem_of_mem_filter ht)⟩
  · have hfalse : answers (event.set ||| set) t.eventSet t.eventInfo = some false := by
      simpa using (List.mem_filter.mp ht).2
    refine answers_smaller (fun bit hbit => ?_) hfalse
    rw [has_and_not, Bool.and_eq_true] at hbit
    exact hbit.1
  · exact hawake.distinct.sublist (List.Sublist.map _ List.filter_sublist)

theorem mem_ipcListSuspend (flag : IpcFlag) (thread t : Suspended) (threads : List Suspended) :
    t ∈ ipcListSuspend flag thread threads ↔ t = thread ∨ t ∈ threads := by
  induction threads with
  | nil => simp [ipcListSuspend]
  | cons u rest ih =>
    rw [ipcListSuspend]
    split
    · simp
    · simp only [List.mem_cons, ih]
      tauto

theorem nodup_ipcListSuspend (flag : IpcFlag) {thread : Suspended} {threads : List Suspended}
    (hnew : ∀ t ∈ threads, t.thread ≠ thread.thread)
    (h : (threads.map Suspended.thread).Nodup) :
    ((ipcListSuspend flag thread threads).map Suspended.thread).Nodup := by
  induction threads with
  | nil => simp [ipcListSuspend]
  | cons u rest ih =>
    rw [List.map_cons, List.nodup_cons] at h
    have hu := hnew u List.mem_cons_self
    have hrest : ∀ t ∈ rest, t.thread ≠ thread.thread := fun t ht => hnew t (List.mem_cons_of_mem _ ht)
    rw [ipcListSuspend]
    split
    · simp only [List.map_cons, List.nodup_cons, List.mem_cons, List.mem_map, not_or]
      refine ⟨⟨Ne.symm hu, ?_⟩, by simpa using h.1, h.2⟩
      exact fun ⟨t, ht, heq⟩ => hrest t ht heq
    · rw [List.map_cons, List.nodup_cons]
      refine ⟨fun hmem => ?_, ih hrest h.2⟩
      obtain ⟨t, ht, heq⟩ := List.mem_map.mp hmem
      cases (mem_ipcListSuspend flag thread t rest).mp ht with
      | inl hthread => exact hu (by rw [← heq, hthread])
      | inr hmem => exact h.1 (List.mem_map.mpr ⟨t, hmem, heq⟩)

section Recv

variable {event event' : RtEvent} {thread : Nat} {prio : UInt8} {set : UInt32} {option : UInt8}
  {timeout : Int} {out : Recv}

theorem rtEventRecv_cases (h : rtEventRecv thread prio set option timeout event = some (out, event')) :
    (out = .failed ∧ event' = event) ∨
    (set ≠ 0 ∧ answers event.set set option = some true ∧
      out = .ok ⟨thread, set, option, event.set &&& set⟩ ∧
      event' = if option &&& RT_EVENT_FLAG_CLEAR ≠ 0 then { event with set := event.set &&& ~~~set }
        else event) ∨
    (set ≠ 0 ∧ answers event.set set option = some false ∧ out = .suspended ∧
      event' = { event with
        suspendThread := ipcListSuspend event.flag
          (Suspended.mk thread prio set option (decide (0 < timeout))) event.suspendThread }) := by
  unfold rtEventRecv at h
  split at h
  · cases h
    exact Or.inl ⟨rfl, rfl⟩
  · rename_i hset
    cases ha : answers event.set set option with
    | none =>
      rw [ha] at h
      cases h
    | some b =>
      rw [ha] at h
      cases b with
      | true =>
        cases h
        exact Or.inr (Or.inl ⟨hset, rfl, rfl, rfl⟩)
      | false =>
        simp only at h
        split at h
        · cases h
          exact Or.inl ⟨rfl, rfl⟩
        · cases h
          exact Or.inr (Or.inr ⟨hset, rfl, rfl, rfl⟩)

theorem recv_exact (hset : set ≠ 0) (ha : answers event.set set option = some true) :
    Exact event.set (.recv thread prio set option timeout)
      [⟨thread, set, option, event.set &&& set⟩]
      (if option &&& RT_EVENT_FLAG_CLEAR ≠ 0 then { event with set := event.set &&& ~~~set }
        else event).set := by
  refine ⟨?_, ?_, fun bit => ?_⟩
  · intro r hr
    rw [List.mem_singleton.mp hr]
    exact fits_of_answers thread hset ha
  · intro r hr bit hbit
    rw [List.mem_singleton.mp hr, has_and, Bool.and_eq_true] at hbit
    rw [has_or, hbit.1, Bool.true_or]
  · by_cases hc : option &&& RT_EVENT_FLAG_CLEAR = 0
    · simp [hc, Reception.clears, Op.sent]
    · have hclears : (option &&& RT_EVENT_FLAG_CLEAR != 0) = true := by simpa using hc
      simp only [ne_eq, hc, not_false_iff, if_true]
      rw [has_and_not]
      simp only [Op.sent, has_or, has_zero, Bool.or_false, List.mem_singleton, exists_eq_left,
        Reception.clears, hclears, has_and]
      generalize has event.set bit = a, has set bit = b
      cases a <;> cases b <;> simp

end Recv

theorem step_exact {op : Op} {event event' : RtEvent} {got : List Reception} (hawake : Awake event)
    (h : step op event = some (got, event')) :
    Awake event' ∧ Exact event.set op got event'.set := by
  cases op with
  | send set =>
    by_cases hset : set = 0
    · rw [step, rtEventSend, if_pos hset] at h
      cases h
      exact ⟨hawake, exact_nil _ _ hset⟩
    · rw [step, Option.some.injEq] at h
      have hgot : (rtEventSend set event).2.1 = got := by rw [h]
      have hevent : (rtEventSend set event).2.2 = event' := by rw [h]
      rw [← hgot, ← hevent]
      exact ⟨send_awake hawake hset, send_exact hawake hset⟩
  | recv thread prio set option timeout =>
    rw [step] at h
    split at h
    · cases h
    · rename_i hany
      cases hr : rtEventRecv thread prio set option timeout event with
      | none =>
        rw [hr] at h
        cases h
      | some p =>
        obtain ⟨out, event₁⟩ := p
        rw [hr] at h
        obtain ⟨rfl, rfl⟩ | ⟨hset, ha, rfl, rfl⟩ | ⟨hset, ha, rfl, rfl⟩ := rtEventRecv_cases hr
        · cases h
          exact ⟨hawake, exact_nil _ _ rfl⟩
        · cases h
          refine ⟨?_, recv_exact hset ha⟩
          split
          · -- the bits only become fewer, so nobody else has to be woken
            refine ⟨fun t ht => ?_, hawake.distinct, hawake.asked⟩
            refine answers_smaller (fun bit hbit => ?_) (hawake.unanswered t ht)
            rw [has_and_not, Bool.and_eq_true] at hbit
            exact hbit.1
          · exact hawake
        · cases h
          refine ⟨⟨fun t ht => ?_, ?_, fun t ht => ?_⟩, exact_nil _ _ rfl⟩
          · cases (mem_ipcListSuspend _ _ _ _).mp ht with
            | inl heq =>
              rw [heq]
              exact ha
            | inr hmem => exact hawake.unanswered t hmem
          · refine nodup_ipcListSuspend _ (fun t ht heq => hany ?_) hawake.distinct
            exact List.any_eq_true.mpr ⟨t, ht, by simpa using heq⟩
          · cases (mem_ipcListSuspend _ _ _ _).mp ht with
            | inl heq =>
              rw [heq]
              exact hset
            | inr hmem => exact hawake.asked t hmem
  | expire thread =>
    rw [step] at h
    split at h
    · cases h
      refine ⟨⟨fun t ht => ?_, ?_, fun t ht => ?_⟩, exact_nil _ _ rfl⟩
      · exact hawake.unanswered t (List.mem_of_mem_filter ht)
      · exact hawake.distinct.sublist (List.Sublist.map _ List.filter_sublist)
      · exact hawake.asked t (List.mem_of_mem_filter ht)
    · cases h

def sentIn (ops : List Op) : UInt32 := ops.foldr (fun op acc => op.sent ||| acc) 0

theorem run_cons {op : Op} {ops : List Op} {event event' : RtEvent} {log : List Reception}
    (h : run (op :: ops) event = some (log, event')) :
    ∃ got next rest, step op event = some (got, next) ∧ run ops next = some (rest, event') ∧
      log = got ++ rest := by
  rw [run] at h
  cases hs : step op event with
  | none =>
    rw [hs] at h
    cases h
  | some p =>
    obtain ⟨got, next⟩ := p
    simp only [hs] at h
    cases hr : run ops next with
    | none =>
      rw [hr] at h
      cases h
    | some q =>
      obtain ⟨rest, last⟩ := q
      rw [hr] at h
      cases h
      exact ⟨got, next, rest, rfl, hr, rfl⟩

theorem run_append {before after : List Op} {event event' : RtEvent} {log : List Reception}
    (h : run (before ++ after) event = some (log, event')) :
    ∃ log₁ mid log₂, run before event = some (log₁, mid) ∧ run after mid = some (log₂, event') ∧
      log = log₁ ++ log₂ := by
  induction before generalizing event log with
  | nil => exact ⟨[], event, log, rfl, h, rfl⟩
  | cons op ops ih =>
    obtain ⟨got, next, rest, hs, hr, rfl⟩ := run_cons h
    obtain ⟨log₁, mid, log₂, h₁, h₂, rfl⟩ := ih hr
    refine ⟨got ++ log₁, mid, log₂, ?_, h₂, (List.append_assoc _ _ _).symm⟩
    simp only [run, hs, h₁]

/-- A bit stays in the event unless a clearing thread gets it. -/
theorem Exact.remains {before after : UInt32} {op : Op} {got : List Reception}
    (h : Exact before op got after) {bit : Nat} (hbit : has (before ||| op.sent) bit = true) :
    has after bit = true ∨ ∃ r ∈ got, r.clears = true ∧ has r.recved bit = true := by
  by_cases htaken : ∃ r ∈ got, r.clears = true ∧ has r.recved bit = true
  · exact Or.inr htaken
  · exact Or.inl ((h.after_iff bit).mpr ⟨hbit, htaken⟩)

/-- What a run keeps, from any state in which nobody sleeps for nothing. -/
structure Kept (start : UInt32) (ops : List Op) (log : List Reception) (event : RtEvent) : Prop where
  awake : Awake event
  fits : ∀ r ∈ log, r.Fits
  sent : ∀ r ∈ log, ∀ bit, has r.recved bit = true → has (start ||| sentIn ops) bit = true
  remains : ∀ bit, has start bit = true → has event.set bit = true ∨
    ∃ r ∈ log, r.clears = true ∧ has r.recved bit = true

theorem run_kept {ops : List Op} {event event' : RtEvent} {log : List Reception}
    (hawake : Awake event) (h : run ops event = some (log, event')) :
    Kept event.set ops log event' := by
  induction ops generalizing event log with
  | nil =>
    cases h
    exact ⟨hawake, by simp, by simp, fun bit hbit => Or.inl hbit⟩
  | cons op ops ih =>
    obtain ⟨got, next, rest, hs, hr, rfl⟩ := run_cons h
    obtain ⟨hnext, hexact⟩ := step_exact hawake hs
    obtain ⟨hlast, hfits, hsent, hremains⟩ := ih hnext hr
    refine ⟨hlast, fun r hmem => ?_, fun r hmem bit hbit => ?_, fun bit hbit => ?_⟩
    · cases List.mem_append.mp hmem with
      | inl hgot => exact hexact.fits r hgot
      | inr hrest => exact hfits r hrest
    · have hp : has (event.set ||| op.sent) bit = true ∨ has (sentIn ops) bit = true := by
        cases List.mem_append.mp hmem with
        | inl hgot => exact Or.inl (hexact.present r hgot bit hbit)
        | inr hrest =>
          have hlater := hsent r hrest bit hbit
          rw [has_or, Bool.or_eq_true] at hlater
          cases hlater with
          | inl hset => exact Or.inl ((hexact.after_iff bit).mp hset).1
          | inr hop => exact Or.inr hop
      simp only [sentIn, List.foldr_cons, has_or, Bool.or_eq_true] at hp ⊢
      tauto
    · have hhere : has (event.set ||| op.sent) bit = true := by rw [has_or, hbit, Bool.true_or]
      cases hexact.remains hhere with
      | inl hstay =>
        cases hremains bit hstay with
        | inl hin => exact Or.inl hin
        | inr hlater =>
          obtain ⟨r, hmem, hc⟩ := hlater
          exact Or.inr ⟨r, List.mem_append_right _ hmem, hc⟩
      | inr htaken =>
        obtain ⟨r, hmem, hc⟩ := htaken
        exact Or.inr ⟨r, List.mem_append_left _ hmem, hc⟩

theorem awake_rtEventInit (flag : IpcFlag) : Awake (rtEventInit flag) :=
  ⟨fun _ h => absurd h List.not_mem_nil, List.nodup_nil, fun _ h => absurd h List.not_mem_nil⟩

/-- No wake-up is lost. After any sequence of sends, receptions and expiries, by any number of
threads: no thread is left in the list while the event holds what it waits for; every
reception gave a thread what it had asked for, out of what was sent; and a bit that was sent
is in the event until a later reception takes it out. -/
theorem no_event_lost (flag : IpcFlag) (ops : List Op) (log : List Reception) (event : RtEvent)
    (h : run ops (rtEventInit flag) = some (log, event)) :
    (∀ t ∈ event.suspendThread, answers event.set t.eventSet t.eventInfo = some false) ∧
    (∀ r ∈ log, r.Fits ∧ ∀ bit, has r.recved bit = true → has (sentIn ops) bit = true) ∧
    ∀ before set after, ops = before ++ .send set :: after →
      ∃ log₁ mid log₂, run before (rtEventInit flag) = some (log₁, mid) ∧ log = log₁ ++ log₂ ∧
        ∀ bit, has set bit = true → has event.set bit = true ∨
          ∃ r ∈ log₂, r.clears = true ∧ has r.recved bit = true := by
  have hkept := run_kept (awake_rtEventInit flag) h
  refine ⟨hkept.awake.unanswered, fun r hr => ⟨hkept.fits r hr, fun bit hbit => ?_⟩, ?_⟩
  · have hsent := hkept.sent r hr bit hbit
    simpa [rtEventInit] using hsent
  · intro before set after hops
    rw [hops] at h
    obtain ⟨log₁, mid, log₂, h₁, h₂, rfl⟩ := run_append h
    refine ⟨log₁, mid, log₂, h₁, rfl, fun bit hbit => ?_⟩
    obtain ⟨got, next, rest, hs, hr, rfl⟩ := run_cons h₂
    obtain ⟨hnext, hexact⟩ := step_exact (run_kept (awake_rtEventInit flag) h₁).awake hs
    have hhere : has (mid.set ||| (Op.send set).sent) bit = true := by
      rw [has_or, show has (Op.send set).sent bit = true from hbit, Bool.or_true]
    cases hexact.remains hhere with
    | inl hstay =>
      cases (run_kept hnext hr).remains bit hstay with
      | inl hin => exact Or.inl hin
      | inr hlater =>
        obtain ⟨r, hmem, hc⟩ := hlater
        exact Or.inr ⟨r, List.mem_append_right _ hmem, hc⟩
    | inr htaken =>
      obtain ⟨r, hmem, hc⟩ := htaken
      exact Or.inr ⟨r, List.mem_append_left _ hmem, hc⟩

/-- Two threads, one of which waits for both bits and goes first in the list. -/
def twoThreads : List Op :=
  [.recv 1 10 0xF (RT_EVENT_FLAG_OR ||| RT_EVENT_FLAG_CLEAR) 400,
   .recv 2 5 0x6 RT_EVENT_FLAG_AND (-1), .send 0x2, .send 0x4]

theorem no_event_lost_two_threads :
    ∃ log event, run twoThreads (rtEventInit .prio) = some (log, event) ∧ event.set = 0x4 ∧
      event.suspendThread.length = 1 ∧
      (∀ t ∈ event.suspendThread, answers event.set t.eventSet t.eventInfo = some false) ∧
      ∀ r ∈ log, r.Fits ∧ ∀ bit, has r.recved bit = true → has (sentIn twoThreads) bit = true :=
  ⟨_, _, rfl, rfl, rfl, (no_event_lost .prio twoThreads _ _ rfl).1,
    (no_event_lost .prio twoThreads _ _ rfl).2.1⟩

end Mlx90640.Rtos.Event
