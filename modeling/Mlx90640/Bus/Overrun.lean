import Mlx90640.Bus.Controller

/-!
# What a follower can do to the buffer

A follower that pulls the ninth bit of the last byte low makes the master clock one byte
more. No behaviour of the follower lets a message write further than one byte beyond the
buffer, and once that byte is touched the callback never comes.
-/
namespace Mlx90640.Bus.Overrun

open Mlx90640.Lib.OpenDrain
open Mlx90640.Bus.Controller

variable {σ : Type}

/-- Any number of interrupts, with what the callback was given on the way. -/
inductive Reaches (f : Follower σ) (m : Machine σ) : List MasterEvent → Machine σ → Prop where
  | refl : Reaches f m [] m
  | step {events : List MasterEvent} {e : Option MasterEvent} {m₁ m₂ : Machine σ}
      (h : Reaches f m events m₁) (hint : interrupt f m₁ = some (e, m₂)) :
      Reaches f m (events ++ e.toList) m₂

def SameFrom (k : Nat) (buffer now : Nat → UInt8) : Prop := ∀ i, k ≤ i → now i = buffer i

theorem SameFrom.mono {k k' : Nat} {buffer now : Nat → UInt8} (h : SameFrom k buffer now)
    (hk : k ≤ k') : SameFrom k' buffer now := fun i hi => h i (Nat.le_trans hk hi)

theorem SameFrom.update {k j : Nat} {buffer now : Nat → UInt8} (h : SameFrom k buffer now) (b : UInt8)
    (hj : j < k) : SameFrom k buffer (Function.update now j b) := by
  intro i hi
  rw [Function.update_of_ne (by omega)]
  exact h i hi

/-- The counters of a read of `n` bytes account for all of them. -/
structure Counts (n : Nat) (buffer : Nat → UInt8) (ctrl : Ctrl) : Prop where
  read : ctrl.read = true
  err : ctrl.err = false
  total : ctrl.remain.toNat + ctrl.loaded.toNat = n
  same : SameFrom n buffer ctrl.pBuff

/-- Where the channel is in a read of `n` bytes, and what the callback was given. -/
inductive Bounded (n : Nat) (buffer : Nat → UInt8) : Channel → List MasterEvent → Prop where
  | starting {ch : Channel} (hcounts : Counts n buffer ch.ctrl)
      (hreq : ch.reg.request = some (.condition .start)) (htotal : ch.ctrl.addrTotal = 1)
      (hloaded : ch.ctrl.addrLoaded = 0) : Bounded n buffer ch []
  | clocking {ch : Channel} {b : UInt8} (hcounts : Counts n buffer ch.ctrl)
      (hreq : ch.reg.request = some (.byte b)) (haddr : ch.ctrl.addrTotal = ch.ctrl.addrLoaded) :
      Bounded n buffer ch []
  | ending {ch : Channel} {c : Condition} (hreq : ch.reg.request = some (.condition c))
      (hlast : ch.ctrl.err = true ∨ ch.ctrl.addrTotal = ch.ctrl.addrLoaded)
      (hsame : SameFrom n buffer ch.ctrl.pBuff) : Bounded n buffer ch []
  /-- The byte beyond the buffer is written, and the count has wrapped. -/
  | beyond {ch : Channel} {c : Condition} (hreq : ch.reg.request = some (.condition c))
      (herr : ch.ctrl.err = false) (haddr : ch.ctrl.addrTotal = ch.ctrl.addrLoaded)
      (hremain : ch.ctrl.remain ≠ 0) (hsame : SameFrom (n + 1) buffer ch.ctrl.pBuff) :
      Bounded n buffer ch []
  | resting {ch : Channel} {events : List MasterEvent} (hreq : ch.reg.request = none)
      (hsame : SameFrom n buffer ch.ctrl.pBuff) : Bounded n buffer ch events
  | dead {ch : Channel} (hreq : ch.reg.request = none)
      (hsame : SameFrom (n + 1) buffer ch.ctrl.pBuff) : Bounded n buffer ch []

section Handlers

variable {n : Nat} {buffer : Nat → UInt8} {ch : Channel}

theorem Counts.store (h : Counts n buffer ch.ctrl) (hpos : 0 < ch.ctrl.remain.toNat)
    (hn : n < 4294967296) : Counts n buffer ch.store.ctrl := by
  have htotal := h.total
  have hremain : (ch.ctrl.remain - 1).toNat = ch.ctrl.remain.toNat - 1 :=
    remain_sub_one (by omega)
  have hloaded : (ch.ctrl.loaded + 1).toNat = ch.ctrl.loaded.toNat + 1 :=
    loaded_add_one (by omega)
  refine ⟨h.read, h.err, ?_, h.same.update _ (by omega)⟩
  show (ch.ctrl.remain - 1).toNat + (ch.ctrl.loaded + 1).toNat = n
  omega

theorem txiSendData_read (hread : ch.ctrl.read = true) :
    ch.txiSendData.ctrl =
        (if ch.ctrl.doDummyRead then { ch.ctrl with doDummyRead := false } else ch.store.ctrl) ∧
      ch.txiSendData.reg.request = some (.byte 0xFF) := by
  rw [Channel.txiSendData, if_pos hread]
  by_cases hdummy : ch.ctrl.doDummyRead = true
  · simp only [if_pos hdummy]
    split_ifs <;> exact ⟨rfl, rfl⟩
  · simp only [if_neg hdummy]
    split_ifs <;> exact ⟨rfl, rfl⟩

theorem txiSendData_bounded (h : Counts n buffer ch.ctrl) (hpos : 0 < ch.ctrl.remain.toNat)
    (haddr : ch.ctrl.addrTotal = ch.ctrl.addrLoaded) (hn : n < 4294967296) :
    Bounded n buffer ch.txiSendData [] := by
  obtain ⟨hctrl, hreq⟩ := txiSendData_read h.read
  by_cases hdummy : ch.ctrl.doDummyRead = true
  · rw [if_pos hdummy] at hctrl
    refine .clocking ?_ hreq ?_
    · rw [hctrl]
      exact ⟨h.read, h.err, h.total, h.same⟩
    · rw [hctrl]
      exact haddr
  · rw [if_neg hdummy] at hctrl
    refine .clocking ?_ hreq ?_
    · rw [hctrl]
      exact h.store hpos hn
    · rw [hctrl]
      exact haddr

theorem issue_ctrl (ch : Channel) :
    (∃ c, ch.issueRestartOrStop.reg.request = some (.condition c)) ∧
      ch.issueRestartOrStop.ctrl.pBuff = ch.ctrl.pBuff ∧
      ch.issueRestartOrStop.ctrl.err = ch.ctrl.err ∧
      ch.issueRestartOrStop.ctrl.remain = ch.ctrl.remain ∧
      ch.issueRestartOrStop.ctrl.addrTotal = ch.ctrl.addrTotal ∧
      ch.issueRestartOrStop.ctrl.addrLoaded = ch.ctrl.addrLoaded := by
  rw [Channel.issueRestartOrStop]
  split
  · exact ⟨⟨.restart, rfl⟩, rfl, rfl, rfl, rfl, rfl⟩
  · exact ⟨⟨.stop, rfl⟩, rfl, rfl, rfl, rfl, rfl⟩

/-- A missing acknowledgement ends the read. With nothing left to read it is the byte beyond
the buffer that is stored. -/
theorem txiProcessNack_bounded (h : Counts n buffer ch.ctrl)
    (haddr : ch.ctrl.addrTotal = ch.ctrl.addrLoaded) (hn : n < 4294967296) :
    Bounded n buffer ch.txiProcessNack [] := by
  rw [Channel.txiProcessNack]
  split
  · exact .ending rfl (Or.inl rfl) h.same
  · obtain ⟨⟨c, hreq⟩, hbuf, herr, hremain, htotal, hloaded⟩ := issue_ctrl ch.store
    have hlast : ch.store.issueRestartOrStop.ctrl.addrTotal =
        ch.store.issueRestartOrStop.ctrl.addrLoaded := by
      rw [htotal, hloaded]
      exact haddr
    by_cases hpos : 0 < ch.ctrl.remain.toNat
    · refine .ending hreq (Or.inr hlast) ?_
      rw [hbuf]
      exact (h.store hpos hn).same
    · have hzero : ch.ctrl.remain = 0 := UInt32.toNat_inj.mp (Nat.le_zero.mp (Nat.le_of_not_lt hpos))
      have hend : ch.ctrl.loaded.toNat = n := by
        have htot := h.total
        rw [hzero] at htot
        simpa using htot
      refine .beyond hreq (by rw [herr]; exact h.err) hlast ?_ ?_
      · rw [hremain]
        show ch.ctrl.remain - 1 ≠ 0
        rw [hzero]
        decide
      · rw [hbuf]
        exact (h.same.mono (Nat.le_succ n)).update _ (by omega)

theorem txiHandler_bounded (r : Clocked) (h : Counts n buffer ch.ctrl)
    (haddr : ch.ctrl.addrTotal = ch.ctrl.addrLoaded) (hn : n < 4294967296) :
    Bounded n buffer (ch.latch r).txiHandler [] := by
  have hcounts : Counts n buffer (ch.latch r).ctrl := h
  rw [Channel.txiHandler]
  split
  · have haddr' : ¬ (ch.latch r).ctrl.addrTotal ≠ (ch.latch r).ctrl.addrLoaded :=
      not_not_intro haddr
    rw [if_neg haddr']
    split
    · rename_i hpos
      exact txiSendData_bounded hcounts (UInt32.lt_iff_toNat_lt.mp hpos) haddr hn
    · obtain ⟨⟨c, hreq⟩, hbuf, -, -, htotal, hloaded⟩ := issue_ctrl (ch.latch r)
      refine .ending hreq (Or.inr ?_) ?_
      · rw [htotal, hloaded]
        exact haddr
      · rw [hbuf]
        exact h.same
  · exact txiProcessNack_bounded hcounts haddr hn

theorem issue_loaded (ch : Channel) : ch.issueRestartOrStop.ctrl.loaded = ch.ctrl.loaded := by
  rw [Channel.issueRestartOrStop]
  split <;> rfl

def Untouched (ch ch' : Channel) : Prop :=
  ch'.ctrl.loaded = ch.ctrl.loaded ∧ ch'.ctrl.pBuff = ch.ctrl.pBuff

/-- One byte is stored, at the count of the bytes stored before it. -/
def StoresNext (ch ch' : Channel) : Prop :=
  ch'.ctrl.loaded = ch.ctrl.loaded + 1 ∧
    ∃ b, ch'.ctrl.pBuff = Function.update ch.ctrl.pBuff ch.ctrl.loaded.toNat b

/-- No callback is to come. -/
inductive Mute (ch : Channel) : Prop where
  | waiting {c : Condition} (hreq : ch.reg.request = some (.condition c))
      (herr : ch.ctrl.err = false) (haddr : ch.ctrl.addrTotal = ch.ctrl.addrLoaded)
      (hremain : ch.ctrl.remain ≠ 0)
  | idle (hreq : ch.reg.request = none)

/-- The store right after the buffer, which only a missing acknowledgement leads to. -/
theorem txiProcessNack_stores (h : Counts n buffer ch.ctrl)
    (haddr : ch.ctrl.addrTotal = ch.ctrl.addrLoaded) :
    Untouched ch ch.txiProcessNack ∨ StoresNext ch ch.txiProcessNack ∧
      (ch.ctrl.loaded.toNat = n → Mute ch.txiProcessNack) := by
  rw [Channel.txiProcessNack]
  split
  · exact Or.inl ⟨rfl, rfl⟩
  · obtain ⟨⟨c, hreq⟩, hbuf, herr, hremain, htotal, hloaded⟩ := issue_ctrl ch.store
    refine Or.inr ⟨⟨issue_loaded ch.store, _, hbuf⟩, fun hfull => ?_⟩
    have hzero : ch.ctrl.remain = 0 := by
      have htot := h.total
      exact UInt32.toNat_inj.mp (show ch.ctrl.remain.toNat = 0 by omega)
    refine .waiting hreq (herr.trans h.err) ?_ ?_
    · rw [htotal, hloaded]
      exact haddr
    · rw [hremain]
      show ch.ctrl.remain - 1 ≠ 0
      rw [hzero]
      decide

/-- The transmit interrupt stores inside the buffer, or right after it and is the last. -/
theorem txiHandler_stores (r : Clocked) (h : Counts n buffer ch.ctrl)
    (haddr : ch.ctrl.addrTotal = ch.ctrl.addrLoaded) :
    Untouched ch (ch.latch r).txiHandler ∨ StoresNext ch (ch.latch r).txiHandler ∧
      (ch.ctrl.loaded.toNat = n → Mute (ch.latch r).txiHandler) := by
  have hcounts : Counts n buffer (ch.latch r).ctrl := h
  rw [Channel.txiHandler]
  split
  · have haddr' : ¬ (ch.latch r).ctrl.addrTotal ≠ (ch.latch r).ctrl.addrLoaded :=
      not_not_intro haddr
    rw [if_neg haddr']
    split
    · rename_i hpos
      have hleft : 0 < ch.ctrl.remain.toNat := UInt32.lt_iff_toNat_lt.mp hpos
      have htot := h.total
      have hctrl := (txiSendData_read hcounts.read).1
      rw [Untouched, StoresNext, hctrl]
      split
      · exact Or.inl ⟨rfl, rfl⟩
      · exact Or.inr ⟨⟨rfl, _, rfl⟩, fun hfull => by omega⟩
    · obtain ⟨-, hbuf, -⟩ := issue_ctrl (ch.latch r)
      exact Or.inl ⟨issue_loaded (ch.latch r), hbuf⟩
  · exact txiProcessNack_stores hcounts haddr

theorem Counts.loaded_le (h : Counts n buffer ch.ctrl) : ch.ctrl.loaded.toNat ≤ n := by
  have htot := h.total
  omega

end Handlers

theorem interrupt_of_condition {f : Follower σ} {m m' : Machine σ} {e : Option MasterEvent}
    {c : Condition} (hreq : m.channel.reg.request = some (.condition c))
    (hint : interrupt f m = some (e, m')) :
    e = m.channel.settle.teiHandler.1 ∧ m'.channel = m.channel.settle.teiHandler.2 := by
  simp only [interrupt, hreq] at hint
  split at hint
  · cases hint
    exact ⟨rfl, rfl⟩
  · cases hint

theorem interrupt_of_byte {f : Follower σ} {m m' : Machine σ} {e : Option MasterEvent} {b : UInt8}
    (hreq : m.channel.reg.request = some (.byte b)) (hint : interrupt f m = some (e, m')) :
    ∃ r, e = none ∧ m'.channel = (m.channel.latch r).txiHandler := by
  simp only [interrupt, hreq] at hint
  split at hint
  · cases hint
    exact ⟨_, rfl, rfl⟩
  · cases hint

theorem teiHandler_wrapped {ch : Channel} (herr : ch.ctrl.err = false)
    (haddr : ch.ctrl.addrTotal = ch.ctrl.addrLoaded) (hremain : ch.ctrl.remain ≠ 0) :
    ch.settle.teiHandler = (none, ch.settle) := by
  have herr' : ¬ ch.settle.ctrl.err = true := by
    show ¬ ch.ctrl.err = true
    rw [herr]
    decide
  have haddr' : ¬ ch.settle.ctrl.addrTotal ≠ ch.settle.ctrl.addrLoaded := not_not_intro haddr
  have hremain' : ¬ ch.settle.ctrl.remain = 0 := hremain
  rw [Channel.teiHandler, if_neg herr', if_neg haddr', if_neg hremain']

theorem interrupt_bounded {f : Follower σ} {n : Nat} {buffer : Nat → UInt8} {m m' : Machine σ}
    {events : List MasterEvent} {e : Option MasterEvent} (hn : n < 4294967296)
    (h : Bounded n buffer m.channel events) (hint : interrupt f m = some (e, m')) :
    Bounded n buffer m'.channel (events ++ e.toList) := by
  cases h with
  | starting hcounts hreq htotal hloaded =>
    obtain ⟨rfl, hch⟩ := interrupt_of_condition hreq hint
    have herr : ¬ m.channel.settle.ctrl.err = true := by
      show ¬ m.channel.ctrl.err = true
      rw [hcounts.err]
      decide
    have haddr : m.channel.settle.ctrl.addrTotal ≠ m.channel.settle.ctrl.addrLoaded := by
      show m.channel.ctrl.addrTotal ≠ m.channel.ctrl.addrLoaded
      rw [htotal, hloaded]
      decide
    rw [Channel.teiHandler, if_neg herr, if_pos haddr] at hch ⊢
    rw [hch]
    refine .clocking ⟨hcounts.read, hcounts.err, hcounts.total, hcounts.same⟩ rfl ?_
    show m.channel.ctrl.addrTotal = m.channel.ctrl.addrLoaded + 1
    rw [htotal, hloaded]
    rfl
  | clocking hcounts hreq haddr =>
    obtain ⟨r, rfl, hch⟩ := interrupt_of_byte hreq hint
    rw [hch]
    exact txiHandler_bounded r hcounts haddr hn
  | ending hreq hlast hsame =>
    obtain ⟨rfl, hch⟩ := interrupt_of_condition hreq hint
    have hover : m'.channel.reg.request = none ∧ m'.channel.ctrl.pBuff = m.channel.ctrl.pBuff := by
      rw [hch, Channel.teiHandler]
      split
      · exact ⟨rfl, rfl⟩
      · rename_i herr
        have haddr : ¬ m.channel.settle.ctrl.addrTotal ≠ m.channel.settle.ctrl.addrLoaded :=
          not_not_intro (hlast.resolve_left herr)
        rw [if_neg haddr]
        split
        · refine ⟨?_, rfl⟩
          show m.channel.settle.finish.reg.request = none
          rw [Channel.finish]
          split <;> rfl
        · exact ⟨rfl, rfl⟩
    refine .resting hover.1 ?_
    rw [hover.2]
    exact hsame
  | beyond hreq herr haddr hremain hsame =>
    obtain ⟨rfl, hch⟩ := interrupt_of_condition hreq hint
    rw [teiHandler_wrapped herr haddr hremain] at hch ⊢
    rw [hch]
    exact .dead rfl hsame
  | resting hreq hsame =>
    simp only [interrupt, hreq] at hint
    cases hint
  | dead hreq hsame =>
    simp only [interrupt, hreq] at hint
    cases hint

theorem teiHandler_untouched (ch : Channel) : Untouched ch ch.settle.teiHandler.2 := by
  rw [Channel.teiHandler]
  split
  · exact ⟨rfl, rfl⟩
  · split
    · exact ⟨rfl, rfl⟩
    · split
      · exact ⟨rfl, rfl⟩
      · exact ⟨rfl, rfl⟩

theorem interrupt_stores {f : Follower σ} {n : Nat} {buffer : Nat → UInt8} {m m' : Machine σ}
    {events : List MasterEvent} {e : Option MasterEvent} (h : Bounded n buffer m.channel events)
    (hint : interrupt f m = some (e, m')) :
    Untouched m.channel m'.channel ∨ StoresNext m.channel m'.channel ∧
      m.channel.ctrl.loaded.toNat ≤ n ∧
      (m.channel.ctrl.loaded.toNat = n → events = [] ∧ e = none ∧ Mute m'.channel) := by
  have hcondition : ∀ {c : Condition}, m.channel.reg.request = some (.condition c) →
      Untouched m.channel m'.channel := by
    intro c hreq
    rw [(interrupt_of_condition hreq hint).2]
    exact teiHandler_untouched m.channel
  cases h with
  | starting hcounts hreq htotal hloaded => exact Or.inl (hcondition hreq)
  | ending hreq hlast hsame => exact Or.inl (hcondition hreq)
  | beyond hreq herr haddr hremain hsame => exact Or.inl (hcondition hreq)
  | clocking hcounts hreq haddr =>
    obtain ⟨r, rfl, hch⟩ := interrupt_of_byte hreq hint
    rw [hch]
    refine (txiHandler_stores r hcounts haddr).imp id fun ⟨hstores, hlast⟩ => ?_
    exact ⟨hstores, hcounts.loaded_le, fun hfull => ⟨rfl, rfl, hlast hfull⟩⟩
  | resting hreq hsame =>
    simp only [interrupt, hreq] at hint
    cases hint
  | dead hreq hsame =>
    simp only [interrupt, hreq] at hint
    cases hint

theorem reaches_bounded {f : Follower σ} {n : Nat} {buffer : Nat → UInt8} {m m' : Machine σ}
    {events before : List MasterEvent} (hn : n < 4294967296) (h : Bounded n buffer m.channel before)
    (hreach : Reaches f m events m') : Bounded n buffer m'.channel (before ++ events) := by
  induction hreach with
  | refl =>
    rw [List.append_nil]
    exact h
  | step hreach hint ih =>
    rw [← List.append_assoc]
    exact interrupt_bounded hn ih hint

theorem submit_bounded (slave : UInt32) (buffer : Nat → UInt8) (bytes : UInt32) (restart : Bool)
    (m : Machine σ) :
    Bounded bytes.toNat buffer (submit slave buffer bytes true restart m).channel [] := by
  have hcount : bytes.toNat + (0 : UInt32).toNat = bytes.toNat := rfl
  simp only [submit, Channel.slaveAddressSet, Channel.masterTransfer, Channel.readWrite,
    Channel.runHwMaster]
  split
  · exact .clocking ⟨rfl, rfl, hcount, fun _ _ => rfl⟩ rfl rfl
  · exact .starting ⟨rfl, rfl, hcount, fun _ _ => rfl⟩ rfl rfl rfl

theorem reaches_mute {f : Follower σ} {m m' : Machine σ} {events : List MasterEvent}
    (h : Mute m.channel) (hreach : Reaches f m events m') : events = [] ∧ Mute m'.channel := by
  induction hreach with
  | refl => exact ⟨rfl, h⟩
  | step hreach hint ih =>
    obtain ⟨rfl, hmute⟩ := ih
    cases hmute with
    | waiting hreq herr haddr hremain =>
      obtain ⟨rfl, hch⟩ := interrupt_of_condition hreq hint
      rw [teiHandler_wrapped herr haddr hremain] at hch ⊢
      rw [hch]
      exact ⟨rfl, .idle rfl⟩
    | idle hreq =>
      simp only [interrupt, hreq] at hint
      cases hint

/-- A channel that wrote beyond the buffer has given no callback and gives none. -/
theorem Bounded.mute {n : Nat} {buffer : Nat → UInt8} {ch : Channel} {events : List MasterEvent}
    (h : Bounded n buffer ch events) (hbeyond : ch.ctrl.pBuff n ≠ buffer n) :
    events = [] ∧ Mute ch := by
  cases h with
  | starting hcounts => exact absurd (hcounts.same n (Nat.le_refl n)) hbeyond
  | clocking hcounts => exact absurd (hcounts.same n (Nat.le_refl n)) hbeyond
  | ending hreq hlast hsame => exact absurd (hsame n (Nat.le_refl n)) hbeyond
  | beyond hreq herr haddr hremain hsame => exact ⟨rfl, .waiting hreq herr haddr hremain⟩
  | resting hreq hsame => exact absurd (hsame n (Nat.le_refl n)) hbeyond
  | dead hreq hsame => exact ⟨rfl, .idle hreq⟩

theorem Bounded.sameFrom {n : Nat} {buffer : Nat → UInt8} {ch : Channel} {events : List MasterEvent}
    (h : Bounded n buffer ch events) : SameFrom (n + 1) buffer ch.ctrl.pBuff := by
  cases h with
  | starting hcounts => exact hcounts.same.mono (Nat.le_succ n)
  | clocking hcounts => exact hcounts.same.mono (Nat.le_succ n)
  | ending hreq hlast hsame => exact hsame.mono (Nat.le_succ n)
  | beyond hreq herr haddr hremain hsame => exact hsame
  | resting hreq hsame => exact hsame.mono (Nat.le_succ n)
  | dead hreq hsame => exact hsame

/-- A follower that acknowledges the address and the only byte, but not the byte after it. -/
def eager : Follower Nat where
  start s := s
  stop s := s
  drives _ := 0xFF
  pulls s _ := s < 2
  next s _ _ := s + 1

end Mlx90640.Bus.Overrun
