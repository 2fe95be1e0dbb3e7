import Mlx90640.Bus.Transfer

/-!
# Block reads in one transfer and in chunks

`_mlx90640_i2cread` holds two variants of the same read. The one that is compiled in asks
for all words in a single transfer, the other one, under `#else`, for at most sixteen at a
time. Against a device that serves words from a memory the two leave the same buffer, and
against any device each of them fails as soon as one of its own transfers does.
-/
namespace Mlx90640.Bus.Chunks

open Mlx90640.Bus.Transfer

variable {σ : Type}

/-- `for(uint16_t off = 0; off < num;)` of the variant under `#else`, for at most `fuel`
tests. The statements of its body are those of the single transfer, on `&data[off]`. -/
def readChunks (bus : I2CBus σ) (slaveAddr : UInt8) (startAddr num : UInt16) :
    Nat → UInt16 → (Nat → UInt16) → σ → Option ((Int × (Nat → UInt16)) × σ)
  | 0, _, _, _ => none
  | fuel + 1, off, data, s =>
    if off < num then
      let transSize := num - off
      let transSize := if transSize > 0x10 then 0x10 else transSize
      let r := mlx90640I2cread bus slaveAddr (startAddr + off) transSize
        (fun k => data (off.toNat + k)) s
      let data := fun k => if k < off.toNat then data k else r.1.2 (k - off.toNat)
      if r.1.1 ≠ 0 then some ((-1, data), r.2)
      else readChunks bus slaveAddr startAddr num fuel (off + transSize) data r.2
    else some ((0, data), s)

/-- `_mlx90640_i2cread`, the variant under `#else`. -/
def mlx90640I2creadChunked (bus : I2CBus σ) (slaveAddr : UInt8) (startAddr num : UInt16)
    (fuel : Nat) (data : Nat → UInt16) (s : σ) : Option ((Int × (Nat → UInt16)) × σ) :=
  readChunks bus slaveAddr startAddr num fuel 0 data s

/-- The bytes of `n` words from `addr` on, most significant byte first; the address wraps. -/
def wordBytes (mem : UInt16 → UInt16) (addr : UInt16) (n : Nat) : List UInt8 :=
  (List.range n).flatMap fun k =>
    [hiByte (mem (addr + UInt16.ofNat k)), loByte (mem (addr + UInt16.ofNat k))]

/-- As long as it is in a state of `ready`, the device answers every read with the words of
`mem`, and is ready again. -/
structure Serves (bus : I2CBus σ) (slaveAddr : UInt8) (mem : UInt16 → UInt16)
    (ready : σ → Prop) : Prop where
  answer : ∀ s, ready s → ∀ addr num bp, num.toNat ≤ 32767 →
    (bus.transfer (readMsgs slaveAddr addr num bp) s).1 = ⟨2, wordBytes mem addr num.toNat⟩
  next : ∀ s, ready s → ∀ addr num bp, num.toNat ≤ 32767 →
    ready (bus.transfer (readMsgs slaveAddr addr num bp) s).2

def served (mem : UInt16 → UInt16) (startAddr : UInt16) (n : Nat) (data : Nat → UInt16) :
    Nat → UInt16 :=
  fun k => if k < n then mem (startAddr + UInt16.ofNat k) else data k

theorem wordBytes_succ (mem : UInt16 → UInt16) (addr : UInt16) (n : Nat) :
    wordBytes mem addr (n + 1) = wordBytes mem addr n ++
      [hiByte (mem (addr + UInt16.ofNat n)), loByte (mem (addr + UInt16.ofNat n))] := by
  simp [wordBytes, List.range_succ]

theorem length_wordBytes (mem : UInt16 → UInt16) (addr : UInt16) (n : Nat) :
    (wordBytes mem addr n).length = 2 * n := by
  induction n with
  | zero => rfl
  | succ n ih =>
    rw [wordBytes_succ, List.length_append, ih]
    rfl

theorem receivedWord_wordBytes (mem : UInt16 → UInt16) (addr : UInt16) {n k : Nat} (hk : k < n) :
    receivedWord (wordBytes mem addr n) k = mem (addr + UInt16.ofNat k) := by
  induction n with
  | zero => omega
  | succ n ih =>
    have hlength := length_wordBytes mem addr n
    rw [wordBytes_succ]
    by_cases hlast : k = n
    · subst hlast
      simp [receivedWord, List.getD_eq_getElem?_getD, hlength]
    · have hk' : k < n := by omega
      rw [← ih hk']
      simp only [receivedWord, List.getD_eq_getElem?_getD]
      rw [List.getElem?_append_left (by omega), List.getElem?_append_left (by omega)]

section Served

variable {bus : I2CBus σ} {slaveAddr : UInt8} {mem : UInt16 → UInt16} {ready : σ → Prop}

theorem Serves.read (h : Serves bus slaveAddr mem ready) (num : UInt16) (hnum : num.toNat ≤ 32767)
    (startAddr : UInt16) (data : Nat → UInt16) {s : σ} (hs : ready s) :
    ∃ s', mlx90640I2cread bus slaveAddr startAddr num data s =
      ((0, served mem startAddr num.toNat data), s') ∧ ready s' := by
  have hanswer := h.answer s hs startAddr num (bytesOf data) hnum
  have hret : (readTransfer bus slaveAddr startAddr num data s).1.ret = 2 := by
    rw [readTransfer, hanswer]
  have hreceived : (readTransfer bus slaveAddr startAddr num data s).1.received =
      wordBytes mem startAddr num.toNat := by
    rw [readTransfer, hanswer]
  refine ⟨_, ?_, h.next s hs startAddr num (bytesOf data) hnum⟩
  rw [mlx90640I2cread_ok bus slaveAddr startAddr num data s (by omega) hret, hreceived]
  congr 2
  funext k
  simp only [served]
  split
  case isTrue hk => exact receivedWord_wordBytes mem startAddr hk
  case isFalse => rfl

theorem served_append (mem : UInt16 → UInt16) (startAddr off : UInt16) (n : Nat)
    (orig : Nat → UInt16) :
    (fun k => if k < off.toNat then served mem startAddr off.toNat orig k else
      served mem (startAddr + off) n
        (fun k => served mem startAddr off.toNat orig (off.toNat + k)) (k - off.toNat)) =
      served mem startAddr (off.toNat + n) orig := by
  funext k
  by_cases hk : k < off.toNat
  · have hlt : k < off.toNat + n := by omega
    simp only [if_pos hk, served, if_pos hlt]
  · obtain ⟨j, rfl⟩ : ∃ j, k = off.toNat + j := ⟨k - off.toNat, by omega⟩
    have hshift : off.toNat + j < off.toNat + n ↔ j < n := by omega
    have haddr : startAddr + off + UInt16.ofNat j =
        startAddr + UInt16.ofNat (off.toNat + j) := by
      rw [UInt16.ofNat_add, UInt16.ofNat_toNat, UInt16.add_assoc]
    simp only [if_neg hk, served, Nat.add_sub_cancel_left, hshift, haddr]

theorem transSize_toNat {off num : UInt16} (h : off < num) :
    let transSize := if num - off > 0x10 then 0x10 else num - off
    transSize.toNat ≤ 16 ∧ 0 < transSize.toNat ∧
      (off + transSize).toNat = off.toNat + transSize.toNat ∧
      off.toNat + transSize.toNat ≤ num.toNat := by
  have hlt : off.toNat < num.toNat := UInt16.lt_iff_toNat_lt.mp h
  have hnum := num.toNat_lt
  have hsub : (num - off).toNat = num.toNat - off.toNat :=
    UInt16.toNat_sub_of_le _ _ (UInt16.le_iff_toNat_le.mpr hlt.le)
  have hsixteen : (0x10 : UInt16).toNat = 16 := rfl
  have hbig : num - off > 0x10 ↔ 16 < num.toNat - off.toNat := by
    rw [gt_iff_lt, UInt16.lt_iff_toNat_lt, hsub, hsixteen]
  intro transSize
  have hsize : transSize.toNat = if 16 < num.toNat - off.toNat then 16 else num.toNat - off.toNat := by
    simp only [transSize, apply_ite UInt16.toNat, hbig, hsub, hsixteen]
  have hadd : (off + transSize).toNat = (off.toNat + transSize.toNat) % 65536 := UInt16.toNat_add _ _
  split at hsize <;> omega

theorem Serves.readChunks (h : Serves bus slaveAddr mem ready) {num : UInt16} (startAddr : UInt16)
    (orig : Nat → UInt16) (fuel : Nat) (off : UInt16) {s : σ} (hs : ready s)
    (hoff : off.toNat ≤ num.toNat) (hfuel : num.toNat - off.toNat < fuel) :
    ∃ s', Chunks.readChunks bus slaveAddr startAddr num fuel off
        (served mem startAddr off.toNat orig) s =
      some ((0, served mem startAddr num.toNat orig), s') ∧ ready s' := by
  induction fuel generalizing off s with
  | zero => omega
  | succ fuel ih =>
    rw [Chunks.readChunks]
    by_cases hlt : off < num
    · obtain ⟨hsmall, hpos, hadd, hle⟩ := transSize_toNat hlt
      obtain ⟨s', hread, hs'⟩ := h.read (if num - off > 0x10 then 0x10 else num - off)
        (by omega) (startAddr + off) (fun k => served mem startAddr off.toNat orig (off.toNat + k)) hs
      obtain ⟨s'', hrest, hs''⟩ := ih (off + if num - off > 0x10 then 0x10 else num - off) hs'
        (by omega) (by omega)
      refine ⟨s'', ?_, hs''⟩
      simp only [if_pos hlt, hread, ne_eq, not_true_eq_false, if_false]
      rw [served_append, ← hadd]
      exact hrest
    · have hend : off.toNat = num.toNat := by
        have hge := UInt16.not_lt.mp hlt
        have := UInt16.le_iff_toNat_le.mp hge
        omega
      rw [if_neg hlt, hend]
      exact ⟨s, rfl, hs⟩

end Served

/-- The same bus, with what each transfer reported written down in order. -/
def logged (bus : I2CBus σ) : I2CBus (σ × List Int) where
  transfer msgs s :=
    let (r, s') := bus.transfer msgs s.1
    (r, s', s.2 ++ [r.ret])
  indeterminate s := bus.indeterminate s.1
  full msgs s := bus.full msgs s.1

/-- A read on the logged bus is the read itself, which fails exactly when one of the reports
that it adds to the log is not 2. -/
def ReadLogged (plain : Option ((Int × (Nat → UInt16)) × σ))
    (run : Option ((Int × (Nat → UInt16)) × σ × List Int)) (before : List Int) : Prop :=
  ∃ code data s rets, plain = some ((code, data), s) ∧
    run = some ((code, data), s, before ++ rets) ∧
    code = if (∃ ret ∈ rets, ret ≠ 2) then -1 else 0

section Logged

variable (bus : I2CBus σ) (slaveAddr : UInt8) (startAddr : UInt16)

theorem mlx90640I2cread_logged (num : UInt16) (data : Nat → UInt16) (s : σ) (before : List Int) :
    ∃ data' s' ret, mlx90640I2cread bus slaveAddr startAddr num data s =
        ((if ret = 2 then 0 else -1, data'), s') ∧
      mlx90640I2cread (logged bus) slaveAddr startAddr num data (s, before) =
        ((if ret = 2 then 0 else -1, data'), s', before ++ [ret]) := by
  rcases hplain : bus.transfer (readMsgs slaveAddr startAddr num (bytesOf data)) s with ⟨r, s'⟩
  have hlog : (logged bus).transfer (readMsgs slaveAddr startAddr num (bytesOf data)) (s, before) =
      (r, s', before ++ [r.ret]) := by
    simp only [logged, hplain]
  by_cases hret : r.ret = 2
  · exact ⟨_, s', r.ret, by simp [mlx90640I2cread, hplain, hret]; rfl,
      by simp [mlx90640I2cread, hlog, hret]⟩
  · exact ⟨_, s', r.ret, by simp [mlx90640I2cread, hplain, hret]; rfl,
      by simp [mlx90640I2cread, hlog, hret]⟩

theorem readChunks_logged (num : UInt16) (fuel : Nat) (off : UInt16) (data : Nat → UInt16) (s : σ)
    (before : List Int) (hoff : off.toNat ≤ num.toNat) (hfuel : num.toNat - off.toNat < fuel) :
    ReadLogged (readChunks bus slaveAddr startAddr num fuel off data s)
      (readChunks (logged bus) slaveAddr startAddr num fuel off data (s, before)) before := by
  induction fuel generalizing off data s before with
  | zero => omega
  | succ fuel ih =>
    rw [readChunks, readChunks]
    by_cases hlt : off < num
    · obtain ⟨hsmall, hpos, hadd, hle⟩ := transSize_toNat hlt
      obtain ⟨data', s', ret, hplain, hlog⟩ := mlx90640I2cread_logged bus slaveAddr
        (startAddr + off) (if num - off > 0x10 then 0x10 else num - off)
        (fun k => data (off.toNat + k)) s before
      simp only [if_pos hlt, hplain, hlog]
      by_cases hret : ret = 2
      · obtain ⟨code, final, s'', rets, hrest, hrestLog, hcode⟩ :=
          ih (off + if num - off > 0x10 then 0x10 else num - off)
            (fun k => if k < off.toNat then data k else data' (k - off.toNat)) s' (before ++ [ret])
            (by omega) (by omega)
        refine ⟨code, final, s'', ret :: rets, ?_, ?_, ?_⟩
        · simpa only [if_pos hret, ne_eq, not_true_eq_false, if_false] using hrest
        · simpa only [if_pos hret, ne_eq, not_true_eq_false, if_false, List.append_assoc,
            List.singleton_append] using hrestLog
        · simpa [hret] using hcode
      · refine ⟨-1, fun k => if k < off.toNat then data k else data' (k - off.toNat), s', [ret],
          ?_, ?_, ?_⟩
        · simp [hret]
        · simp [hret]
        · simp [hret]
    · simp only [if_neg hlt]
      exact ⟨0, data, s, [], rfl, by simp, by simp⟩

end Logged

/-- On a device that serves words the two variants return 0 and leave the same buffer, also
where the addresses wrap and where the last chunk is short; on any bus each variant returns
-1 exactly when one of its own transfers does not report two messages. -/
theorem block_read_eq_chunked_read (bus : I2CBus σ) (slaveAddr : UInt8) (startAddr num : UInt16)
    (hnum : num.toNat ≤ 32767) (data : Nat → UInt16) (s : σ) (fuel : Nat)
    (hfuel : num.toNat < fuel) :
    (∀ mem ready, Serves bus slaveAddr mem ready → ready s →
      (∃ s', mlx90640I2cread bus slaveAddr startAddr num data s =
        ((0, served mem startAddr num.toNat data), s')) ∧
      ∃ s', mlx90640I2creadChunked bus slaveAddr startAddr num fuel data s =
        some ((0, served mem startAddr num.toNat data), s')) ∧
    ReadLogged (some (mlx90640I2cread bus slaveAddr startAddr num data s))
      (some (mlx90640I2cread (logged bus) slaveAddr startAddr num data (s, []))) [] ∧
    ReadLogged (mlx90640I2creadChunked bus slaveAddr startAddr num fuel data s)
      (mlx90640I2creadChunked (logged bus) slaveAddr startAddr num fuel data (s, [])) [] := by
  refine ⟨fun mem ready h hs => ⟨?_, ?_⟩, ?_, ?_⟩
  · obtain ⟨s', hread, -⟩ := h.read num hnum startAddr data hs
    exact ⟨s', hread⟩
  · obtain ⟨s', hread, -⟩ := h.readChunks startAddr data fuel 0 hs (Nat.zero_le _) hfuel
    exact ⟨s', hread⟩
  · obtain ⟨data', s', ret, hplain, hlog⟩ :=
      mlx90640I2cread_logged bus slaveAddr startAddr num data s []
    refine ⟨_, data', s', [ret], congrArg some hplain, congrArg some hlog, ?_⟩
    by_cases hret : ret = 2
    · simp [hret]
    · simp [hret]
  · exact readChunks_logged bus slaveAddr startAddr num fuel 0 data s [] (Nat.zero_le _) hfuel

/-- A register file behind the bus, read from the address in the first message on. -/
def memoryBus (mem : UInt16 → UInt16) : I2CBus Unit where
  transfer msgs _ :=
    match msgs with
    | [w, r] =>
      if readLength [w, r] = 2 * (r.len.toNat / 2) then
        (⟨2, wordBytes mem (ofBytes (w.buf.getD 0 0) (w.buf.getD 1 0)) (r.len.toNat / 2)⟩, ())
      else (⟨-1, []⟩, ())
    | _ => (⟨-1, []⟩, ())
  indeterminate _ _ := 0
  full := by
    intro msgs s h
    split at h
    · split at h
      case isTrue hlength =>
        rw [if_pos hlength, hlength]
        exact length_wordBytes _ _ _
      case isFalse => cases h
    · simp at h

theorem memoryBus_serves (slaveAddr : UInt8) (mem : UInt16 → UInt16) :
    Serves (memoryBus mem) slaveAddr mem fun _ => True where
  answer s _ addr num bp hnum := by
    have hlen : (num * 2).toNat = 2 * num.toNat := two_mul_toNat (by omega)
    have hhalf : (num * 2).toNat / 2 = num.toNat := by omega
    have hlength : readLength (readMsgs slaveAddr addr num bp) = 2 * ((num * 2).toNat / 2) := by
      rw [hhalf, ← hlen]
      exact readLength_read rfl rfl
    have haddr : ofBytes ([hiByte addr, loByte addr].getD 0 0)
        ([hiByte addr, loByte addr].getD 1 0) = addr := ofBytes_hi_lo addr
    simp only [readMsgs] at hlength
    simp only [memoryBus, readMsgs]
    rw [if_pos hlength, haddr, hhalf]
  next _ _ _ _ _ _ := trivial

/-- Twenty words across the end of the address space: a full chunk and a short one. -/
theorem block_read_twenty_words :
    (20 : UInt16).toNat ≤ 32767 ∧ (20 : UInt16).toNat < 21 ∧
    (∃ s', mlx90640I2cread (memoryBus (· * 3)) 0x33 0xFFF8 20 (fun _ => 7) () =
      ((0, served (· * 3) 0xFFF8 20 fun _ => 7), s')) ∧
    ∃ s', mlx90640I2creadChunked (memoryBus (· * 3)) 0x33 0xFFF8 20 21 (fun _ => 7) () =
      some ((0, served (· * 3) 0xFFF8 20 fun _ => 7), s') :=
  ⟨by decide, by decide,
    (block_read_eq_chunked_read (memoryBus (· * 3)) 0x33 0xFFF8 20 (by decide) (fun _ => 7) () 21
      (by decide)).1 (· * 3) (fun _ => True) (memoryBus_serves 0x33 (· * 3)) trivial⟩

end Mlx90640.Bus.Chunks
