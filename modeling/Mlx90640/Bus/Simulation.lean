import Mlx90640.Lib.Simulation
import Mlx90640.Bus.FrameData
import Mlx90640.Bus.ControlRegister
import Mlx90640.Bus.Registers

/-!
# The driver over two buses

A bus simulates another one when related states answer every transfer alike and stay related.
The sensor's driver cannot tell two such buses apart: each of its functions returns the same
value over both, from the verified write to the acquisition of a frame.
-/
namespace Mlx90640.Bus.Simulation

open Mlx90640.Lib.Simulation
open Mlx90640.Bus.Transfer
open Mlx90640.Bus.ControlRegister
open Mlx90640.Bus.FrameData
open Mlx90640.Bus.Driver
open Mlx90640.Bus.Registers

variable {σ τ : Type}

/-- Related states answer messages with seven-bit addresses alike, and find the same on the
stack. -/
structure Simulates (concrete : I2CBus σ) (plain : I2CBus τ) (R : σ → τ → Prop) : Prop where
  transfer : ∀ msgs : List I2CMsg, (∀ msg ∈ msgs, msg.flags &&& RT_I2C_ADDR_10BIT = 0) →
    ∀ s t, R s t → Agree R (concrete.transfer msgs s) (plain.transfer msgs t)
  indeterminate : ∀ s t, R s t → ∀ l, concrete.indeterminate s l = plain.indeterminate t l

variable {concrete : I2CBus σ} {plain : I2CBus τ} {R : σ → τ → Prop}
  (h : Simulates concrete plain R) (slaveAddr : UInt8) {s : σ} {t : τ} (hst : R s t)

theorem sevenBit_writeMsgs (writeAddr data : UInt16) :
    ∀ msg ∈ writeMsgs slaveAddr writeAddr data, msg.flags &&& RT_I2C_ADDR_10BIT = 0 := by
  intro msg hmsg
  rw [List.mem_singleton.mp hmsg]
  show RT_I2C_WR &&& RT_I2C_ADDR_10BIT = 0
  decide

include h hst

theorem read_agree (startAddr num : UInt16) (data : Nat → UInt16) :
    Agree R (mlx90640I2cread concrete slaveAddr startAddr num data s)
      (mlx90640I2cread plain slaveAddr startAddr num data t) := by
  have hagree := h.transfer (readMsgs slaveAddr startAddr num (bytesOf data))
    (sevenBit_readMsgs slaveAddr startAddr num (bytesOf data)) s t hst
  cases hconcrete : concrete.transfer (readMsgs slaveAddr startAddr num (bytesOf data)) s
  cases hplain : plain.transfer (readMsgs slaveAddr startAddr num (bytesOf data)) t
  rw [hconcrete, hplain] at hagree
  obtain ⟨r, hst⟩ := hagree
  simp only [mlx90640I2cread, hconcrete, hplain]
  split
  · exact .intro _ hst
  · exact .intro _ hst

theorem readWord_agree (addr w : UInt16) :
    Agree R (readWord (mlx90640I2cread concrete slaveAddr addr 1) w s)
      (readWord (mlx90640I2cread plain slaveAddr addr 1) w t) :=
  (read_agree h slaveAddr hst addr 1 fun _ => w).map fun r => (r.1, r.2 0)

theorem write_agree (writeAddr data : UInt16) :
    Agree R (i2cWrite (some concrete) slaveAddr writeAddr data s)
      (i2cWrite (some plain) slaveAddr writeAddr data t) := by
  have hagree := h.transfer (writeMsgs slaveAddr writeAddr data)
    (sevenBit_writeMsgs slaveAddr writeAddr data) s t hst
  have hlocal := h.indeterminate s t hst .dataCheck
  cases hconcrete : concrete.transfer (writeMsgs slaveAddr writeAddr data) s
  cases hplain : plain.transfer (writeMsgs slaveAddr writeAddr data) t
  rw [hconcrete, hplain] at hagree
  obtain ⟨r, hst⟩ := hagree
  simp only [i2cWrite, mlx90640I2cwrite, hconcrete, hplain, hlocal]
  split
  · exact .intro _ hst
  · refine (readWord_agree h slaveAddr hst writeAddr _).cont fun word s t hst => ?_
    obtain ⟨error, dataCheck⟩ := word
    dsimp only
    split
    · exact .intro _ hst
    · exact .intro _ hst

theorem updateControl_agree (update : UInt16 → UInt16) :
    Agree R (updateControl (some concrete) slaveAddr update s)
      (updateControl (some plain) slaveAddr update t) := by
  have hread := readWord_agree h slaveAddr hst 0x800D (plain.indeterminate t .controlRegister1)
  unfold updateControl
  dsimp only
  rw [stackWord_some, stackWord_some, h.indeterminate s t hst, i2cRead_some, i2cRead_some]
  refine hread.cont fun word s t hst => ?_
  obtain ⟨error, controlRegister1⟩ := word
  dsimp only
  split
  · exact write_agree h slaveAddr hst 0x800D (update controlRegister1)
  · exact .intro _ hst

theorem pollStatus_agree (fuel : Nat) (w : UInt16) :
    Option.Rel (Agree R) (pollStatus (some concrete) slaveAddr fuel w s)
      (pollStatus (some plain) slaveAddr fuel w t) := by
  induction fuel generalizing w s t with
  | zero => exact .none
  | succ fuel ih =>
    unfold pollStatus
    rw [i2cRead_some, i2cRead_some]
    refine (readWord_agree h slaveAddr hst 0x8000 w).cont fun word s t hst => ?_
    dsimp only
    split
    · exact .some (.intro _ hst)
    · split
      · exact ih hst word.2
      · exact .some (.intro _ hst)

theorem frameAttempt_agree (l : Locals) :
    Agree R (frameAttempt (some concrete) slaveAddr l s)
      (frameAttempt (some plain) slaveAddr l t) := by
  unfold frameAttempt
  rw [i2cRead_some, i2cRead_some]
  refine (write_agree h slaveAddr hst 0x8000 0x0030).cont fun code s t hst => ?_
  dsimp only
  split
  · exact .intro _ hst
  · refine (read_agree h slaveAddr hst 0x0400 832 l.frameData).cont fun frame s t hst => ?_
    dsimp only
    split
    · exact .intro _ hst
    · refine (readWord_agree h slaveAddr hst 0x8000 l.statusRegister).cont fun word s t hst => ?_
      dsimp only
      split
      · exact .intro _ hst
      · exact .intro _ hst

theorem retryFrame_agree (n : Nat) (l : Locals) :
    Agree R (retryFrame (some concrete) slaveAddr n l s)
      (retryFrame (some plain) slaveAddr n l t) := by
  induction n generalizing l s t with
  | zero => exact .intro _ hst
  | succ n ih =>
    unfold retryFrame
    refine (frameAttempt_agree h slaveAddr hst l).cont fun outcome s t hst => ?_
    dsimp only
    split
    · exact .intro _ hst
    · split
      · exact ih hst outcome.2
      · exact .intro _ hst

theorem closeFrame_agree (controlRegister1 : UInt16) (l : Locals) :
    Agree R (closeFrame (some concrete) slaveAddr controlRegister1 l s)
      (closeFrame (some plain) slaveAddr controlRegister1 l t) := by
  unfold closeFrame
  rw [i2cRead_some, i2cRead_some]
  split
  · exact .intro _ hst
  · refine (readWord_agree h slaveAddr hst 0x800D controlRegister1).cont fun word s t hst => ?_
    dsimp only
    split
    · exact .intro _ hst
    · exact .intro _ hst

/-- The same frame arrives with the same code over both buses. -/
theorem getFrameData_agree (fuel : Nat) (frameData : Nat → UInt16) :
    Option.Rel (Agree R) (getFrameData (some concrete) fuel slaveAddr frameData s)
      (getFrameData (some plain) fuel slaveAddr frameData t) := by
  have hpoll := pollStatus_agree h slaveAddr hst fuel (plain.indeterminate t .statusRegister)
  unfold getFrameData
  simp only [stackWord_some, h.indeterminate s t hst]
  revert hpoll
  generalize pollStatus (some concrete) slaveAddr fuel _ s = x
  generalize pollStatus (some plain) slaveAddr fuel _ t = y
  intro hpoll
  cases hpoll with
  | none => exact .none
  | some hpolled =>
    refine hpolled.cont fun word s t hst => ?_
    obtain ⟨error, statusRegister⟩ := word
    dsimp only
    split
    · exact .some (.intro _ hst)
    · refine (retryFrame_agree h slaveAddr hst 5 ⟨frameData, statusRegister, 0⟩).cont
        fun outcome s t hst => ?_
      dsimp only
      split
      · exact .some (.intro _ hst)
      · exact .some (closeFrame_agree h slaveAddr hst _ outcome.2)

end Mlx90640.Bus.Simulation
