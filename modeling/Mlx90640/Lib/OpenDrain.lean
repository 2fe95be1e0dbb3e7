import Mathlib.Data.List.Basic

/-!
# Two-wire transactions

A master and a follower share an open-drain data line: a bit is low as soon as one of them
pulls it low. A byte takes nine clocks, eight for its bits and one for the acknowledgement,
which is a low ninth bit. A transaction opens with a start condition and the address byte,
whose lowest bit is the direction, and ends with a stop condition, or with another start
condition that keeps the bus.
-/
namespace Mlx90640.Lib.OpenDrain

/-- A party that follows the clock of the master. -/
structure Follower (σ : Type) where
  start : σ → σ
  stop : σ → σ
  /-- The bits that it leaves high in the next eight. -/
  drives : σ → UInt8
  /-- Whether it pulls the ninth bit low, after `byte` was on the line. -/
  pulls : σ → UInt8 → Bool
  /-- The nine clocks are over. -/
  next : σ → UInt8 → Bool → σ

/-- The byte on the line, and whether its ninth bit was low. -/
structure Clocked where
  byte : UInt8
  low : Bool
  deriving DecidableEq, Repr

variable {σ : Type}

namespace Follower

variable (f : Follower σ)

/-- Nine clocks in which the master sends `sent`, and pulls the ninth bit low if `pull`. -/
def clock (sent : UInt8) (pull : Bool) (s : σ) : Clocked × σ :=
  let byte := sent &&& f.drives s
  let low := pull || f.pulls s byte
  (⟨byte, low⟩, f.next s byte low)

/-- Bytes up to the first that is not acknowledged, and whether all were. -/
def send : List UInt8 → σ → Bool × σ
  | [], s => (true, s)
  | b :: bs, s =>
    let r := f.clock b false s
    if r.1.low then send bs r.2 else (false, r.2)

/-- The released line, clocked for `n` bytes; all but the last are acknowledged. -/
def receive : Nat → σ → List UInt8 × σ
  | 0, s => ([], s)
  | n + 1, s =>
    let r := f.clock 0xFF (decide (n ≠ 0)) s
    let rest := receive n r.2
    (r.1.byte :: rest.1, rest.2)

/-- Whether the follower leaves the ninth bit of the last byte to the master. A follower that
talks does, since that bit is not its own. -/
def releases : Nat → σ → Bool
  | 0, _ => true
  | 1, s => !f.pulls s (0xFF &&& f.drives s)
  | n + 2, s => releases (n + 1) (f.clock 0xFF true s).2

@[simp] theorem clock_true_low (sent : UInt8) (s : σ) : (f.clock sent true s).1.low = true := rfl

end Follower

inductive Payload where
  | write (bytes : List UInt8)
  | read (n : Nat)
  deriving DecidableEq, Repr

def Payload.direction : Payload → UInt8
  | .write _ => 0
  | .read _ => 1

/-- A payload for an address; `hold` keeps the bus with another start condition. -/
structure Transaction where
  address : UInt8
  payload : Payload
  hold : Bool
  deriving DecidableEq, Repr

def Transaction.addressByte (t : Transaction) : UInt8 := (t.address <<< 1) ||| t.payload.direction

/-- The bus: whether a start condition was given ahead, and the follower. -/
structure Line (σ : Type) where
  held : Bool
  follower : σ

def Line.opened (f : Follower σ) (line : Line σ) : σ :=
  if line.held then line.follower else f.start line.follower

def Line.after (f : Follower σ) (hold : Bool) (s : σ) : Line σ :=
  if hold then ⟨true, f.start s⟩ else ⟨false, f.stop s⟩

namespace Transaction

variable (f : Follower σ)

/-- The payload, once the address was acknowledged: the bytes that were read, unless a byte
was refused. -/
def transferPayload : Payload → σ → Option (List UInt8) × σ
  | .write bytes, s =>
    let r := f.send bytes s
    (if r.1 then some [] else none, r.2)
  | .read n, s =>
    let r := f.receive n s
    (some r.1, r.2)

/-- A whole transaction: what was read, or that the follower refused, and the bus after it. -/
def run (t : Transaction) (line : Line σ) : Option (List UInt8) × Line σ :=
  let addressed := f.clock t.addressByte false (line.opened f)
  let r := if addressed.1.low then transferPayload f t.payload addressed.2 else (none, addressed.2)
  (r.1, if r.1.isSome then Line.after f t.hold r.2 else ⟨false, f.stop r.2⟩)

/-- The follower does not disturb the acknowledgement of the last byte that it sends. -/
def releases (t : Transaction) (line : Line σ) : Bool :=
  match t.payload with
  | .write _ => true
  | .read n =>
    let addressed := f.clock t.addressByte false (line.opened f)
    !addressed.1.low || f.releases n addressed.2

variable (t : Transaction) (line : Line σ)

theorem run_write {bytes : List UInt8} (ht : t.payload = .write bytes) :
    t.run f line =
      if (f.send (t.addressByte :: bytes) (line.opened f)).1
      then (some [], Line.after f t.hold (f.send (t.addressByte :: bytes) (line.opened f)).2)
      else (none, ⟨false, f.stop (f.send (t.addressByte :: bytes) (line.opened f)).2⟩) := by
  rw [run, ht, Follower.send]
  cases hlow : (f.clock t.addressByte false (line.opened f)).1.low with
  | true =>
    simp only [transferPayload, if_true]
    cases (f.send bytes (f.clock t.addressByte false (line.opened f)).2).1 <;> rfl
  | false => rfl

theorem run_read_refused (h : (f.clock t.addressByte false (line.opened f)).1.low = false) :
    t.run f line =
      (none, ⟨false, f.stop (f.clock t.addressByte false (line.opened f)).2⟩) := by
  simp only [run, h, Bool.false_eq_true, if_false]
  rfl

theorem run_read {n : Nat} (ht : t.payload = .read n)
    (h : (f.clock t.addressByte false (line.opened f)).1.low = true) :
    t.run f line =
      (some (f.receive n (f.clock t.addressByte false (line.opened f)).2).1,
        Line.after f t.hold (f.receive n (f.clock t.addressByte false (line.opened f)).2).2) := by
  simp only [run, h, ht, if_true, transferPayload]
  rfl

end Transaction

end Mlx90640.Lib.OpenDrain
