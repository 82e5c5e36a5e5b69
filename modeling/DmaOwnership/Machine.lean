import DmaOwnership.Bank
import DmaOwnership.Buffer
import DmaOwnership.Ring
import DmaOwnership.Counters
import DmaOwnership.Peripheral
/-!
# The machine

Everything the library keeps: the register bank, the settings of each lane, the
counters, and the buffers, rings, peripherals and transfers made so far, each known
by the handle it got when it was made. Operations run in `Act`, a state monad whose
faults keep the state they were raised in: a fault breaks off an operation and
leaves its earlier effects in place.

A handle that refers to nothing reads as a fault `nilReference`; the operations of
the library only hand out handles that refer to something.
-/

namespace DmaOwnership

/-- The settings the library keeps for a lane. -/
structure LaneState where
  /-- The priority given to the lane's next transfers. -/
  priority : Priority := {}
  /-- The interrupt enables that the lane keeps across transfers. -/
  irq : UInt32 := 0
  /-- Whether a transfer holds the lane. -/
  owned : Bool := false
deriving DecidableEq, Repr

/-- Which way a one-shot transfer moves items. -/
inductive Direction where
  /-- From memory to the peripheral: the engine reads the buffer. -/
  | toPeripheral
  /-- From the peripheral to memory: the engine writes the buffer. -/
  | fromPeripheral
deriving DecidableEq, Repr

/-- Whether the engine reads memory in this direction. -/
def Direction.fromMemory : Direction → Bool
  | .toPeripheral => true
  | .fromPeripheral => false

/-- The buffer locked for a transfer in this direction: shared when the engine reads it,
exclusively when the engine writes it; nothing if it cannot be locked so. -/
def Direction.lock : Direction → Buffer → Option Buffer
  | .toPeripheral, b => b.lockShared?
  | .fromPeripheral, b => b.lockExclusive?

/-- A one-shot transfer. -/
structure Transfer where
  /-- The lane it runs on. -/
  lane : Lane
  /-- The buffer it holds. -/
  buffer : Nat
  /-- The peripheral it serves. -/
  peripheral : Nat
  /-- Which way it moves items. -/
  direction : Direction
  /-- Whether a wait has handed its parts back. -/
  released : Bool := false
deriving DecidableEq, Repr

/-- A circular transfer: the engine fills a ring, one half after the other, for ever. -/
structure Stream where
  /-- The lane it runs on. -/
  lane : Lane
  /-- The ring it fills. -/
  ring : Nat
  /-- The peripheral it serves. -/
  peripheral : Nat
  /-- The longest a reader may hold a half, in nanoseconds; zero or less for no limit. -/
  maxRead : Int := 0
  /-- Whether it is paused. -/
  paused : Bool := false
  /-- Whether it has been stopped. -/
  stopped : Bool := false
deriving DecidableEq, Repr

/-- The parts a finished transfer hands back: its lane, its memory and its peripheral. -/
structure Handback where
  /-- The lane. -/
  lane : Lane
  /-- The buffer or ring. -/
  memory : Nat
  /-- The peripheral. -/
  peripheral : Nat
deriving DecidableEq, Repr

/-- Everything the library keeps. -/
structure Machine where
  /-- The register bank. -/
  bank : Bank := {}
  /-- Whether the controller has handed out its lanes. -/
  split : Bool := false
  /-- The settings of the seven lanes. -/
  lanes : Vector LaneState 7 := Vector.replicate 7 {}
  /-- The counters. -/
  counters : Counters := {}
  /-- The one-shot buffers, by handle. -/
  buffers : Array Buffer := #[]
  /-- The rings, by handle. -/
  rings : Array Ring := #[]
  /-- The peripherals, by handle. -/
  peripherals : Array Peripheral := #[]
  /-- The one-shot transfers, by handle. -/
  transfers : Array Transfer := #[]
  /-- The circular transfers, by handle. -/
  streams : Array Stream := #[]
  /-- The time, in nanoseconds. -/
  clock : Nat := 0
deriving Repr

/-- An operation of the library: a state change that may break off with a fault. -/
abbrev Act := EStateM Fault Machine

/-- A state that holds a machine, so that the machine's operations run inside it.
Operations that hand memory to a callback run the callback in such a state. -/
class HoldsMachine (σ : Type) where
  /-- The machine. -/
  machine : σ → Machine
  /-- The state with its machine replaced. -/
  withMachine : σ → Machine → σ

instance : HoldsMachine Machine := ⟨fun m => m, fun _ m => m⟩

/-- Runs an operation of the machine inside a state that holds one. -/
def Act.within [HoldsMachine σ] (x : Act α) : EStateM Fault σ α := fun s =>
  match x (HoldsMachine.machine s) with
  | .ok a m => .ok a (HoldsMachine.withMachine s m)
  | .error e m => .error e (HoldsMachine.withMachine s m)

/-- The largest count a lane can be programmed with. -/
def maxCount : Nat := 0xFFFF

namespace Machine

/-- The settings of a lane. -/
def laneState (s : Machine) (l : Lane) : LaneState := l.entry s.lanes

/-- Hands out the lanes; refused once they are out. -/
def takeLanes : Act (Option Refusal) := do
  if (← get).split then return some .alreadySplit
  modify fun s => { s with split := true }
  return none

/-- Changes the register bank. -/
def modifyBank (f : Bank → Bank) : Act Unit := modify fun s => { s with bank := f s.bank }

/-- Changes the settings of a lane. -/
def modifyLane (l : Lane) (f : LaneState → LaneState) : Act Unit :=
  modify fun s => { s with lanes := l.setEntry s.lanes (f (s.laneState l)) }

/-- Changes the counters. -/
def modifyCounters (f : Counters → Counters) : Act Unit :=
  modify fun s => { s with counters := f s.counters }

/-- Counts a refusal. -/
def record (r : Refusal) : Act Unit := modifyCounters (·.record r)

/-- The buffer with the handle. -/
def buffer (id : Nat) : Act Buffer := do
  match (← get).buffers[id]? with
  | some b => pure b
  | none => throw .nilReference

/-- Changes the buffer with the handle. -/
def modifyBuffer (id : Nat) (f : Buffer → Buffer) : Act Unit :=
  modify fun s => { s with buffers := s.buffers.modify id f }

/-- The ring with the handle. -/
def ring (id : Nat) : Act Ring := do
  match (← get).rings[id]? with
  | some r => pure r
  | none => throw .nilReference

/-- Changes the ring with the handle. -/
def modifyRing (id : Nat) (f : Ring → Ring) : Act Unit :=
  modify fun s => { s with rings := s.rings.modify id f }

/-- The peripheral with the handle. -/
def peripheral (id : Nat) : Act Peripheral := do
  match (← get).peripherals[id]? with
  | some p => pure p
  | none => throw .nilReference

/-- Changes the peripheral with the handle. -/
def modifyPeripheral (id : Nat) (f : Peripheral → Peripheral) : Act Unit :=
  modify fun s => { s with peripherals := s.peripherals.modify id f }

/-- The one-shot transfer with the handle. -/
def transfer (id : Nat) : Act Transfer := do
  match (← get).transfers[id]? with
  | some t => pure t
  | none => throw .nilReference

/-- Changes the one-shot transfer with the handle. -/
def modifyTransfer (id : Nat) (f : Transfer → Transfer) : Act Unit :=
  modify fun s => { s with transfers := s.transfers.modify id f }

/-- The circular transfer with the handle. -/
def stream (id : Nat) : Act Stream := do
  match (← get).streams[id]? with
  | some t => pure t
  | none => throw .nilReference

/-- Changes the circular transfer with the handle. -/
def modifyStream (id : Nat) (f : Stream → Stream) : Act Unit :=
  modify fun s => { s with streams := s.streams.modify id f }

/-- Makes a buffer and answers its handle. -/
def addBuffer (b : Buffer) : Act Nat :=
  modifyGet fun s => (s.buffers.size, { s with buffers := s.buffers.push b })

/-- Makes a ring and answers its handle. -/
def addRing (r : Ring) : Act Nat :=
  modifyGet fun s => (s.rings.size, { s with rings := s.rings.push r })

/-- Makes a peripheral and answers its handle. -/
def addPeripheral (p : Peripheral) : Act Nat :=
  modifyGet fun s => (s.peripherals.size, { s with peripherals := s.peripherals.push p })

/-- Lets time pass, in microseconds. -/
def sleep (us : Nat) : Act Unit := modify fun s => { s with clock := s.clock + 1000 * us }

end Machine

end DmaOwnership
