import DmaOwnership.Machine
/-!
# Scenario answers

Every step answers with what it produced, how it failed, and a view of the whole
state after it. The view shows memory references by the ids the scenario gave the
buffers and rings, never by address.
-/

namespace DmaOwnership.Scenario

/-- A memory-address register as the view shows it. -/
inductive MemView where
  /-- Zero. -/
  | zero
  /-- The first item of the buffer with this id. -/
  | buffer (id : Nat)
  /-- The first item of the ring with this id. -/
  | ring (id : Nat)
  /-- An address of nothing the scenario made. -/
  | unknown
deriving DecidableEq, Repr

/-- The registers of a lane as the view shows them. -/
structure RegsView where
  /-- The control word. -/
  control : UInt32
  /-- The count. -/
  count : UInt32
  /-- The peripheral address. -/
  peripheral : UInt64
  /-- The memory reference. -/
  memory : MemView
deriving DecidableEq, Repr

/-- The state after a step. -/
structure View where
  /-- The status word (reading it for the view is not counted). -/
  flags : UInt32
  /-- How many times the status word has been read. -/
  reads : Nat
  /-- The registers of the seven lanes. -/
  lanes : List RegsView
  /-- Whether each lane is in use. -/
  inUse : List Bool
  /-- The events scheduled on each lane. -/
  pending : List (List Event)
  /-- Each buffer's access state and length. -/
  buffers : List (Access × Nat)
  /-- Each ring's phase and half length; nothing where making it failed. -/
  rings : List (Option (Phase × Nat))
  /-- Each peripheral: enabled, enables, disables. -/
  peripherals : List (Bool × Nat × Nat)
  /-- Whether each circular transfer is paused; `false` where starting it failed. -/
  paused : List Bool
  /-- The counters. -/
  counters : Counters
deriving Repr

/-- What a step produced. -/
inductive Reply where
  /-- A number: an id, a register, a count. -/
  | nat (n : Nat)
  /-- A yes or no. -/
  | bool (b : Bool)
  /-- Events. -/
  | events (es : List Event)
  /-- The registers of a lane. -/
  | registers (r : RegsView)
  /-- The counters. -/
  | counters (c : Counters)
  /-- Items. -/
  | items (xs : List Nat)
  /-- A callback ran, with the items lent to it and, for a peek, the half. -/
  | lent (data : List Nat) (half : Option Half)
  /-- The callback did not run. -/
  | notLent
  /-- A transfer handed its parts back; whether they are the ones it was given. -/
  | handback (same : Bool)
deriving Repr

/-- How a step failed without breaking off. -/
inductive Failure where
  /-- The library refused. -/
  | refused (r : Refusal)
  /-- The step's arguments were wrong; the library was not called. -/
  | invalid (message : String)
deriving DecidableEq, Repr

/-- The answer to a step. -/
structure Answer where
  /-- What it produced. -/
  value : Option Reply := none
  /-- The answers of the steps run inside its callback, if it had any. -/
  inner : Option (List Answer) := none
  /-- How it failed, if it did. -/
  failure : Option Failure := none
  /-- The message of the fault it broke off with, if it did. -/
  fault : Option String := none
  /-- The state after it. -/
  state : View

end DmaOwnership.Scenario
