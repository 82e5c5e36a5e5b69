import DmaOwnership.Event
/-!
# Scenario requests

A scenario drives the library one step at a time. A step names an operation and
carries the arguments it was given, each of which may be missing; the session
checks them in the order each operation lists and answers a message for the first
one that is wrong. Four operations (`borrow`, `borrow_mut`, `peek`, `read`) lend
memory to a callback, and a step for them may carry the steps to run inside it.
-/

namespace DmaOwnership.Scenario

/-- An event as a step gives it. -/
inductive EventArg where
  /-- A name such as `half`. -/
  | name (s : String)
  /-- A whole number, meant as the event's code. -/
  | code (n : Int)
  /-- Anything else, kept as the text it was written as. -/
  | other (text : String)
deriving DecidableEq, Repr

/-- The arguments of a step. -/
structure Request where
  /-- The operation. -/
  op : String
  /-- A lane number. -/
  ch : Option Int := none
  /-- An event. -/
  event : Option EventArg := none
  /-- How many status reads from now an event falls due. -/
  polls : Option Int := none
  /-- A mask of status flags. -/
  mask : Option Int := none
  /-- A register index. -/
  index : Option Int := none
  /-- A register value. -/
  value : Option Int := none
  /-- A priority level. -/
  priority : Option Int := none
  /-- An item width in bits. -/
  width : Option Int := none
  /-- Items. -/
  data : Option (List Int) := none
  /-- A number of items. -/
  len : Option Int := none
  /-- A peripheral address. -/
  addr : Option Int := none
  /-- A buffer. -/
  buf : Option Int := none
  /-- A ring. -/
  circ : Option Int := none
  /-- A peripheral. -/
  periph : Option Int := none
  /-- A one-shot transfer. -/
  tr : Option Int := none
  /-- A circular transfer. -/
  ct : Option Int := none
  /-- An item offset. -/
  offset : Option Int := none
  /-- Items to set, as index and value pairs. -/
  set : Option (List (Int × Int)) := none
  /-- A read-time limit in nanoseconds. -/
  maxReadNs : Option Int := none
  /-- A time in microseconds. -/
  us : Option Int := none
  /-- A message. -/
  message : Option String := none
deriving Repr

/-- A step: a request and, if given, the steps to run inside its callback. -/
inductive Step where
  /-- The request with the steps of its callback. -/
  | mk (request : Request) (inner : Option (List Step))

instance : Inhabited Step := ⟨.mk { op := "" } none⟩

end DmaOwnership.Scenario
