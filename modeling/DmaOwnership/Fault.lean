/-!
# Refusals and faults

Two kinds of failure end an operation. A *refusal* is an answer: the operation
did nothing, or undid what it did, and says why. A *fault* breaks off the
operation where it stands: whatever it changed before stays changed, and only
the clean-up that an access promises (giving a borrow back) still runs. A fault
is a misuse of the library or of the register bank, or the failure of a callback.
-/

namespace DmaOwnership

/-- Why an operation was refused. -/
inductive Refusal where
  /-- The lane, or a buffer the operation needs, is held by someone else. -/
  | inUse
  /-- The engine overtook the reader: a half was refilled before it was read. -/
  | overrun
  /-- The engine reported a bus error on the lane. -/
  | transferError
  /-- Nothing is ready yet. -/
  | wouldBlock
  /-- The buffer is empty or longer than a count can say. -/
  | badLength
  /-- The controller has already handed out its lanes. -/
  | alreadySplit
deriving DecidableEq, Repr

/-- The text of a refusal. -/
def Refusal.message : Refusal → String
  | .inUse => "dma: channel in use"
  | .overrun => "dma: overrun"
  | .transferError => "dma: transfer error"
  | .wouldBlock => "dma: would block"
  | .badLength => "dma: invalid buffer length"
  | .alreadySplit => "dma: controller already split"

/-- Why an operation broke off. -/
inductive Fault where
  /-- A shared borrow of a buffer that is being written. -/
  | bufferWritten
  /-- An exclusive borrow of a buffer that is borrowed or handed to the engine. -/
  | bufferShared
  /-- A one-shot transfer used after it was waited for. -/
  | transferReleased
  /-- A circular transfer used after it was stopped. -/
  | streamStopped
  /-- A circular transfer whose ring was released behind its back. -/
  | ringFree
  /-- A ring made of no items or of an odd number of items. -/
  | ringLength
  /-- A lane number of the register bank outside `1 … 7`. -/
  | noLane (n : Int)
  /-- A register index outside the bank's lanes. -/
  | indexOutOfRange (index length : Nat)
  /-- A handle that refers to nothing any more, such as a stopped transfer's lane. -/
  | nilReference
  /-- A callback gave up with its own message. -/
  | thrown (message : String)
  /-- A wait on a lane that nothing will ever finish; the hardware would spin. -/
  | spins
deriving DecidableEq, Repr

/-- The text of a fault. -/
def Fault.message : Fault → String
  | .bufferWritten => "dma: buffer is mutably borrowed or written by DMA"
  | .bufferShared => "dma: buffer is borrowed or in use by DMA"
  | .transferReleased => "dma: use of a transfer after Wait"
  | .streamStopped => "dma: use of a circular transfer after Stop"
  | .ringFree => "dma: read of a free circular buffer"
  | .ringLength => "dma: circular buffer length must be even and non-zero"
  | .noLane n => "dmatest: no channel " ++ toString n
  | .indexOutOfRange i n =>
    "runtime error: index out of range [" ++ toString i ++ "] with length " ++ toString n
  | .nilReference => "runtime error: invalid memory address or nil pointer dereference"
  | .thrown m => m
  | .spins => "dma: wait never returns"

end DmaOwnership
