import DmaOwnership.Fault
/-!
# Counters

The controller counts what it does, in 32-bit counters that wrap: transfers
started, one-shot transfers handed back, status checks made while waiting, halves
handed to a reader, and reads refused as would-block, overrun or transfer error.
-/

namespace DmaOwnership

/-- The controller's counters. -/
structure Counters where
  /-- One-shot and circular transfers started. -/
  starts : UInt32 := 0
  /-- One-shot transfers handed back by a wait. -/
  completions : UInt32 := 0
  /-- Status checks made while waiting. -/
  polls : UInt32 := 0
  /-- Halves handed to a reader. -/
  reads : UInt32 := 0
  /-- Reads with no half ready. -/
  wouldBlock : UInt32 := 0
  /-- Reads that found the engine ahead of the reader. -/
  overruns : UInt32 := 0
  /-- Transfers that ended in a bus error. -/
  transferErrors : UInt32 := 0
deriving DecidableEq, Repr

namespace Counters

/-- The counters with the refusal counted, if it is one that is counted. -/
def record (c : Counters) : Refusal → Counters
  | .overrun => { c with overruns := c.overruns + 1 }
  | .transferError => { c with transferErrors := c.transferErrors + 1 }
  | .wouldBlock => { c with wouldBlock := c.wouldBlock + 1 }
  | _ => c

theorem record_inUse (c : Counters) : c.record .inUse = c := rfl

end Counters

end DmaOwnership
