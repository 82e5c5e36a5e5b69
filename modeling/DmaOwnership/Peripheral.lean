/-!
# Peripherals

A peripheral at the other end of a transfer. A transfer asks it to raise its DMA
requests when it starts and to stop when it ends; the peripheral counts both.
-/

namespace DmaOwnership

/-- A peripheral that a transfer serves. -/
structure Peripheral where
  /-- The address of its data register. -/
  address : UInt64
  /-- Whether it raises DMA requests now. -/
  enabled : Bool := false
  /-- How many times it was told to raise DMA requests. -/
  enables : Nat := 0
  /-- How many times it was told to stop. -/
  disables : Nat := 0
deriving DecidableEq, Repr

namespace Peripheral

/-- The peripheral told to raise DMA requests. -/
def enable (p : Peripheral) : Peripheral := { p with enabled := true, enables := p.enables + 1 }

/-- The peripheral told to stop raising DMA requests. -/
def disable (p : Peripheral) : Peripheral := { p with enabled := false, disables := p.disables + 1 }

theorem enable_enabled (p : Peripheral) : p.enable.enabled = true := rfl

theorem disable_enabled (p : Peripheral) : p.disable.enabled = false := rfl

end Peripheral

end DmaOwnership
