import DmaOwnership.Width
/-!
# Control words

Each lane has a 32-bit control word. Its bits, from the lowest: enable, the three
interrupt enables (transfer complete, half transfer, transfer error), direction
(set when the engine reads memory), circular mode, peripheral increment, memory
increment, the peripheral and memory item sizes (two bits each), the priority
level (two bits) and memory-to-memory mode. Every setter here changes only its own
field and keeps the rest of the word.
-/

namespace DmaOwnership

/-- A priority level of a lane. Only its two low bits reach the control word. -/
structure Priority where
  /-- The level as given: `0` low, `1` medium, `2` high, `3` very high. -/
  level : UInt8 := 0
deriving DecidableEq, Repr

namespace Priority

/-- The level named `low`, `medium`, `high` or `veryhigh`. -/
def ofName? : String → Option Priority
  | "low" => some ⟨0⟩
  | "medium" => some ⟨1⟩
  | "high" => some ⟨2⟩
  | "veryhigh" => some ⟨3⟩
  | _ => none

end Priority

namespace Control

/-- The enable bit: the lane runs while it is set. -/
def enableBit : UInt32 := 0x1

/-- The transfer-complete interrupt enable. -/
def completeIrq : UInt32 := 0x2

/-- The half-transfer interrupt enable. -/
def halfIrq : UInt32 := 0x4

/-- The transfer-error interrupt enable. -/
def errorIrq : UInt32 := 0x8

/-- All three interrupt enables. -/
def irqMask : UInt32 := 0xE

/-- The direction bit: set when the engine reads memory and writes the peripheral. -/
def fromMemoryBit : UInt32 := 0x10

/-- Circular mode: the count reloads when a pass completes. -/
def circularBit : UInt32 := 0x20

/-- The peripheral address increments after each item. -/
def peripheralIncrementBit : UInt32 := 0x40

/-- The memory address increments after each item. -/
def memoryIncrementBit : UInt32 := 0x80

/-- Both item size fields. -/
def sizeMask : UInt32 := 0xF00

/-- The priority field. -/
def priorityMask : UInt32 := 0x3000

/-- Memory-to-memory mode. -/
def memToMemBit : UInt32 := 0x4000

/-- Sets or clears the given bits. -/
def setBits (w bits : UInt32) (on : Bool) : UInt32 :=
  if on then w ||| bits else w &&& ~~~bits

/-- The word with its enable bit set or cleared. -/
def withEnable (w : UInt32) (on : Bool) : UInt32 := setBits w enableBit on

/-- The word with the direction set to "engine reads memory" or its opposite. -/
def withFromMemory (w : UInt32) (on : Bool) : UInt32 := setBits w fromMemoryBit on

/-- The word with circular mode on or off. -/
def withCircular (w : UInt32) (on : Bool) : UInt32 := setBits w circularBit on

/-- The word with peripheral increment on or off. -/
def withPeripheralIncrement (w : UInt32) (on : Bool) : UInt32 :=
  setBits w peripheralIncrementBit on

/-- The word with memory increment on or off. -/
def withMemoryIncrement (w : UInt32) (on : Bool) : UInt32 :=
  setBits w memoryIncrementBit on

/-- The word with memory-to-memory mode on or off. -/
def withMemToMem (w : UInt32) (on : Bool) : UInt32 := setBits w memToMemBit on

/-- The word with both item size fields, the peripheral's and the memory's, set to the size
code `size`. -/
def withItemSize (w size : UInt32) : UInt32 :=
  (w &&& ~~~sizeMask) ||| (size <<< 8) ||| (size <<< 10)

/-- The word with both item sizes set to the width. -/
def withWidth (w : UInt32) (width : Width) : UInt32 := withItemSize w width.code

/-- The word with the priority field set to the two low bits of the level. -/
def withPriority (w : UInt32) (p : Priority) : UInt32 :=
  (w &&& ~~~priorityMask) ||| ((p.level.toUInt32 &&& 3) <<< 12)

/-- The word with the interrupt enables taken from `mask`. -/
def withInterrupts (w mask : UInt32) : UInt32 :=
  (w &&& ~~~irqMask) ||| (mask &&& irqMask)

/-- Whether the enable bit of the word is set. -/
def enabled (w : UInt32) : Bool := w &&& enableBit != 0

/-- Whether circular mode is set in the word. -/
def circular (w : UInt32) : Bool := w &&& circularBit != 0

end Control

end DmaOwnership
