import DmaOwnership.Machine
/-!
# Channels

A channel is a lane as the library drives it: its settings (priority and the
interrupt enables it keeps) and its registers. Programming a channel for a
transfer writes, in order: a zero control word, a clear of the lane's flags, the
peripheral address, the memory reference, the count, and then the control word of
the transfer, which carries the lane's priority and interrupt enables and leaves
the lane disabled. Enabling is a separate step.
-/

namespace DmaOwnership

/-- The three flags of a lane as one status read saw them. -/
structure LaneStatus where
  /-- The transfer-error flag. -/
  error : Bool
  /-- The half-transfer flag. -/
  half : Bool
  /-- The transfer-complete flag. -/
  complete : Bool
deriving DecidableEq, Repr

/-- The lane's flags in a status word. -/
def LaneStatus.ofWord (l : Lane) (w : UInt32) : LaneStatus :=
  ⟨w &&& l.errorFlag != 0, w &&& l.halfFlag != 0, w &&& l.completeFlag != 0⟩

/-- Whether a lane is in use: a transfer holds it or it is enabled. -/
def Machine.inUse (s : Machine) (l : Lane) : Bool :=
  (s.laneState l).owned || Control.enabled (s.bank.control l)

namespace Lane

open Machine

/-- Sets the priority of the lane's next transfers. -/
def configure (l : Lane) (p : Priority) : Act Unit :=
  modifyLane l fun st => { st with priority := p }

/-- Writes the lane's kept interrupt enables into its control word. -/
def updateIrq (l : Lane) : Act Unit := do
  let irq := ((← get).laneState l).irq
  modifyBank fun b => b.setControl l (Control.withInterrupts (b.control l) irq)

/-- Enables the interrupt of an event, now and for later transfers. -/
def listen (l : Lane) (e : Event) : Act Unit := do
  modifyLane l fun st => { st with irq := st.irq ||| e.enableBit }
  l.updateIrq

/-- Disables the interrupt of an event, now and for later transfers. -/
def unlisten (l : Lane) (e : Event) : Act Unit := do
  modifyLane l fun st => { st with irq := st.irq &&& ~~~e.enableBit }
  l.updateIrq

/-- Whether the lane is in use: a transfer holds it or it is enabled. -/
def inUse (l : Lane) : Act Bool := do
  return (← get).inUse l

/-- The number of items the lane has left to move. -/
def remaining (l : Lane) : Act Nat := do
  return ((← get).bank.count l &&& 0xFFFF).toNat

/-- Reads the status word, counting the read, and answers the lane's flags. -/
def readStatus (l : Lane) : Act LaneStatus :=
  modifyGet fun s =>
    let (w, b) := s.bank.status
    (LaneStatus.ofWord l w, { s with bank := b })

/-- Clears flags of the status word. -/
def clearFlags (mask : UInt32) : Act Unit := modifyBank (·.clear mask)

/-- Marks the lane as held or free. -/
def setOwned (l : Lane) (owned : Bool) : Act Unit :=
  modifyLane l fun st => { st with owned }

/-- Sets or clears the enable bit of the lane's control word. -/
def setEnable (l : Lane) (on : Bool) : Act Unit :=
  modifyBank fun b => b.setControl l (Control.withEnable (b.control l) on)

/-- The control word of a transfer: `config` with the lane's priority and interrupt
enables, memory increment on, and everything else that programming fixes off. -/
def transferWord (st : LaneState) (config : UInt32) : UInt32 :=
  let w := Control.withPriority config st.priority
  let w := Control.withInterrupts w st.irq
  let w := Control.withPeripheralIncrement w false
  let w := Control.withMemoryIncrement w true
  let w := Control.withMemToMem w false
  Control.withEnable w false

/-- Programs the lane for a transfer, leaving it disabled. -/
def program (l : Lane) (peripheral : UInt64) (memory : MemRef) (count : Nat)
    (config : UInt32) : Act Unit := do
  let st := (← get).laneState l
  modifyBank (·.program l peripheral memory count.toUInt32 (transferWord st config))

end Lane

end DmaOwnership
