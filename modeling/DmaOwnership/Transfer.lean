import DmaOwnership.Channel
/-!
# One-shot transfers

A one-shot transfer moves a buffer to or from a peripheral once. A start checks in order
that the lane is free, the buffer has `1 … 65535` items and can be locked (shared when the
engine reads it, exclusively when it writes it); then it programs and enables the lane and
counts a start. A wait reads the status word, counting polls, until the lane reports
completion or an error; then it clears the complete flag (all four on an error), disables the
lane and the peripheral, hands the buffer back and releases the transfer. The reads between
scheduled events change only the counts, so a wait steps over them in one go and loops once
per event that falls due.
-/

namespace DmaOwnership

namespace Transfer

open Machine

/-- Starts a one-shot transfer of the buffer on the lane; answers its handle. -/
def start (dir : Direction) (l : Lane) (buf : Nat) (periph : Nat) : Act (Except Refusal Nat) := do
  if ← l.inUse then return .error .inUse
  let b ← Machine.buffer buf
  if b.length = 0 ∨ b.length > maxCount then return .error .badLength
  match dir.lock b with
  | none => return .error .inUse
  | some b' =>
    modifyBuffer buf fun _ => b'
    let p ← Machine.peripheral periph
    let config := Control.withWidth (Control.withCircular (Control.withFromMemory 0 dir.fromMemory) false) b.width
    l.program p.address (.buffer buf) b.length config
    l.setOwned true
    l.setEnable true
    modifyPeripheral periph Peripheral.enable
    modifyCounters fun c => { c with starts := c.starts + 1 }
    let id ← modifyGet fun s =>
      (s.transfers.size, { s with transfers := s.transfers.push ⟨l, buf, periph, dir, false⟩ })
    return .ok id

/-- The transfer with the handle, which must not have been released. -/
def active (id : Nat) : Act Transfer := do
  let t ← Machine.transfer id
  if t.released then throw .transferReleased
  return t

/-- One status read for a transfer on the lane: an error, or whether it is complete. -/
def check (l : Lane) : Act (Except Refusal Bool) := do
  let st ← l.readStatus
  return if st.error then .error .transferError else .ok st.complete

/-- Whether the transfer is complete; an error flag is a refusal. -/
def isDone (id : Nat) : Act (Except Refusal Bool) := do
  check (← active id).lane

/-- Polls the transfer: nothing when it is complete, else why not. -/
def poll (id : Nat) : Act (Option Refusal) := do
  match ← isDone id with
  | .error r => return some r
  | .ok true => return none
  | .ok false => return some .wouldBlock

/-- The number of items the transfer has left to move. -/
def remaining (id : Nat) : Act Nat := do
  (← active id).lane.remaining

/-- Counts `k` status reads, and the polls of a wait that made them. -/
def skipReads (k : Nat) : Act Unit := modify fun s =>
  { s with bank := { s.bank with reads := s.bank.reads + k },
           counters := { s.counters with polls := s.counters.polls + k.toUInt32 } }

/-- The status reads of a wait. Each loop first steps over the reads at which
nothing falls due (unless the lane has already finished), then makes one read. -/
def spin (l : Lane) : Nat → Act (Except Refusal Unit)
  | 0 => throw .spins
  | fuel + 1 => do
    let b := (← get).bank
    let st := LaneStatus.ofWord l b.flags
    if !st.error && !st.complete then
      if b.schedule.isEmpty then throw .spins
      skipReads b.quietReads
    modifyCounters fun c => { c with polls := c.polls + 1 }
    match ← check l with
    | .error r => return .error r
    | .ok true => return .ok ()
    | .ok false => spin l fuel

/-- Ends the transfer: the lane and the buffer are handed back. -/
def release (id : Nat) (t : Transfer) : Act Handback := do
  modifyTransfer id fun t => { t with released := true }
  t.lane.setOwned false
  return ⟨t.lane, t.buffer, t.peripheral⟩

/-- Waits for the transfer to finish and hands its parts back, with the error if it
failed. -/
def wait (id : Nat) : Act (Handback × Option Refusal) := do
  let t ← active id
  let fuel := (← get).bank.schedule.length + 1
  match ← spin t.lane fuel with
  | .ok () =>
    Lane.clearFlags t.lane.completeFlag
    t.lane.setEnable false
    modifyPeripheral t.peripheral Peripheral.disable
    modifyBuffer t.buffer Buffer.unlock
    modifyCounters fun c => { c with completions := c.completions + 1 }
    return (← release id t, none)
  | .error r =>
    t.lane.setEnable false
    modifyPeripheral t.peripheral Peripheral.disable
    Lane.clearFlags t.lane.flags
    modifyBuffer t.buffer Buffer.unlock
    record r
    return (← release id t, some r)

/-- Whether a wait on the lane can end: it has already finished, or an event that
finishes it is scheduled. -/
def settles (b : Bank) (l : Lane) : Bool :=
  (b.flags &&& (l.completeFlag ||| l.errorFlag) != 0) ||
    (b.pending l).any fun e => e = .complete || e = .error

end Transfer

end DmaOwnership
