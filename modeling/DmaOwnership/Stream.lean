import DmaOwnership.Channel
/-!
# Circular transfers

A circular transfer fills a ring for ever: the engine fills the first half and raises
*half*, fills the second and raises *complete*, and starts over; the ring's phase names the
half being filled. A read (`peek`) makes one status read and refuses on an error flag, on
the flag of the next half (the engine has lapped the reader: an overrun) or without the flag
of the reader's half (would block). Otherwise it clears that flag, moves the phase on and
calls back with the half; a second status read then answers an overrun if the engine lapped
the half or the reader held it too long, and else counts the read. A callback that stops its
own transfer leaves that read without a lane: a `nilReference` fault.
-/

namespace DmaOwnership

namespace Stream

open Machine

/-- Starts a circular transfer of the ring on the lane; answers its handle. -/
def start (l : Lane) (ring : Nat) (periph : Nat) : Act (Except Refusal Nat) := do
  if ← l.inUse then return .error .inUse
  let r ← Machine.ring ring
  if r.items.size > maxCount then return .error .badLength
  if r.phase ≠ .free then return .error .inUse
  modifyRing ring fun r => { r with phase := .fillingFirst }
  let p ← Machine.peripheral periph
  let config := Control.withWidth (Control.withCircular (Control.withFromMemory 0 false) true) r.width
  l.program p.address (.ring ring) r.items.size config
  l.setOwned true
  l.setEnable true
  modifyPeripheral periph Peripheral.enable
  modifyCounters fun c => { c with starts := c.starts + 1 }
  let id ← modifyGet fun s =>
    (s.streams.size, { s with streams := s.streams.push ⟨l, ring, periph, 0, false, false⟩ })
  return .ok id

/-- The circular transfer with the handle, which must not have been stopped. -/
def active (id : Nat) : Act Stream := do
  let t ← Machine.stream id
  if t.stopped then throw .streamStopped
  return t

/-- Sets the longest time a reader may hold a half; zero or less for no limit. -/
def configure (id : Nat) (maxRead : Int) : Act Unit :=
  modifyStream id fun t => { t with maxRead }

/-- The longest span two instants can be apart, in nanoseconds. -/
def longestSpan : Int := 9223372036854775807

/-- The time a read holds a half beyond what its callback waits, in nanoseconds:
handing the half over and taking it back are never instant, so a limit of a few
nanoseconds is always exceeded, and a callback that waits exactly the limit
exceeds it too. -/
def handlingSpan : Nat := 1000

/-- Whether a reader held a half too long: a limit is set now, and the time since
`start`, with the handling, exceeds it. With no start time (no limit was set when
the half was handed out) the time held counts as the longest span. -/
def tooSlow (maxRead : Int) (start : Option Nat) (now : Nat) : Bool :=
  0 < maxRead &&
    match start with
    | some t => decide (maxRead < ((now - t + handlingSpan : Nat) : Int))
    | none => decide (maxRead < longestSpan)

/-- What a read of a circular transfer gives: the callback's result if it ran, and
the refusal if there is one. -/
structure Outcome (α : Type) where
  /-- The callback's result, if it ran. -/
  result : Option α
  /-- The refusal, if there is one. -/
  refusal : Option Refusal

/-- Counts a refusal of a read and answers it. -/
def refuse (r : Refusal) : Act (Option Refusal) := do
  record r
  return some r

/-- The checks of a read before the callback. Answers the refusal, or the half to
hand out with its items and, when a limit is set, the time it is handed out. -/
def takeHalf (id : Nat) : Act (Except Refusal (Half × Array UInt32 × Option Nat)) := do
  let t ← active id
  let r ← Machine.ring t.ring
  if r.phase = .free then throw .ringFree
  let l := t.lane
  let st ← l.readStatus
  let (ready, lapped, ack, h, next) :=
    if r.phase = .fillingFirst then (st.half, st.complete, l.halfFlag, Half.first, Phase.fillingSecond)
    else (st.complete, st.half, l.completeFlag, Half.second, Phase.fillingFirst)
  if st.error then record .transferError; return .error .transferError
  if lapped then record .overrun; return .error .overrun
  if !ready then record .wouldBlock; return .error .wouldBlock
  Lane.clearFlags ack
  modifyRing t.ring fun r => { r with phase := next }
  let now := (← get).clock
  return .ok (h, r.half h, if 0 < t.maxRead then some now else none)

/-- The checks of a read after the callback held half `h` from `start` on. -/
def giveBack (id : Nat) (h : Half) (start : Option Nat) : Act (Option Refusal) := do
  let s ← get
  let t ← Machine.stream id
  let slow := tooSlow t.maxRead start s.clock
  if t.stopped then throw .nilReference
  let st ← t.lane.readStatus
  let lapped := if h = .first then st.complete else st.half
  if st.error then refuse .transferError
  else if lapped || slow then refuse .overrun
  else
    modifyCounters fun c => { c with reads := c.reads + 1 }
    return none

/-- Hands the ready half to `f` with its name, if one is ready. -/
def peek [HoldsMachine σ] (id : Nat) (f : Array UInt32 → Half → EStateM Fault σ α) :
    EStateM Fault σ (Outcome α) := do
  match ← Act.within (takeHalf id) with
  | .error r => return ⟨none, some r⟩
  | .ok (h, data, start) =>
    let a ← f data h
    return ⟨some a, ← Act.within (giveBack id h start)⟩

/-- Hands the ready half to `f`, if one is ready. -/
def read [HoldsMachine σ] (id : Nat) (f : Array UInt32 → EStateM Fault σ α) :
    EStateM Fault σ (Outcome α) :=
  peek id fun data _ => f data

/-- Pauses the engine on the lane; the transfer keeps the lane. -/
def pause (id : Nat) : Act Unit := do
  let t ← active id
  t.lane.setEnable false
  modifyStream id fun t => { t with paused := true }

/-- Resumes the engine on the lane. -/
def resume (id : Nat) : Act Unit := do
  let t ← active id
  t.lane.setEnable true
  modifyStream id fun t => { t with paused := false }

/-- The number of items left before the engine wraps around. -/
def remaining (id : Nat) : Act Nat := do
  (← active id).lane.remaining

/-- Stops the transfer and hands its parts back. -/
def stop (id : Nat) : Act Handback := do
  let t ← active id
  t.lane.setEnable false
  modifyPeripheral t.peripheral Peripheral.disable
  Lane.clearFlags t.lane.flags
  modifyRing t.ring fun r => { r with phase := .free }
  modifyStream id fun t => { t with stopped := true }
  t.lane.setOwned false
  return ⟨t.lane, t.ring, t.peripheral⟩

end Stream

end DmaOwnership
