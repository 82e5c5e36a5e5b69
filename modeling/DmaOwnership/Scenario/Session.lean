import DmaOwnership.Transfer
import DmaOwnership.Stream
import DmaOwnership.Buffer.Borrow
import DmaOwnership.Scenario.Request
import DmaOwnership.Scenario.Answer
import DmaOwnership.Text.Quote
/-!
# Scenario sessions

A session runs the steps of a scenario against one machine whose lanes have been
handed out. It gives ids to what the steps make: buffers and peripherals get the
machine's own handles; rings, one-shot transfers and circular transfers get ids of
their own, because an attempt that fails still uses up its id (a ring whose making
breaks off, a transfer the library refuses to start).

Each step answers separately. A fault inside a step ends that step only; the
session goes on. A step `throw` inside a callback breaks off the callback with its
message, which then ends the step that lent the memory.
-/

namespace DmaOwnership.Scenario

open Machine Text

/-- The state of a session. -/
structure Session where
  /-- The machine. -/
  machine : Machine
  /-- The ring handle of each ring id; nothing where making it failed. -/
  rings : Array (Option Nat) := #[]
  /-- The transfer handle of each one-shot transfer id; nothing where starting failed. -/
  transfers : Array (Option Nat) := #[]
  /-- The handle of each circular transfer id; nothing where starting failed. -/
  streams : Array (Option Nat) := #[]

instance : HoldsMachine Session := ⟨Session.machine, fun s m => { s with machine := m }⟩

/-- A session at its start: a fresh machine whose lanes have been handed out. -/
def Session.initial : Session := { machine := { split := true } }

/-- A step of a session, which may break off with a fault. -/
abbrev Run := EStateM Fault Session

/-- The work of a step, which may also stop at a wrong argument with a message. -/
abbrev Work := ExceptT String Run

namespace Session

/-- A memory reference as the view shows it. -/
def memView (s : Session) : MemRef → MemView
  | .none => .zero
  | .buffer i => .buffer i
  | .ring h =>
    match s.rings.findIdx? (· == some h) with
    | some i => .ring i
    | none => .unknown

/-- The registers of a lane as the view shows them. -/
def regsView (s : Session) (l : Lane) : RegsView :=
  let r := s.machine.bank.lane l
  ⟨r.control, r.count, r.peripheral, s.memView r.memory⟩

/-- The view of the session's state. -/
def view (s : Session) : View :=
  let m := s.machine
  { flags := m.bank.flags
    reads := m.bank.reads
    lanes := Lane.all.map s.regsView
    inUse := Lane.all.map m.inUse
    pending := Lane.all.map m.bank.pending
    buffers := m.buffers.toList.map fun b => (b.access, b.length)
    rings := s.rings.toList.map fun o =>
      (o.bind (m.rings[·]?)).map fun r => (r.phase, r.halfLength)
    peripherals := m.peripherals.toList.map fun p => (p.enabled, p.enables, p.disables)
    paused := s.streams.toList.map fun o =>
      match o.bind (m.streams[·]?) with
      | some t => t.paused
      | none => false
    counters := m.counters }

end Session

/-- What an operation produced before its state is viewed. -/
structure Outcome where
  /-- The value. -/
  value : Option Reply := none
  /-- The refusal of the library, if any. -/
  refusal : Option Refusal := none
  /-- The answers of the steps run inside a callback, if any were given. -/
  inner : Option (List Answer) := none

/-- Breaks off the step with a fault. -/
def fault (f : Fault) : Work α := throwThe Fault f

/-- Runs an operation of the machine in a step. -/
def act (x : Act α) : Work α := ExceptT.lift (Act.within x)

/-- The argument, or a message that it is missing. -/
def need (name : String) : Option α → Work α
  | some a => pure a
  | none => throw ("missing " ++ name)

/-- Stops the step with `message` unless `ok` holds. -/
def ensure (ok : Bool) (message : String) : Work Unit :=
  if ok then pure () else throw message

/-- The lane number of the step, within the bounds any step accepts. -/
def laneNumber (r : Request) : Work Int := do
  let n ← need "ch" r.ch
  ensure (n.natAbs ≤ 1000000) "ch out of range"
  return n

/-- The lane of the step, which must be one of the seven. -/
def lane (r : Request) : Work Lane := do
  let n ← laneNumber r
  match Lane.ofNumber? n with
  | some l => pure l
  | none => throw ("no channel " ++ toString n)

/-- The register bank's lane with the number; the bank breaks off for any other. -/
def bankLane (n : Int) : Work Lane :=
  match Lane.ofNumber? n with
  | some l => pure l
  | none => fault (.noLane n)

/-- The event of the step. -/
def event (r : Request) : Work Event := do
  match ← need "event" r.event with
  | .name s =>
    match Event.ofName? s with
    | some e => pure e
    | none => throw ("unknown event " ++ quote s)
  | .code n =>
    if 0 ≤ n ∧ n ≤ 255 then pure ⟨n.toNat.toUInt8⟩ else throw ("invalid event " ++ toString n)
  | .other t => throw ("invalid event " ++ t)

/-- A number of the step that must lie in `lo … hi`. A missing number is refused
with the same message as one out of range: the step has no default for it. -/
def bounded (arg : Option Int) (lo hi : Int) (message : String) : Work Int :=
  match arg with
  | some v => if lo ≤ v ∧ v ≤ hi then pure v else throw message
  | none => throw message

/-- A 32-bit word of the step. -/
def word (name : String) (arg : Option Int) : Work Nat := do
  return (← bounded arg 0 4294967295 (name ++ " must be 0..4294967295")).toNat

/-- The register index of the step. -/
def regIndex (r : Request) : Work Nat := do
  return (← bounded r.index 0 255 "index must be 0..255").toNat

/-- The register value of the step. -/
def regValue (r : Request) : Work Nat := word "value" r.value

/-- The bank's lane with the register index; the bank breaks off for any other. -/
def regLane (i : Nat) : Work Lane :=
  if h : i < 7 then pure ⟨⟨i, h⟩⟩ else fault (.indexOutOfRange i 7)

/-- An id of the step that must be below `size`. -/
def ident (name : String) (arg : Option Int) (size : Nat) : Work Nat := do
  let i ← need name arg
  if 0 ≤ i ∧ i.toNat < size then return i.toNat
  throw ("no " ++ name ++ " " ++ toString i)

/-- An id of the step in a table of handles, and its handle. -/
def handle (name : String) (arg : Option Int) (table : Array (Option Nat)) : Work (Nat × Nat) := do
  let i ← need name arg
  if 0 ≤ i then
    if let some (some h) := table[i.toNat]? then return (i.toNat, h)
  throw ("no " ++ name ++ " " ++ toString i)

/-- The buffer of the step. -/
def bufferArg (r : Request) : Work Nat := do
  ident "buf" r.buf (← get).machine.buffers.size

/-- The peripheral of the step. -/
def peripheralArg (r : Request) : Work Nat := do
  ident "periph" r.periph (← get).machine.peripherals.size

/-- The ring of the step: its id and handle. -/
def ringArg (r : Request) : Work (Nat × Nat) := do
  handle "circ" r.circ (← get).rings

/-- The one-shot transfer of the step: its id and handle. -/
def transferArg (r : Request) : Work (Nat × Nat) := do
  handle "tr" r.tr (← get).transfers

/-- The circular transfer of the step: its id and handle. -/
def streamArg (r : Request) : Work (Nat × Nat) := do
  handle "ct" r.ct (← get).streams

/-- Checks that every value fits the width. -/
def checkFits (w : Width) (vs : List Int) : Work Unit := do
  for v in vs do
    ensure (w.fits v) ("value " ++ toString v ++ " does not fit " ++ toString w.bits ++ " bits")

/-- The width and the items that a step asks a new buffer or ring to hold. -/
def itemsArg (r : Request) : Work (Width × Array UInt32) := do
  let bits ← need "width" r.width
  let some w := Width.ofBits? bits | throw "width must be 8, 16 or 32"
  match r.data, r.len with
  | some _, some _ => throw "give data or len, not both"
  | none, some n =>
    ensure (0 ≤ n && n ≤ 1048576) "len must be 0..1048576"
    return (w, Array.replicate n.toNat 0)
  | some d, none =>
    checkFits w d
    return (w, (d.map fun v => v.toNat.toUInt32).toArray)
  | none, none => return (w, #[])

/-- The items as numbers. -/
def itemsView (a : Array UInt32) : List Nat := a.toList.map (·.toNat)

/-- Runs the steps of a callback, if it has any. -/
def runInner : Option (Run (List Answer)) → Run (Option (List Answer))
  | some steps => some <$> steps
  | none => pure none

/-- The memory a step writes to directly, as the engine would: a ring if it names
one, else a buffer. Answers a writer and the length. -/
def engineTarget (r : Request) : Work ((Nat → List UInt32 → Act Unit) × Width × Nat) := do
  if r.circ.isSome then
    let (_, h) ← ringArg r
    let ring ← act (Machine.ring h)
    return (fun o d => modifyRing h (·.fill o d), ring.width, ring.items.size)
  else
    let id ← bufferArg r
    let b ← act (Machine.buffer id)
    return (fun o d => modifyBuffer id (·.fill o d), b.width, b.length)

/-- The items of a ring or buffer that a step names. -/
def contentsOf (r : Request) : Work (Array UInt32) := do
  if r.circ.isSome then
    let (_, h) ← ringArg r
    return (← act (Machine.ring h)).items
  else
    return (← act (Machine.buffer (← bufferArg r))).items

/-- Gives the next id of a table to an attempt, with its handle if it succeeded. -/
def record (table : Session → Array (Option Nat))
    (update : Session → Array (Option Nat) → Session) (h : Option Nat) : Work Nat :=
  modifyGet fun s => ((table s).size, update s ((table s).push h))

/-- Starts a one-shot transfer for a step. -/
def startTransfer (dir : Direction) (r : Request) : Work Outcome := do
  let l ← lane r
  let b ← bufferArg r
  let p ← peripheralArg r
  match ← act (Transfer.start dir l b p) with
  | .ok h =>
    let id ← record (·.transfers) (fun s t => { s with transfers := t }) (some h)
    return { value := some (.nat id) }
  | .error e =>
    let _ ← record (·.transfers) (fun s t => { s with transfers := t }) none
    return { refusal := some e }

/-- Starts a circular transfer for a step. -/
def startStream (r : Request) : Work Outcome := do
  let l ← lane r
  let (_, ring) ← ringArg r
  let p ← peripheralArg r
  match ← act (Stream.start l ring p) with
  | .ok h =>
    let id ← record (·.streams) (fun s t => { s with streams := t }) (some h)
    return { value := some (.nat id) }
  | .error e =>
    let _ ← record (·.streams) (fun s t => { s with streams := t }) none
    return { refusal := some e }

/-- Makes a ring for a step; its id is taken before the ring is made. -/
def makeRing (r : Request) : Work Outcome := do
  let (w, items) ← itemsArg r
  let id ← record (·.rings) (fun s t => { s with rings := t }) none
  match Ring.make w items with
  | .error f => fault f
  | .ok ring =>
    let h ← act (addRing ring)
    modify fun s => { s with rings := s.rings.set! id (some h) }
    return { value := some (.nat id) }

/-- Waits for a one-shot transfer, unless nothing would ever finish it. -/
def waitFor (r : Request) : Work Outcome := do
  let (_, h) ← transferArg r
  let m := (← get).machine
  let t ← act (Machine.transfer h)
  ensure (t.released || Transfer.settles m.bank t.lane) "wait would never return"
  let (back, err) ← act (Transfer.wait h)
  return { value := some (.handback (back == ⟨t.lane, t.buffer, t.peripheral⟩)), refusal := err }

/-- Lends a buffer to the steps of a callback, for reading. -/
def borrowFor (r : Request) (inner : Option (Run (List Answer))) : Work Outcome := do
  let id ← bufferArg r
  let (data, answers) ← ExceptT.lift <| Buffer.borrow id fun items => do
    return (itemsView items, ← runInner inner)
  return { value := some (.lent data none), inner := answers }

/-- Lends a buffer alone to a callback that first sets items, then runs its steps. -/
def borrowMutFor (r : Request) (inner : Option (Run (List Answer))) : Work Outcome := do
  let id ← bufferArg r
  let b ← act (Machine.buffer id)
  let sets := r.set.getD []
  for (i, v) in sets do
    ensure (0 ≤ i && i.toNat < b.length) ("set index " ++ toString i ++ " out of range")
    checkFits b.width [v]
  let (data, answers) ← ExceptT.lift <| Buffer.borrowMut id fun items => do
    for (i, v) in sets do
      Act.within (modifyBuffer id (·.fill i.toNat [v.toNat.toUInt32]))
    return (itemsView items, ← runInner inner)
  return { value := some (.lent data none), inner := answers }

/-- Lends the ready half of a ring to the steps of a callback. -/
def peekFor (withHalf : Bool) (r : Request) (inner : Option (Run (List Answer))) :
    Work Outcome := do
  let (_, h) ← streamArg r
  let o ← ExceptT.lift <| Stream.peek h fun items half => do
    return (itemsView items, half, ← runInner inner)
  match o.result with
  | some (data, half, answers) =>
    return { value := some (.lent data (if withHalf then some half else none)),
             refusal := o.refusal, inner := answers }
  | none => return { value := some .notLent, refusal := o.refusal }

/-- Does the work of a step of the register bank. -/
def bankWork (r : Request) : Work Outcome := do
  match r.op with
  | "raise" =>
    let n ← laneNumber r
    let e ← event r
    let l ← bankLane n
    act (modifyBank (·.raise l e))
    return {}
  | "hw_half" | "hw_complete" | "hw_error" =>
    let n ← laneNumber r
    let e := if r.op = "hw_half" then Event.half
      else if r.op = "hw_complete" then Event.complete else Event.error
    let l ← bankLane n
    act (modifyBank (·.raise l e))
    return {}
  | "after" =>
    let n ← laneNumber r
    let e ← event r
    let polls ← bounded r.polls (-100000) 100000 "polls must be -100000..100000"
    let l ← bankLane n
    act (modifyBank (·.scheduleAfter polls l e))
    return {}
  | "status" =>
    let w ← act (modifyGet fun s => let (w, b) := s.bank.status; (w, { s with bank := b }))
    return { value := some (.nat w.toNat) }
  | "flags" => return { value := some (.nat (← get).machine.bank.flags.toNat) }
  | "status_reads" => return { value := some (.nat (← get).machine.bank.reads) }
  | "clear" =>
    let mask ← word "mask" r.mask
    act (modifyBank (·.clear mask.toUInt32))
    return {}
  | "control" | "count" =>
    let i ← regIndex r
    let l ← regLane i
    let b := (← get).machine.bank
    let v := if r.op = "control" then b.control l else b.count l
    return { value := some (.nat v.toNat) }
  | "set_control" | "set_count" | "set_periph_addr" =>
    let i ← regIndex r
    let v ← regValue r
    let l ← regLane i
    act <| modifyBank fun b =>
      if r.op = "set_control" then b.setControl l v.toUInt32
      else if r.op = "set_count" then b.setCount l v.toUInt32
      else b.setPeripheral l v.toUInt64
    return {}
  | "pending" =>
    let l ← bankLane (← laneNumber r)
    return { value := some (.events ((← get).machine.bank.pending l)) }
  | "enabled" =>
    let l ← bankLane (← laneNumber r)
    return { value := some (.bool (Control.enabled ((← get).machine.bank.control l))) }
  | "snapshot" =>
    let l ← bankLane (← laneNumber r)
    return { value := some (.registers ((← get).regsView l)) }
  | op => throw ("unknown op " ++ quote op)

/-- Does the work of a step. -/
def work (r : Request) (inner : Option (Run (List Answer))) : Work Outcome := do
  match r.op with
  | "split" => return { refusal := ← act takeLanes }
  | "stats" => return { value := some (.counters (← get).machine.counters) }
  | "reset_stats" => act (modifyCounters fun _ => {}); return {}
  | "configure" =>
    let l ← lane r
    let p ← bounded r.priority 0 255 "priority must be 0..255"
    act (l.configure ⟨p.toNat.toUInt8⟩)
    return {}
  | "listen" => let l ← lane r; act (l.listen (← event r)); return {}
  | "unlisten" => let l ← lane r; act (l.unlisten (← event r)); return {}
  | "in_use" => let l ← lane r; return { value := some (.bool (← act l.inUse)) }
  | "number" => let l ← lane r; return { value := some (.nat l.number) }
  | "ch_remaining" => let l ← lane r; return { value := some (.nat (← act l.remaining)) }
  | "new_buffer" =>
    let (w, items) ← itemsArg r
    return { value := some (.nat (← act (addBuffer { width := w, items }))) }
  | "new_circ" => makeRing r
  | "new_periph" =>
    let a ← need "addr" r.addr
    return { value := some (.nat (← act (addPeripheral { address := a.toNat.toUInt64 }))) }
  | "engine_write" =>
    let (write, w, len) ← engineTarget r
    let offset := r.offset.getD 0
    let data := r.data.getD []
    ensure (0 ≤ offset && wrap64 (offset + data.length) ≤ len) "write out of range"
    checkFits w data
    act (write offset.toNat (data.map fun v => v.toNat.toUInt32))
    -- The bound is checked on a 64-bit sum, which wraps for an offset near the
    -- top: the items that fit are written, and the first that does not breaks off.
    if len < offset.toNat + data.length then
      fault (.indexOutOfRange (max offset.toNat len) len)
    return {}
  | "contents" => return { value := some (.items (itemsView (← contentsOf r))) }
  | "borrow" => borrowFor r inner
  | "borrow_mut" => borrowMutFor r inner
  | "start_read" => startTransfer .fromPeripheral r
  | "start_write" => startTransfer .toPeripheral r
  | "poll" =>
    let (_, h) ← transferArg r
    return { refusal := ← act (Transfer.poll h) }
  | "is_done" =>
    let (_, h) ← transferArg r
    match ← act (Transfer.isDone h) with
    | .ok b => return { value := some (.bool b) }
    | .error e => return { value := some (.bool false), refusal := some e }
  | "tr_remaining" =>
    let (_, h) ← transferArg r
    return { value := some (.nat (← act (Transfer.remaining h))) }
  | "wait" => waitFor r
  | "start_circ" => startStream r
  | "peek" => peekFor true r inner
  | "read" => peekFor false r inner
  | "pause" => let (_, h) ← streamArg r; act (Stream.pause h); return {}
  | "resume" => let (_, h) ← streamArg r; act (Stream.resume h); return {}
  | "paused" =>
    let (_, h) ← streamArg r
    return { value := some (.bool (← act (Machine.stream h)).paused) }
  | "ct_remaining" =>
    let (_, h) ← streamArg r
    return { value := some (.nat (← act (Stream.remaining h))) }
  | "stop" =>
    let (_, h) ← streamArg r
    let t ← act (Machine.stream h)
    let back ← act (Stream.stop h)
    return { value := some (.handback (back == ⟨t.lane, t.ring, t.peripheral⟩)) }
  | "configure_circ" =>
    let (_, h) ← streamArg r
    let ns ← need "max_read_ns" r.maxReadNs
    act (Stream.configure h ns)
    return {}
  | "sleep" =>
    let us ← bounded r.us 0 20000 "us must be 0..20000"
    act (sleep us.toNat)
    return {}
  | "throw" => throw "throw outside a callback"
  | _ => bankWork r

/-- Runs a step's request and answers it with the state after it. Inside a
callback, `throw` breaks off the callback instead of answering. -/
def perform (nested : Bool) (r : Request) (inner : Option (Run (List Answer))) : Run Answer := do
  if nested && r.op == "throw" then throw (.thrown (r.message.getD ""))
  let res ← tryCatch (Except.ok <$> (work r inner).run) fun f => pure (.error f)
  let state := (← get).view
  return match res with
    | .error f => { fault := some f.message, state }
    | .ok (.error msg) => { failure := some (.invalid msg), state }
    | .ok (.ok o) => { value := o.value, inner := o.inner, failure := o.refusal.map .refused, state }

mutual

/-- Answers a step; `nested` tells whether it runs inside a callback. -/
def answer (nested : Bool) : Step → Run Answer
  | .mk r none => perform nested r none
  | .mk r (some steps) => perform nested r (some (answerAll steps))

/-- Answers the steps of a callback, in order. -/
def answerAll : List Step → Run (List Answer)
  | [] => pure []
  | s :: rest => do
    let a ← answer true s
    let as ← answerAll rest
    return a :: as

end

/-- Answers the steps of a scenario, in order, from a fresh session. -/
def run (steps : List Step) : List Answer :=
  let go : Run (List Answer) := steps.mapM (answer false)
  match go.run Session.initial with
  | .ok as _ => as
  | .error _ _ => []

end DmaOwnership.Scenario
