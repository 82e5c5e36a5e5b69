import DmaOwnership.Transfer
import DmaOwnership.Stream
import DmaOwnership.Buffer.Borrow
import DmaOwnership.Text.Numeral
import DmaOwnership.Text.Duration
import DmaOwnership.Script.Lines
/-!
# The script simulator

A script drives one machine line by line. The runner's splitter cuts each line into words,
the first of them a command. Commands that report print
`<line>: <command>[ ch<n>]: <result>[ [<half>]][ <data>]`, `expect` checks the last report,
and the first error stops the script with `line <n>: <command>: <error>`. The commands are
`stats`, `expect` and `after`; on a lane `half`, `complete`, `error`, `priority` and
`listen`; for one-shot transfers `tx`, `rx`, `deliver`, `poll` and `wait` (only when the lane
will finish); for circular reads `circ`, `fill`, `maxread`, `read`, `pause`, `resume` and
`stop`. Each transfer gets a peripheral of its own at `0x40013000 + 0x100 * lane`.
-/

namespace DmaOwnership.Script

open Machine Text

/-- A one-shot transfer in flight on a lane. -/
structure OneShot where
  /-- The transfer's handle. -/
  transfer : Nat
  /-- The handle of its buffer. -/
  buffer : Nat
  /-- The handle of its peripheral. -/
  peripheral : Nat
  /-- Whether it reads from the peripheral (so that bytes can be delivered). -/
  reads : Bool

/-- A circular transfer running on a lane. -/
structure Circular where
  /-- The transfer's handle. -/
  stream : Nat
  /-- The handle of its ring. -/
  ring : Nat
  /-- The handle of its peripheral. -/
  peripheral : Nat

/-- The state of a running script. -/
structure Simulator where
  /-- The machine, with its lanes handed out. -/
  machine : Machine := { split := true }
  /-- The one-shot transfer in flight on each lane. -/
  oneShots : Vector (Option OneShot) 7 := Vector.replicate 7 none
  /-- The circular transfer on each lane. -/
  circulars : Vector (Option Circular) 7 := Vector.replicate 7 none
  /-- The number of the current line. -/
  line : Nat := 0
  /-- The result of the last report. -/
  last : String := ""
  /-- The report lines printed so far. -/
  printed : Array String := #[]

instance : HoldsMachine Simulator := ⟨Simulator.machine, fun s m => { s with machine := m }⟩

/-- A step of the simulator, which may break off with a fault. -/
abbrev Sim := EStateM Fault Simulator

/-- A command, which may also stop the script with a message. -/
abbrev Command := ExceptT String Sim

/-- What a command reports. -/
structure Report where
  /-- The command. -/
  command : String
  /-- The lane, if the command has one. -/
  lane : Option Lane := none
  /-- The result. -/
  result : String
  /-- The half read, in lower case, if any. -/
  half : String := ""
  /-- The data, if any. -/
  data : String := ""

/-- The printed line of a report on a script line. -/
def Report.render (line : Nat) (r : Report) : String :=
  toString line ++ ": " ++ r.command ++
    (match r.lane with | some l => " ch" ++ toString l.number | none => "") ++
    ": " ++ r.result ++
    (if r.half.isEmpty then "" else " [" ++ r.half ++ "]") ++
    (if r.data.isEmpty then "" else " " ++ r.data)

/-- The result word of a refusal, or `ok`. -/
def resultText : Option Refusal → String
  | none => "ok"
  | some .wouldBlock => "would block"
  | some .overrun => "overrun"
  | some .transferError => "transfer error"
  | some .inUse => "in use"
  | some .badLength => "invalid length"
  | some r => r.message

/-- The result of a transfer that hands its parts back: `ownership violation` unless they are
the lane, memory and peripheral it was started with, else the word of its refusal. -/
def handbackText (started back : Handback) (r : Option Refusal) : String :=
  if back = started then resultText r else "ownership violation"

/-- The name of a half as a report writes it. -/
def halfText : Half → String
  | .first => "first"
  | .second => "second"

/-- Prints a report and remembers its result. -/
def report (r : Report) : Command Unit :=
  modify fun s => { s with last := r.result, printed := s.printed.push (r.render s.line) }

/-- Runs an operation of the machine in a command. -/
def act (x : Act α) : Command α := ExceptT.lift (Act.within x)

/-- The lane a word names: a number `1 … 7`, perhaps after `ch`. -/
def laneWord (w : String) : Command Lane :=
  let digits := if w.startsWith "ch" then String.ofList (w.toList.drop 2) else w
  match (parseInt? digits).bind Lane.ofNumber? with
  | some l => pure l
  | none => throw ("invalid channel " ++ quote w)

/-- The event a word names. -/
def eventWord (w : String) : Command Event :=
  match Event.ofName? w with
  | some e => pure e
  | none => throw ("unknown event " ++ quote w)

/-- The bytes the words write in hex. -/
def bytesWords (ws : List String) : Command (List Nat) :=
  ws.mapM fun w => match parseHexByte? w with
    | some b => pure b.toNat
    | none => throw ("invalid byte " ++ quote w)

/-- The length a single word gives. -/
def lengthWords : List String → Command Nat
  | [w] => match parseInt? w with
    | some n => if 0 ≤ n then pure n.toNat else throw ("invalid length " ++ quote w)
    | none => throw ("invalid length " ++ quote w)
  | _ => throw "expected a length"

/-- The peripheral a transfer on the lane serves. -/
def peripheralFor (l : Lane) : Peripheral := { address := (0x40013000 + 0x100 * l.number).toUInt64 }

/-- A byte buffer of the given items. -/
def byteBuffer (items : List Nat) : Buffer := { width := .w8, items := (items.map (·.toUInt32)).toArray }

/-- The items of a buffer of the given length, capped one past the largest count. -/
def zeros (n : Nat) : List Nat := List.replicate (min n (maxCount + 1)) 0

/-- Starts a one-shot transfer of a new buffer on the lane. -/
def startOneShot (l : Lane) (dir : Direction) (items : List Nat) (cmd : String) : Command Unit := do
  let buf ← act (addBuffer (byteBuffer items))
  let p ← act (addPeripheral (peripheralFor l))
  let r ← act (Transfer.start dir l buf p)
  if let .ok t := r then
    modify fun s => { s with oneShots := l.setEntry s.oneShots (some ⟨t, buf, p, dir = .fromPeripheral⟩) }
  let refusal := match r with | .ok _ => none | .error e => some e
  report { command := cmd, lane := some l, result := resultText refusal }

/-- The one-shot transfer on the lane. -/
def oneShotOn (l : Lane) : Command OneShot := do
  match l.entry (← get).oneShots with
  | some o => pure o
  | none => throw ("no transfer on channel " ++ toString l.number)

/-- Commands on the circular transfer of a lane. -/
def circularCommand (cmd : String) (l : Lane) (args : List String) : Command Unit := do
  let some c := l.entry (← get).circulars
    | throw ("no circular transfer on channel " ++ toString l.number)
  match cmd with
  | "fill" =>
    let half :: rest := args | throw "usage: fill <channel> <first|second> [bytes...]"
    let data ← bytesWords rest
    let ring ← act (Machine.ring c.ring)
    let n := ring.items.size / 2
    let offset ← match half with
      | "first" => pure 0
      | "second" => pure n
      | _ => throw ("unknown half " ++ quote half)
    let data := data.take (if half = "first" then n else ring.items.size - n)
    act (modifyRing c.ring (·.fill offset (data.map (·.toUInt32))))
  | "maxread" =>
    let [w] := args | throw "usage: maxread <channel> <duration>"
    match parseDuration w with
    | .ok d => act (Stream.configure c.stream d)
    | .error e => throw e
  | "read" =>
    let o ← ExceptT.lift <| Stream.peek c.stream fun items h =>
      pure (halfText h, hexOfBytes (items.toList.map (·.toNat)))
    let (half, data) := o.result.getD ("", "")
    report { command := cmd, lane := some l, result := resultText o.refusal, half, data }
  | "pause" => act (Stream.pause c.stream)
  | "resume" => act (Stream.resume c.stream)
  | "stop" =>
    let back ← act (Stream.stop c.stream)
    modify fun s => { s with circulars := l.setEntry s.circulars none }
    report { command := cmd, lane := some l, result := handbackText ⟨l, c.ring, c.peripheral⟩ back none }
  | _ => throw "unknown command"

/-- Whether a wait on the lane can return: the lane's complete or error flag is up, or an
event other than half transfer is scheduled on it. The two flags are picked out by their
bit positions in the status word, `4i + 1` and `4i + 3` for the lane of index `i`. -/
def settles (b : Bank) (l : Lane) : Bool :=
  let i := l.index.val
  let tcOrTE : UInt32 := (1 : UInt32) <<< (4 * i + 1).toUInt32 ||| (1 : UInt32) <<< (4 * i + 3).toUInt32
  (b.flags &&& tcOrTE != 0) || (b.pending l).any fun e => e != .half

/-- The commands that take a lane. -/
def laneCommands : List String :=
  ["half", "complete", "error", "priority", "listen", "tx", "rx", "deliver", "poll", "wait",
   "circ", "fill", "maxread", "read", "pause", "resume", "stop"]

/-- Commands on a lane. -/
def laneCommand (cmd : String) (l : Lane) (args : List String) : Command Unit := do
  match cmd with
  | "half" | "complete" | "error" =>
    let e ← eventWord cmd
    act (modifyBank (·.raise l e))
  | "priority" =>
    let [w] := args | throw "usage: priority <channel> <low|medium|high|veryhigh>"
    let some p := Priority.ofName? w | throw ("unknown priority " ++ quote w)
    act (l.configure p)
  | "listen" =>
    let [w] := args | throw "usage: listen <channel> <half|complete|error>"
    act (l.listen (← eventWord w))
  | "tx" => startOneShot l .toPeripheral (← bytesWords args) cmd
  | "rx" => startOneShot l .fromPeripheral (zeros (← lengthWords args)) cmd
  | "deliver" =>
    let o? := l.entry (← get).oneShots
    let some o := o?.filter (·.reads) | throw ("no read in flight on channel " ++ toString l.number)
    let data ← bytesWords args
    act (modifyBuffer o.buffer (·.fill 0 (data.map (·.toUInt32))))
  | "poll" =>
    let o ← oneShotOn l
    let r ← act (Transfer.poll o.transfer)
    let left ← act (Transfer.remaining o.transfer)
    report { command := cmd, lane := some l, result := resultText r, data := toString left }
  | "wait" =>
    let o ← oneShotOn l
    unless settles (← get).machine.bank l do
      throw ("channel " ++ toString l.number ++ " never completes: raise complete or error first")
    let (back, r) ← act (Transfer.wait o.transfer)
    modify fun s => { s with oneShots := l.setEntry s.oneShots none }
    -- the buffer read back is the one the wait handed back
    let data ← ExceptT.lift <| Buffer.borrow back.memory fun items =>
      pure (hexOfBytes (items.toList.map (·.toNat)))
    report { command := cmd, lane := some l,
             result := handbackText ⟨l, o.buffer, o.peripheral⟩ back r, data }
  | "circ" =>
    let n ← lengthWords args
    if n = 0 ∨ n % 2 ≠ 0 then
      throw ("circular buffer length must be even and non-zero, got " ++ toString n)
    let ring ← match Ring.make .w8 ((zeros n).map (·.toUInt32)).toArray with
      | .ok r => pure r
      | .error f => throwThe Fault f
    let rh ← act (addRing ring)
    let p ← act (addPeripheral (peripheralFor l))
    let r ← act (Stream.start l rh p)
    if let .ok t := r then
      modify fun s => { s with circulars := l.setEntry s.circulars (some ⟨t, rh, p⟩) }
    let refusal := match r with | .ok _ => none | .error e => some e
    report { command := cmd, lane := some l, result := resultText refusal }
  | _ => circularCommand cmd l args

/-- Runs the words of one line. -/
def exec (cmd : String) (args : List String) : Command Unit := do
  match cmd with
  | "expect" =>
    let want := " ".intercalate args
    let got := (← get).last
    if got ≠ want then throw ("got " ++ quote got ++ ", want " ++ quote want)
  | "stats" =>
    let c := (← get).machine.counters
    report { command := cmd, result :=
      "starts=" ++ toString c.starts ++ " completions=" ++ toString c.completions ++
      " polls=" ++ toString c.polls ++ " reads=" ++ toString c.reads ++
      " wouldblock=" ++ toString c.wouldBlock ++ " overruns=" ++ toString c.overruns ++
      " errors=" ++ toString c.transferErrors }
  | "after" =>
    let [p, e, ch] := args | throw "usage: after <polls> <half|complete|error> <channel>"
    let some polls := (parseInt? p).filter (1 ≤ ·) | throw ("invalid poll count " ++ quote p)
    let e ← eventWord e
    let l ← laneWord ch
    act (modifyBank (·.scheduleAfter polls l e))
  | _ =>
    unless laneCommands.contains cmd do throw "unknown command"
    let w :: rest := args | throw "missing channel"
    laneCommand cmd (← laneWord w) rest

/-- How a script ended. -/
structure Ending where
  /-- The report lines printed. -/
  printed : List String
  /-- The error that stopped the script, if one did. -/
  error : Option String
  /-- The fault the machine broke off with, if it did. -/
  fault : Option Fault := none

/-- Runs the lines of a script, numbering them from one, with `split` cutting each line into
words. -/
def runLines (split : String → Except String (List String)) : List String → Sim (Option String)
  | [] => pure none
  | text :: rest => do
    modify fun s => { s with line := s.line + 1 }
    let n := (← get).line
    match split text with
    | .error e => return some ("line " ++ toString n ++ ": " ++ e)
    | .ok [] => runLines split rest
    | .ok (cmd :: args) =>
      match ← (exec cmd args).run with
      | .error e => return some ("line " ++ toString n ++ ": " ++ cmd ++ ": " ++ e)
      | .ok () => runLines split rest

/-- Runs a script on a fresh machine, with `split` cutting its lines into words. -/
def runScript (split : String → Except String (List String)) (text : String) : Ending :=
  let read := readLines text
  match (runLines split read.lines).run {} with
  | .ok err s => ⟨s.printed.toList, err.or read.error, none⟩
  | .error f s => ⟨s.printed.toList, none, some f⟩

end DmaOwnership.Script
