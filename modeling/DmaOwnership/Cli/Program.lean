import DmaOwnership.Cli.Flags
import DmaOwnership.Cli.Broker
import DmaOwnership.Cli.Words
import DmaOwnership.Cli.Workspace
import DmaOwnership.Script.Simulator
/-!
# The simulator program

The whole program from its command line to its exit: read the flags; open the script
named by the first argument after them, or read standard input; check the broker
address if one is given; run the script. Reports go to standard output; the usage
text, the errors and the message that stops a script go to standard error.

Exit codes: `0` when the script ran to its end or the usage text was asked for, `1`
when opening, the broker or the script failed, `2` for wrong flags or a fault.

The program is given the splitter of script lines and the check of a broker address
(`run`); `runIn` is the program with the splitter of `Cli.Words` and the check of
`Cli.Broker`.
-/

namespace DmaOwnership.Cli

/-- How the program ends. -/
structure Exit where
  /-- The exit code. -/
  code : Nat
  /-- What it printed on standard output. -/
  stdout : String := ""
  /-- What it printed on standard error. -/
  stderr : String := ""
deriving DecidableEq, Repr

/-- What the program does after reading its flags. -/
inductive Plan where
  /-- It ends at once. -/
  | exit (e : Exit)
  /-- It runs with these options, on the script at this path or on standard input. -/
  | run (o : Options) (path : Option String)

/-- Reads the command line. -/
def plan (args : List String) : Plan :=
  match parse {} args with
  | .help => .exit { code := 0, stderr := usage }
  | .failure m => .exit { code := 2, stderr := m ++ "\n" ++ usage }
  | .run o rest => .run o rest.head?

/-- The text of a set of lines, each ended by a newline. -/
def linesText (ls : List String) : String := String.join (ls.map (· ++ "\n"))

/-- Runs the script from its source once it is open, with `split` cutting its lines into
words and `connect` answering why a broker address leaves nothing to connect to. -/
def finish (split : String → Except String (List String)) (connect : String → Option String)
    (o : Options) (source : Except String Source) : Exit :=
  match source with
  | .error m => { code := 1, stderr := m ++ "\n" }
  | .ok src =>
    match (if o.broker.isEmpty then none else connect o.broker) with
    | some m => { code := 1, stderr := m ++ "\n" }
    | none =>
      match src with
      | .unreadable m => { code := 1, stderr := m ++ "\n" }
      | .text t =>
        let e := Script.runScript split t
        let out := linesText e.printed
        match e.fault, e.error with
        | some f, _ => { code := 2, stdout := out, stderr := "panic: " ++ f.message ++ "\n" }
        | none, some m => { code := 1, stdout := out, stderr := m ++ "\n" }
        | none, none => { code := 0, stdout := out }

/-- Runs the program in a directory, with its arguments and standard input, given its
splitter of script lines and its check of a broker address. -/
def run (split : String → Except String (List String)) (connect : String → Option String)
    (w : Workspace) (args : List String) (stdin : String) : Exit :=
  match plan args with
  | .exit e => e
  | .run o none => finish split connect o (.ok (.text stdin))
  | .run o (some p) => finish split connect o (w.openPath stdin p)

/-- The program with its own splitter and broker check. -/
def runIn (w : Workspace) (args : List String) (stdin : String) : Exit :=
  run words brokerError w args stdin

end DmaOwnership.Cli
