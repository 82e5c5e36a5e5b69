import DmaOwnership.Cli.Program
/-!
# The simulator's command line

Reads the arguments, standard input and the script file, runs the program, prints
what it printed and exits with its code. Bytes that are not UTF-8 read as U+FFFD.
-/

namespace DmaOwnership.Cli

/-- Text from bytes, with every byte of a malformed sequence read as U+FFFD. -/
def decodeLossy (bytes : ByteArray) : String :=
  match String.fromUTF8? bytes with
  | some s => s
  | none => String.ofList (bytes.toList.map fun b => if b < 0x80 then Char.ofNat b.toNat else '�')

/-- The system's own words for an error, when it gave them. -/
def systemWords : IO.Error → String
  | .alreadyExists _ _ d | .invalidArgument _ _ d | .permissionDenied _ _ d
  | .resourceExhausted _ _ d | .inappropriateType _ _ d | .noSuchThing _ _ d
  | .noFileOrDirectory _ _ d | .interrupted _ _ d | .otherError _ d | .resourceBusy _ d
  | .resourceVanished _ d | .unsupportedOperation _ d | .hardwareFault _ d
  | .unsatisfiedConstraints _ d | .illegalOperation _ d | .protocolError _ d
  | .timeExpired _ d => d
  | _ => ""

/-- The words of an error of the file system, as the program prints them: the
system's words (such as "file name too long"), with fixed words for the common
cases. -/
def errorWords (e : IO.Error) (reading : Bool) : String :=
  match e with
  | .noFileOrDirectory .. => "no such file or directory"
  | .inappropriateType .. => if reading then "is a directory" else "not a directory"
  | .permissionDenied .. => "permission denied"
  | _ => if (systemWords e).isEmpty then toString e else systemWords e

/-- The bytes after the last newline of `chunk`, counting on from `run` when it
has none. -/
def tailRun (run : Nat) (chunk : ByteArray) : Nat :=
  chunk.foldl (fun n b => if b = 10 then 0 else n + 1) run

/-- Reads with `read` to the end, or until a line grows longer than a line may be:
the script stops at that line, so nothing after it is needed (a device such as
`/dev/zero` has no end). -/
partial def readScript (read : IO ByteArray) (acc : ByteArray) (run : Nat) : IO ByteArray := do
  let chunk ← read
  if chunk.isEmpty then return acc
  let run := tailRun run chunk
  if Script.maxLineBytes < run then return acc ++ chunk
  readScript read (acc ++ chunk) run

/-- Opens and reads the script at a path. -/
def openScript (path : String) : IO (Except String Source) := do
  match ← (IO.FS.Handle.mk path .read).toBaseIO with
  | .error e => return .error ("open " ++ path ++ ": " ++ errorWords e false)
  | .ok h =>
    match ← (readScript (h.read 65536) .empty 0).toBaseIO with
    | .ok bytes => return .ok (.text (decodeLossy bytes))
    | .error e => return .ok (.unreadable ("read " ++ path ++ ": " ++ errorWords e true))

end DmaOwnership.Cli

open DmaOwnership.Cli in
/-- Runs the simulator. -/
def main (args : List String) : IO UInt32 := do
  let e ← match plan args with
    | .exit e => pure e
    | .run o none =>
      pure (finish words brokerError o (.ok (.text (decodeLossy (← readScript ((← IO.getStdin).read 65536) .empty 0)))))
    | .run o (some p) => pure (finish words brokerError o (← openScript p))
  IO.print e.stdout
  IO.eprint e.stderr
  return e.code.toUInt32
