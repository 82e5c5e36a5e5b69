import DmaOwnership.Text.Quote
/-!
# Command-line flags

The simulator takes three string flags, `-broker` (default empty), `-topic` and
`-client-id` (both default `dmasim`), then an optional script path.

* Flags come first: the first argument that is not a flag ends them (so do `--`,
  which is dropped, and a lone `-`). A flag is written `-name` or `--name`, with its
  value in the same argument after `=` or else in the next argument.
* `-h` and `-help` ask for the usage text.
* An unknown flag, a flag with no value, or a malformed flag is an error; the error
  is printed with the usage text.
-/

namespace DmaOwnership.Cli

/-- The settings the flags give. -/
structure Options where
  /-- The address of a broker to publish results to; empty for none. -/
  broker : String := ""
  /-- The prefix of the topics to publish to. -/
  topic : String := "dmasim"
  /-- The client name to publish as. -/
  clientId : String := "dmasim"
deriving DecidableEq, Repr

/-- A flag: its name, what it is for, and its default. -/
structure Flag where
  /-- The name, without the dash. -/
  name : String
  /-- What it is for. -/
  usage : String
  /-- The default value. -/
  default : String

/-- The flags, sorted by name. -/
def flags : List Flag :=
  [⟨"broker", "MQTT broker URL to publish results to", ""⟩,
   ⟨"client-id", "MQTT client ID", "dmasim"⟩,
   ⟨"topic", "MQTT topic prefix", "dmasim"⟩]

/-- The usage text, one line per entry, ending in a newline. -/
def usage : String :=
  "Usage of dmasim:\n" ++ String.join (flags.map fun f =>
    "  -" ++ f.name ++ " string\n    \t" ++ f.usage ++
    (if f.default.isEmpty then "" else " (default " ++ Text.quote f.default ++ ")") ++ "\n")

/-- The options with a flag set. -/
def Options.set (o : Options) (name value : String) : Options :=
  match name with
  | "broker" => { o with broker := value }
  | "topic" => { o with topic := value }
  | _ => { o with clientId := value }

/-- What reading the flags gives. -/
inductive Parsed where
  /-- The options and the arguments after the flags. -/
  | run (o : Options) (rest : List String)
  /-- The usage text was asked for. -/
  | help
  /-- The flags are wrong, with the message. -/
  | failure (message : String)
deriving DecidableEq, Repr

/-- What an argument is, read as a possible flag. -/
inductive Arg where
  /-- Not a flag: the flags end before it. -/
  | plain
  /-- `--`: the flags end with it. -/
  | stop
  /-- A malformed flag. -/
  | malformed
  /-- A flag, with its value if the argument gives one after `=`. -/
  | flag (name : String) (value : Option String)
deriving DecidableEq, Repr

/-- Reads one argument as a possible flag. -/
def Arg.classify (arg : String) : Arg :=
  match arg.toList with
  | '-' :: c :: more =>
    if c = '-' && more.isEmpty then .stop
    else
      let name := if c = '-' then more else c :: more
      match name with
      | [] => .malformed
      | n :: _ =>
        if n = '-' || n = '=' then .malformed
        else
          let key := String.ofList (name.takeWhile (· ≠ '='))
          if name.contains '=' then .flag key (some (String.ofList (name.dropWhile (· ≠ '=')).tail))
          else .flag key none
  | _ => .plain

/-- Reads the flags at the front of the arguments. -/
def parse (o : Options) : List String → Parsed
  | [] => .run o []
  | arg :: rest =>
    match Arg.classify arg with
    | .plain => .run o (arg :: rest)
    | .stop => .run o rest
    | .malformed => .failure ("bad flag syntax: " ++ arg)
    | .flag key value =>
      if flags.any (·.name = key) then
        match value with
        | some v => parse (o.set key v) rest
        | none =>
          match rest with
          | v :: more => parse (o.set key v) more
          | [] => .failure ("flag needs an argument: -" ++ key)
      else if key = "help" || key = "h" then .help
      else .failure ("flag provided but not defined: -" ++ key)

theorem parse_nil (o : Options) : parse o [] = .run o [] := by simp [parse]

end DmaOwnership.Cli
