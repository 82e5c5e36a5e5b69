import DmaOwnership.Script.Lines
/-!
# Opening a script path

The simulator reads its script from a path, relative or absolute, opened by the rules of a
Linux file system: a path of `maxPathBytes` bytes or more is refused; the path is split at
`/`, with `..` going to the parent; each name is looked up in the directory reached so far (a
name over `maxNameBytes` bytes is refused, a symbolic link is followed, at most `maxLinks` in
a row, and a part after a non-directory fails); a directory opens but cannot be read. The
machine has the usual top-level directories, the devices under `/dev`, `/proc/self` with its
links `cwd` and `root`, and a working directory in `/tmp` with the files the run is given.
-/

namespace DmaOwnership.Cli

/-- What an opened path reads as. -/
inductive Source where
  /-- Text, to its end. -/
  | text (s : String)
  /-- Something that opens but cannot be read, with the error of the read. -/
  | unreadable (error : String)
deriving DecidableEq, Repr

/-- A device file, by what reading it gives. -/
inductive Device where
  /-- Reads as an empty file. -/
  | empty
  /-- Reads as zero bytes without end. -/
  | zeros
  /-- Reads the program's standard input. -/
  | input
  /-- Cannot be opened: no device stands behind it. -/
  | absent
deriving DecidableEq, Repr

/-- What stands at a path of the file system. -/
inductive Entry where
  /-- A directory. -/
  | directory
  /-- A plain file with this text. -/
  | file (text : String)
  /-- A device. -/
  | device (d : Device)
  /-- A symbolic link to an absolute path, given by its names. -/
  | link (target : List String)
deriving DecidableEq, Repr

/-- The longest name a directory may hold, in bytes. -/
def maxNameBytes : Nat := 255

/-- The size from which a path is refused, in bytes (its terminating zero byte
would not fit a buffer of this size). -/
def maxPathBytes : Nat := 4096

/-- The most symbolic links followed in a row. -/
def maxLinks : Nat := 40

/-- The directories, devices and links of the machine outside the working
directory, by absolute path. -/
def systemEntries : List (List String × Entry) :=
  [([], .directory)] ++
  (["boot", "dev", "etc", "home", "media", "mnt", "opt", "proc", "root", "run", "srv",
    "sys", "tmp", "usr", "var"].map fun d => ([d], .directory)) ++
  (["bin", "lib", "lib64", "sbin"].map fun d => ([d], .link ["usr", d])) ++
  (["bin", "include", "lib", "lib64", "libexec", "local", "sbin", "share", "src"].map
    fun d => (["usr", d], .directory)) ++
  (["backups", "cache", "lib", "local", "log", "mail", "opt", "spool", "tmp"].map
    fun d => (["var", d], .directory)) ++
  [(["var", "run"], .link ["run"]), (["var", "lock"], .link ["run", "lock"]),
   (["run", "lock"], .directory)] ++
  (["block", "bus", "class", "dev", "devices", "firmware", "fs", "kernel", "module"].map
    fun d => (["sys", d], .directory)) ++
  [(["dev", "null"], .device .empty), (["dev", "zero"], .device .zeros),
   (["dev", "full"], .device .zeros), (["dev", "tty"], .device .absent),
   (["dev", "stdin"], .link ["proc", "self", "fd", "0"]),
   (["dev", "fd"], .link ["proc", "self", "fd"]),
   (["dev", "pts"], .directory), (["dev", "shm"], .directory), (["dev", "mqueue"], .directory),
   (["proc", "self"], .directory), (["proc", "self", "fd"], .directory),
   (["proc", "self", "fd", "0"], .device .input),
   (["proc", "self", "root"], .link [])]

/-- The directory a program runs in: where it is, and the plain files in it. -/
structure Workspace where
  /-- The files, as name and text. -/
  files : List (String × String) := []
  /-- The working directory's absolute path, by its names. -/
  home : List String := ["tmp", "dmasim-run"]

/-- Where a path walk stands. -/
inductive Place where
  /-- A directory, by its absolute path. -/
  | dir (path : List String)
  /-- Something that is not a directory. -/
  | leaf (e : Entry)
  /-- Nowhere: the walk failed with this reason. -/
  | failed (reason : String)

namespace Workspace

/-- Everything on the machine, by absolute path. -/
def entries (w : Workspace) : List (List String × Entry) :=
  systemEntries ++ [(["proc", "self", "cwd"], .link w.home), (w.home, .directory)] ++
    w.files.map fun (name, text) => (w.home ++ [name], .file text)

/-- What stands at an absolute path, if anything. -/
def entry? (w : Workspace) (path : List String) : Option Entry :=
  (w.entries.find? (·.1 = path)).map (·.2)

/-- Where a walk stands on reaching `e` at `path`, following links. -/
def follow (w : Workspace) : Nat → List String → Entry → Place
  | 0, _, _ => .failed "too many levels of symbolic links"
  | fuel + 1, path, e =>
    match e with
    | .directory => .dir path
    | .link target =>
      match w.entry? target with
      | some t => w.follow fuel target t
      | none => .failed "no such file or directory"
    | other => .leaf other

/-- One step of a path walk. -/
def stepInto (w : Workspace) (p : Place) (part : String) : Place :=
  match p with
  | .failed r => .failed r
  | .leaf _ => .failed "not a directory"
  | .dir d =>
    if part = "" ∨ part = "." then .dir d
    else if part = ".." then .dir d.dropLast
    else if maxNameBytes < part.utf8ByteSize then .failed "file name too long"
    else match w.entry? (d ++ [part]) with
      | some e => w.follow maxLinks (d ++ [part]) e
      | none => .failed "no such file or directory"

/-- What zero bytes without end read as: more than a line may hold, without a
newline, which is all a line reader looks at before it stops. -/
def endlessZeros : String := String.ofList (List.replicate (Script.maxLineBytes + 1) '\x00')

/-- Opens a path, for a program with `stdin` on standard input: what it reads as,
or the error of opening it. -/
def openPath (w : Workspace) (stdin path : String) : Except String Source :=
  if path.isEmpty then .error ("open " ++ path ++ ": no such file or directory")
  else if maxPathBytes ≤ path.utf8ByteSize then .error ("open " ++ path ++ ": file name too long")
  else
    let start := if path.startsWith "/" then Place.dir [] else Place.dir w.home
    match (path.splitOn "/").foldl w.stepInto start with
    | .dir _ => .ok (.unreadable ("read " ++ path ++ ": is a directory"))
    | .leaf (.file s) => .ok (.text s)
    | .leaf (.device .empty) => .ok (.text "")
    | .leaf (.device .zeros) => .ok (.text endlessZeros)
    | .leaf (.device .input) => .ok (.text stdin)
    | .leaf _ => .error ("open " ++ path ++ ": no such device or address")
    | .failed r => .error ("open " ++ path ++ ": " ++ r)

end Workspace

end DmaOwnership.Cli
