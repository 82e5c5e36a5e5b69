import DmaOwnership.Width
/-!
# One-shot buffers

A buffer is an array of items of one width with an owner discipline. Code may
borrow it to read, any number at a time, or borrow it alone to write; a transfer
locks it for as long as the engine uses it.

* A transfer that writes to a peripheral locks the buffer *shared*: the engine only
  reads the items, so shared borrows stay possible.
* A transfer that reads from a peripheral locks the buffer *exclusively*: the engine
  writes the items, so no borrow is possible.

The counts of readers and the writer mark include the engine's own lock, so that
a single check decides each access.
-/

namespace DmaOwnership

/-- How a transfer holds a buffer. -/
inductive Access where
  /-- No transfer holds the buffer. -/
  | unlocked
  /-- A transfer reads the buffer. -/
  | locked
  /-- A transfer writes the buffer. -/
  | mutLocked
deriving DecidableEq, Repr

/-- The name of an access state. -/
def Access.name : Access → String
  | .unlocked => "Unlocked"
  | .locked => "Locked"
  | .mutLocked => "MutLocked"

/-- A buffer of items with its owner marks. -/
structure Buffer where
  /-- The width of the items. -/
  width : Width
  /-- The items. -/
  items : Array UInt32
  /-- How many readers hold the buffer, a shared-locking transfer included. -/
  readers : Nat := 0
  /-- Whether a writer holds the buffer, an exclusive-locking transfer included. -/
  writing : Bool := false
  /-- How a transfer holds the buffer. -/
  access : Access := .unlocked
deriving Repr

namespace Buffer

/-- The number of items. -/
def length (b : Buffer) : Nat := b.items.size

/-- Whether a shared borrow may begin: no writer holds the buffer. -/
def canRead (b : Buffer) : Bool := !b.writing

/-- Whether an exclusive borrow may begin: nobody holds the buffer in any way. -/
def canWrite (b : Buffer) : Bool := b.access = .unlocked && !b.writing && b.readers = 0

/-- The buffer locked for a transfer that reads it, if it is free of transfers and writers. -/
def lockShared? (b : Buffer) : Option Buffer :=
  if b.access = .unlocked && !b.writing then
    some { b with readers := b.readers + 1, access := .locked }
  else none

/-- The buffer locked for a transfer that writes it, if nobody holds it. -/
def lockExclusive? (b : Buffer) : Option Buffer :=
  if b.canWrite then some { b with writing := true, access := .mutLocked } else none

/-- The buffer handed back by its transfer. -/
def unlock (b : Buffer) : Buffer :=
  match b.access with
  | .locked => { b with readers := b.readers - 1, access := .unlocked }
  | .mutLocked => { b with writing := false, access := .unlocked }
  | .unlocked => b

/-- The buffer with `data` written from item `offset` on, as the engine writes it. -/
def fill (b : Buffer) (offset : Nat) (data : List UInt32) : Buffer :=
  { b with items := (data.zipIdx offset).foldl (fun a (v, i) => a.setIfInBounds i v) b.items }

theorem unlock_access (b : Buffer) : b.unlock.access = .unlocked := by
  unfold unlock
  split <;> simp_all

theorem lockExclusive?_access {b b' : Buffer} (h : b.lockExclusive? = some b') :
    b'.access = .mutLocked := by
  unfold lockExclusive? at h
  split at h
  · cases h; rfl
  · cases h

theorem unlock_lockExclusive? {b b' : Buffer} (h : b.lockExclusive? = some b') :
    b'.unlock = { b with writing := false } := by
  unfold lockExclusive? canWrite at h
  split at h
  · cases h
    rename_i hc
    simp only [Bool.and_eq_true, decide_eq_true_eq] at hc
    simp [unlock, hc.1.1]
  · cases h

end Buffer

end DmaOwnership
