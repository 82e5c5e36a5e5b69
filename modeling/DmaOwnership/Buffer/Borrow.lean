import DmaOwnership.Machine
/-!
# Borrowing a buffer

Code reads or writes a buffer only inside a callback that borrows it. A shared
borrow needs that nobody writes the buffer (no exclusive borrow and no transfer
that writes it); an exclusive borrow needs that nobody holds it at all. A borrow
is given back when its callback ends, also when the callback breaks off with a
fault: the fault then goes on with the borrow given back.
-/

namespace DmaOwnership

namespace Buffer

open Machine

/-- Runs `x`, then `undo`, also when `x` breaks off; a fault goes on after `undo`. -/
def withUndo (x : EStateM Fault σ α) (undo : EStateM Fault σ Unit) : EStateM Fault σ α := do
  let a ← tryCatch x fun e => do undo; throw e
  undo
  return a

/-- Lends the items of the buffer to `f` for reading. -/
def borrow [HoldsMachine σ] (id : Nat) (f : Array UInt32 → EStateM Fault σ α) :
    EStateM Fault σ α := do
  let b ← Act.within (Machine.buffer id)
  if b.writing then throw .bufferWritten
  Act.within (modifyBuffer id fun b => { b with readers := b.readers + 1 })
  withUndo (f b.items) (Act.within (modifyBuffer id fun b => { b with readers := b.readers - 1 }))

/-- Lends the items of the buffer to `f` alone, for writing. -/
def borrowMut [HoldsMachine σ] (id : Nat) (f : Array UInt32 → EStateM Fault σ α) :
    EStateM Fault σ α := do
  let b ← Act.within (Machine.buffer id)
  if !b.canWrite then throw .bufferShared
  Act.within (modifyBuffer id fun b => { b with writing := true })
  withUndo (f b.items) (Act.within (modifyBuffer id fun b => { b with writing := false }))

end Buffer

end DmaOwnership
