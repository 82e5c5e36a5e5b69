import DmaOwnership.Transfer
import DmaOwnership.Stream
import DmaOwnership.Buffer.Borrow
/-!
# Client programs

`Client x` says that `x` is a program a client of the library runs against the machine: the
library's operations and the engine's events, in sequence, with faults caught, and nested
inside the callbacks of borrows and reads to any depth. A client may look at the machine and
decide from what it sees; it names memory and peripherals by handles, possibly ones that
refer to nothing; it starts a transfer only with a peripheral it holds; and it never writes
a lane's registers or clears its flags itself. The library's invariants are stated as
properties every client program keeps.
-/

namespace DmaOwnership

open Machine

/-- The programs of a client of the library. -/
inductive Client : {α : Type} → Act α → Prop where
  | pure {α : Type} (a : α) : Client (pure a : Act α)
  | get : Client (get : Act Machine)
  | throw {α : Type} (e : Fault) : Client (throw e : Act α)
  | bind {α β : Type} {x : Act α} {k : α → Act β} :
      Client x → (∀ a, Client (k a)) → Client (x >>= k)
  | tryCatch {α : Type} {x : Act α} {handle : Fault → Act α} :
      Client x → (∀ e, Client (handle e)) → Client (tryCatch x handle)
  -- the lanes
  | configure (l : Lane) (p : Priority) : Client (l.configure p)
  | listen (l : Lane) (e : Event) : Client (l.listen e)
  | unlisten (l : Lane) (e : Event) : Client (l.unlisten e)
  | inUse (l : Lane) : Client l.inUse
  | laneRemaining (l : Lane) : Client l.remaining
  -- memory and peripherals
  | newBuffer (w : Width) (items : Array UInt32) : Client (addBuffer { width := w, items })
  | newRing (w : Width) (items : Array UInt32) : Client (addRing { width := w, items })
  | newPeripheral (p : Peripheral) : Client (addPeripheral p)
  | borrow {α : Type} (id : Nat) {f : Array UInt32 → Act α} :
      (∀ items, Client (f items)) → Client (Buffer.borrow id f)
  | borrowMut {α : Type} (id : Nat) {f : Array UInt32 → Act α} :
      (∀ items, Client (f items)) → Client (Buffer.borrowMut id f)
  -- one-shot transfers
  | startTransfer (dir : Direction) (l : Lane) (buf periph : Nat) :
      Client (Machine.peripheral periph >>= fun _ => Transfer.start dir l buf periph)
  | isDone (id : Nat) : Client (Transfer.isDone id)
  | poll (id : Nat) : Client (Transfer.poll id)
  | transferRemaining (id : Nat) : Client (Transfer.remaining id)
  | wait (id : Nat) : Client (Transfer.wait id)
  -- circular transfers
  | startStream (l : Lane) (ring periph : Nat) :
      Client (Machine.peripheral periph >>= fun _ => Stream.start l ring periph)
  | configureStream (id : Nat) (maxRead : Int) : Client (Stream.configure id maxRead)
  | peek {α : Type} (id : Nat) {f : Array UInt32 → Half → Act α} :
      (∀ items h, Client (f items h)) → Client (Stream.peek id f)
  | pause (id : Nat) : Client (Stream.pause id)
  | resume (id : Nat) : Client (Stream.resume id)
  | streamRemaining (id : Nat) : Client (Stream.remaining id)
  | stop (id : Nat) : Client (Stream.stop id)
  -- the engine and time
  | raise (l : Lane) (e : Event) : Client (modifyBank (·.raise l e))
  | after (polls : Int) (l : Lane) (e : Event) : Client (modifyBank (·.scheduleAfter polls l e))
  | status (l : Lane) : Client l.readStatus
  | fillBuffer (id offset : Nat) (data : List UInt32) :
      Client (modifyBuffer id (·.fill offset data))
  | fillRing (id offset : Nat) (data : List UInt32) : Client (modifyRing id (·.fill offset data))
  | sleep (us : Nat) : Client (sleep us)

namespace Client

/-- A read without the half is a client program when its callback is. -/
theorem read {α : Type} (id : Nat) {f : Array UInt32 → Act α} (hf : ∀ items, Client (f items)) :
    Client (Stream.read id f) :=
  peek id fun items _ => hf items

end Client

end DmaOwnership
