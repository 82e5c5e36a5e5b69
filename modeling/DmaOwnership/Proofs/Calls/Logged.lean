import DmaOwnership.Proofs.Client
import DmaOwnership.Proofs.Spec.Borrow
import DmaOwnership.Proofs.Spec.Channel
import DmaOwnership.Proofs.Spec.Stream
import DmaOwnership.Proofs.Spec.Transfer
/-!
# The calls a run makes

Some calls of the library are seen by its counters, and some change a lane's interrupt
enables. `Logged x s log r` says that the client program `x`, run from `s`, ends in `r`
and makes the calls `log`, in the order in which they return: each listen and unlisten with
its lane and event; each start that returns, with whether it began; each wait, with the
status reads it made and what it returned; and each read of a circular transfer that
returns, with its refusal. A borrow makes the calls of its callback; a read, those of its
callback and then itself. All other operations are `Silent`.

The log is a record beside the run, not a second semantics: `Logged.run` says that the
run it records is the program's own, and `Client.logged` that every run of a client
program has a log.
-/

namespace DmaOwnership

open Machine

/-- A call of the library that the counters or the interrupt enables see, with what it
answered. -/
inductive Call where
  /-- A listen (`on`) or an unlisten of an event on a lane. -/
  | listen (l : Lane) (e : Event) (on : Bool)
  /-- A start of a one-shot or circular transfer that returned: begun, or refused. -/
  | start (begun : Bool)
  /-- A wait that made `reads` status reads, then returned its refusal, or broke off. -/
  | wait (reads : Nat) (result : Option (Option Refusal))
  /-- A read of a circular transfer that returned, with its refusal. -/
  | read (refusal : Option Refusal)
deriving DecidableEq, Repr

namespace Call

/-- What a start leaves in the log: whether it began, if it returned. -/
def ofStart {α : Type} : EStateM.Result Fault Machine (Except Refusal α) → List Call
  | .ok (.ok _) _ => [.start true]
  | .ok (.error _) _ => [.start false]
  | .error _ _ => []

/-- What a wait from `s` leaves in the log: the status reads it made, and what it returned. -/
def ofWait (s : Machine) : EStateM.Result Fault Machine (Handback × Option Refusal) → Call
  | .ok (_, r) s' => .wait (s'.bank.reads - s.bank.reads) (some r)
  | .error _ s' => .wait (s'.bank.reads - s.bank.reads) none

/-- What the checks after a read's callback leave in the log: the read, if they return. -/
def ofGiveBack : EStateM.Result Fault Machine (Option Refusal) → List Call
  | .ok o _ => [.read o]
  | .error _ _ => []

end Call

/-- The result with its machine changed by `g`. -/
def mapMachine {α : Type} (g : Machine → Machine) :
    EStateM.Result Fault Machine α → EStateM.Result Fault Machine α
  | .ok a s => .ok a (g s)
  | .error e s => .error e (g s)

/-- The answer of a read whose callback returned `a`, from the run of the checks after it. -/
def Stream.answer {α : Type} (a : α) :
    EStateM.Result Fault Machine (Option Refusal) → EStateM.Result Fault Machine (Stream.Outcome α)
  | .ok o s => .ok ⟨some a, o⟩ s
  | .error e s => .error e s

/-- The result with its machine changed by `g` ends where `r` ends, changed by `g`. -/
@[simp] theorem finalState_mapMachine {α : Type} (g : Machine → Machine)
    (r : EStateM.Result Fault Machine α) : finalState (mapMachine g r) = g (finalState r) := by
  cases r <;> rfl

@[simp] theorem finalState_answer {α : Type} (a : α)
    (r : EStateM.Result Fault Machine (Option Refusal)) :
    finalState (Stream.answer a r) = finalState r := by
  cases r <;> rfl

/-- The operations of a client that neither count nor listen. -/
inductive Silent : {α : Type} → Act α → Prop where
  | configure (l : Lane) (p : Priority) : Silent (l.configure p)
  | inUse (l : Lane) : Silent l.inUse
  | laneRemaining (l : Lane) : Silent l.remaining
  | newBuffer (w : Width) (items : Array UInt32) : Silent (addBuffer { width := w, items })
  | newRing (w : Width) (items : Array UInt32) : Silent (addRing { width := w, items })
  | newPeripheral (p : Peripheral) : Silent (addPeripheral p)
  | isDone (id : Nat) : Silent (Transfer.isDone id)
  | poll (id : Nat) : Silent (Transfer.poll id)
  | transferRemaining (id : Nat) : Silent (Transfer.remaining id)
  | configureStream (id : Nat) (maxRead : Int) : Silent (Stream.configure id maxRead)
  | pause (id : Nat) : Silent (Stream.pause id)
  | resume (id : Nat) : Silent (Stream.resume id)
  | streamRemaining (id : Nat) : Silent (Stream.remaining id)
  | stop (id : Nat) : Silent (Stream.stop id)
  | raise (l : Lane) (e : Event) : Silent (modifyBank (·.raise l e))
  | after (polls : Int) (l : Lane) (e : Event) : Silent (modifyBank (·.scheduleAfter polls l e))
  | status (l : Lane) : Silent l.readStatus
  | fillBuffer (id offset : Nat) (data : List UInt32) :
      Silent (modifyBuffer id (·.fill offset data))
  | fillRing (id offset : Nat) (data : List UInt32) : Silent (modifyRing id (·.fill offset data))
  | sleep (us : Nat) : Silent (sleep us)

/-- What an operation that neither counts nor listens may change of a machine: not the
counters, and no lane's interrupt enables, in its settings or in its control word. -/
structure Machine.Quiet (s s' : Machine) : Prop where
  /-- The counters are as they were. -/
  counters : s'.counters = s.counters
  /-- Every lane's settings keep its enables. -/
  irq : ∀ l, (s'.laneState l).irq = (s.laneState l).irq
  /-- Every lane's control word keeps its enables. -/
  enables : ∀ l, s'.bank.control l &&& Control.irqMask = s.bank.control l &&& Control.irqMask

theorem Machine.Quiet.refl (s : Machine) : s.Quiet s := ⟨rfl, fun _ => rfl, fun _ => rfl⟩

/-- A read of the status word is quiet: it raises flags, never a control word. -/
theorem Machine.Quiet.afterRead (s : Machine) : s.Quiet s.afterRead :=
  ⟨rfl, fun _ => rfl, fun m => by rw [afterRead_bank, Bank.control_status]⟩

/-- The operations that neither count nor listen are quiet: they write no control word, or
its enable bit alone, and no lane's enables in its settings. -/
theorem Silent.quiet {α : Type} {x : Act α} (hx : Silent x) (s : Machine) :
    s.Quiet (finalState (x.run s)) := by
  cases hx with
  | configure l p =>
    rw [Lane.run_configure]
    exact ⟨rfl, irq_setEntry s rfl, fun _ => rfl⟩
  | isDone id =>
    rw [Transfer.run_isDone]
    split
    · exact .refl s
    · split
      · exact .refl s
      · exact .afterRead s
  | poll id =>
    rw [Transfer.run_poll]
    split
    · exact .refl s
    · split
      · exact .refl s
      · exact .afterRead s
  | transferRemaining id =>
    rw [Transfer.run_remaining]
    split
    · exact .refl s
    · split <;> exact .refl s
  | pause id =>
    rw [Stream.run_pause]
    split
    · exact .refl s
    · split
      · exact .refl s
      · exact ⟨rfl, fun _ => rfl, Bank.control_setEnable_and_irqMask _ _ _⟩
  | resume id =>
    rw [Stream.run_resume]
    split
    · exact .refl s
    · split
      · exact .refl s
      · exact ⟨rfl, fun _ => rfl, Bank.control_setEnable_and_irqMask _ _ _⟩
  | streamRemaining id =>
    rw [Stream.run_remaining]
    split
    · exact .refl s
    · split <;> exact .refl s
  | stop id =>
    rw [Stream.run_stop]
    split
    · exact .refl s
    · split
      · exact .refl s
      · rw [finalState_ok]
        exact ⟨rfl, irq_setEntry s rfl, fun m => by
          rw [Bank.control_clear, Bank.control_setEnable_and_irqMask]⟩
  | raise l e => exact ⟨rfl, fun _ => rfl, fun m => by rw [← Bank.control_raise s.bank l e m]; rfl⟩
  | status l => exact .afterRead s
  -- the rest change neither the counters, the control words nor the lanes' settings
  | _ => exact ⟨rfl, fun _ => rfl, fun _ => rfl⟩

/-- The operations of a client that call nothing back: the silent ones, the listens, the
starts and the waits. Every other client program is built from these, or runs callbacks. -/
inductive Leaf : {α : Type} → Act α → Prop where
  | silent {α : Type} {x : Act α} (hx : Silent x) : Leaf x
  | listen (l : Lane) (e : Event) : Leaf (l.listen e)
  | unlisten (l : Lane) (e : Event) : Leaf (l.unlisten e)
  | startTransfer (dir : Direction) (l : Lane) (buf periph : Nat) :
      Leaf (peripheral periph >>= fun _ => Transfer.start dir l buf periph)
  | startStream (l : Lane) (ring periph : Nat) :
      Leaf (peripheral periph >>= fun _ => Stream.start l ring periph)
  | wait (id : Nat) : Leaf (Transfer.wait id)

/-- Client program `x`, run from `s`, ends in `r` and makes the calls `log`. -/
inductive Logged : {α : Type} → Act α → Machine → List Call → EStateM.Result Fault Machine α →
    Prop where
  | pure {α : Type} (a : α) (s : Machine) : Logged (pure a) s [] (.ok a s)
  | get (s : Machine) : Logged get s [] (.ok s s)
  | throw {α : Type} (e : Fault) (s : Machine) : Logged (throw e : Act α) s [] (.error e s)
  | bind {α β : Type} {x : Act α} {k : α → Act β} {s s₁ : Machine} {a : α}
      {log₁ log₂ : List Call} {r : EStateM.Result Fault Machine β} :
      Logged x s log₁ (.ok a s₁) → Logged (k a) s₁ log₂ r → Logged (x >>= k) s (log₁ ++ log₂) r
  | bind_error {α β : Type} {x : Act α} {k : α → Act β} {s s₁ : Machine} {e : Fault}
      {log : List Call} :
      Logged x s log (.error e s₁) → Logged (x >>= k) s log (.error e s₁)
  | tryCatch_ok {α : Type} {x : Act α} {handle : Fault → Act α} {s s₁ : Machine} {a : α}
      {log : List Call} :
      Logged x s log (.ok a s₁) → Logged (tryCatch x handle) s log (.ok a s₁)
  | tryCatch_error {α : Type} {x : Act α} {handle : Fault → Act α} {s s₁ : Machine} {e : Fault}
      {log₁ log₂ : List Call} {r : EStateM.Result Fault Machine α} :
      Logged x s log₁ (.error e s₁) → Logged (handle e) s₁ log₂ r →
      Logged (tryCatch x handle) s (log₁ ++ log₂) r
  | silent {α : Type} {x : Act α} (hx : Silent x) (s : Machine) : Logged x s [] (x.run s)
  | listen (l : Lane) (e : Event) (s : Machine) :
      Logged (l.listen e) s [.listen l e true] ((l.listen e).run s)
  | unlisten (l : Lane) (e : Event) (s : Machine) :
      Logged (l.unlisten e) s [.listen l e false] ((l.unlisten e).run s)
  | startTransfer (dir : Direction) (l : Lane) (buf periph : Nat) (s : Machine) :
      Logged (peripheral periph >>= fun _ => Transfer.start dir l buf periph) s
        (Call.ofStart ((peripheral periph >>= fun _ => Transfer.start dir l buf periph).run s))
        ((peripheral periph >>= fun _ => Transfer.start dir l buf periph).run s)
  | startStream (l : Lane) (ring periph : Nat) (s : Machine) :
      Logged (peripheral periph >>= fun _ => Stream.start l ring periph) s
        (Call.ofStart ((peripheral periph >>= fun _ => Stream.start l ring periph).run s))
        ((peripheral periph >>= fun _ => Stream.start l ring periph).run s)
  | wait (id : Nat) (s : Machine) :
      Logged (Transfer.wait id) s [Call.ofWait s ((Transfer.wait id).run s)]
        ((Transfer.wait id).run s)
  | borrow_refused {α : Type} (id : Nat) (f : Array UInt32 → Act α) {s : Machine}
      (h : ∀ b, s.buffers[id]? = some b → b.writing = true) :
      Logged (Buffer.borrow id f) s [] ((Buffer.borrow id f).run s)
  | borrow {α : Type} {id : Nat} {f : Array UInt32 → Act α} {s : Machine} {b : Buffer}
      {log : List Call} {r : EStateM.Result Fault Machine α}
      (hb : s.buffers[id]? = some b) (hw : b.writing = false) :
      Logged (f b.items)
        { s with buffers := s.buffers.modify id fun b => { b with readers := b.readers + 1 } } log r →
      Logged (Buffer.borrow id f) s log
        (mapMachine (fun s => { s with
          buffers := s.buffers.modify id fun b => { b with readers := b.readers - 1 } }) r)
  | borrowMut_refused {α : Type} (id : Nat) (f : Array UInt32 → Act α) {s : Machine}
      (h : ∀ b, s.buffers[id]? = some b → b.canWrite = false) :
      Logged (Buffer.borrowMut id f) s [] ((Buffer.borrowMut id f).run s)
  | borrowMut {α : Type} {id : Nat} {f : Array UInt32 → Act α} {s : Machine} {b : Buffer}
      {log : List Call} {r : EStateM.Result Fault Machine α}
      (hb : s.buffers[id]? = some b) (hw : b.canWrite = true) :
      Logged (f b.items)
        { s with buffers := s.buffers.modify id fun b => { b with writing := true } } log r →
      Logged (Buffer.borrowMut id f) s log
        (mapMachine (fun s => { s with
          buffers := s.buffers.modify id fun b => { b with writing := false } }) r)
  | peek_fault {α : Type} {id : Nat} (f : Array UInt32 → Half → Act α) {s s₁ : Machine}
      {e : Fault} (ht : (Stream.takeHalf id).run s = .error e s₁) :
      Logged (Stream.peek id f) s [] (.error e s₁)
  | peek_refused {α : Type} {id : Nat} (f : Array UInt32 → Half → Act α) {s s₁ : Machine}
      {r : Refusal} (ht : (Stream.takeHalf id).run s = .ok (.error r) s₁) :
      Logged (Stream.peek id f) s [.read (some r)] (.ok ⟨none, some r⟩ s₁)
  | peek_broke {α : Type} {id : Nat} {f : Array UInt32 → Half → Act α} {s s₁ s₂ : Machine}
      {h : Half} {data : Array UInt32} {start : Option Nat} {log : List Call} {e : Fault}
      (ht : (Stream.takeHalf id).run s = .ok (.ok (h, data, start)) s₁) :
      Logged (f data h) s₁ log (.error e s₂) → Logged (Stream.peek id f) s log (.error e s₂)
  | peek {α : Type} {id : Nat} {f : Array UInt32 → Half → Act α} {s s₁ s₂ : Machine}
      {h : Half} {data : Array UInt32} {start : Option Nat} {log : List Call} {a : α}
      (ht : (Stream.takeHalf id).run s = .ok (.ok (h, data, start)) s₁) :
      Logged (f data h) s₁ log (.ok a s₂) →
      Logged (Stream.peek id f) s (log ++ Call.ofGiveBack ((Stream.giveBack id h start).run s₂))
        (Stream.answer a ((Stream.giveBack id h start).run s₂))

namespace Logged

/-- The run a log records is the program's own. -/
theorem run {α : Type} {x : Act α} {s : Machine} {log : List Call}
    {r : EStateM.Result Fault Machine α} (h : Logged x s log r) : x.run s = r := by
  induction h with
  | pure a s => rfl
  | get s => rfl
  | throw e s => rfl
  | bind _ _ ihx ihk => rw [EStateM.run_bind, ihx]; exact ihk
  | bind_error _ ihx => rw [EStateM.run_bind, ihx]
  | tryCatch_ok _ ihx => rw [run_tryCatch, ihx]
  | tryCatch_error _ _ ihx ihh => rw [run_tryCatch, ihx]; exact ihh
  | silent hx s => rfl
  | listen l e s => rfl
  | unlisten l e s => rfl
  | startTransfer dir l buf periph s => rfl
  | startStream l ring periph s => rfl
  | wait id s => rfl
  | borrow_refused id f h => rfl
  | borrow hb hw _ ih =>
    rw [Buffer.run_borrow, hb]
    simp only [hw, Bool.false_eq_true, if_false, ih]
    cases ‹EStateM.Result Fault Machine _› <;> rfl
  | borrowMut_refused id f h => rfl
  | borrowMut hb hw _ ih =>
    rw [Buffer.run_borrowMut, hb]
    simp only [hw, Bool.not_true, Bool.false_eq_true, if_false, ih]
    cases ‹EStateM.Result Fault Machine _› <;> rfl
  | peek_fault f ht => rw [Stream.run_peek, ht]
  | peek_refused f ht => rw [Stream.run_peek, ht]
  | peek_broke ht _ ih => rw [Stream.run_peek, ht]; dsimp only; rw [ih]
  | peek ht _ ih =>
    rw [Stream.run_peek, ht]
    dsimp only
    rw [ih]
    dsimp only
    cases (Stream.giveBack _ _ _).run _ <;> rfl

end Logged

namespace Client

/-- Every run of a client program has a log. -/
theorem logged {α : Type} {x : Act α} (hx : Client x) (s : Machine) :
    ∃ log, Logged x s log (x.run s) := by
  induction hx generalizing s with
  | pure a => exact ⟨[], .pure a s⟩
  | get => exact ⟨[], .get s⟩
  | throw e => exact ⟨[], .throw e s⟩
  | @bind α β x k _ _ ihx ihk =>
    obtain ⟨log₁, h₁⟩ := ihx s
    cases hr : x.run s with
    | ok a s₁ =>
      rw [hr] at h₁
      obtain ⟨log₂, h₂⟩ := ihk a s₁
      refine ⟨log₁ ++ log₂, ?_⟩
      rw [EStateM.run_bind, hr]
      exact .bind h₁ h₂
    | error e s₁ =>
      rw [hr] at h₁
      refine ⟨log₁, ?_⟩
      rw [EStateM.run_bind, hr]
      exact .bind_error h₁
  | @tryCatch α x handle _ _ ihx ihh =>
    obtain ⟨log₁, h₁⟩ := ihx s
    cases hr : x.run s with
    | ok a s₁ =>
      rw [hr] at h₁
      refine ⟨log₁, ?_⟩
      rw [run_tryCatch, hr]
      exact .tryCatch_ok h₁
    | error e s₁ =>
      rw [hr] at h₁
      obtain ⟨log₂, h₂⟩ := ihh e s₁
      refine ⟨log₁ ++ log₂, ?_⟩
      rw [run_tryCatch, hr]
      exact .tryCatch_error h₁ h₂
  | configure l p => exact ⟨[], .silent (.configure l p) s⟩
  | listen l e => exact ⟨_, .listen l e s⟩
  | unlisten l e => exact ⟨_, .unlisten l e s⟩
  | inUse l => exact ⟨[], .silent (.inUse l) s⟩
  | laneRemaining l => exact ⟨[], .silent (.laneRemaining l) s⟩
  | newBuffer w items => exact ⟨[], .silent (.newBuffer w items) s⟩
  | newRing w items => exact ⟨[], .silent (.newRing w items) s⟩
  | newPeripheral p => exact ⟨[], .silent (.newPeripheral p) s⟩
  | @borrow α id f _ ih =>
    cases hb : s.buffers[id]? with
    | none => exact ⟨[], .borrow_refused id f fun b h => by rw [hb] at h; cases h⟩
    | some b =>
      cases hw : b.writing
      · obtain ⟨log, h⟩ := ih b.items
          { s with buffers := s.buffers.modify id fun b => { b with readers := b.readers + 1 } }
        refine ⟨log, ?_⟩
        rw [(Logged.borrow hb hw h).run]
        exact .borrow hb hw h
      · exact ⟨[], .borrow_refused id f fun b' h => by rw [hb] at h; cases h; exact hw⟩
  | @borrowMut α id f _ ih =>
    cases hb : s.buffers[id]? with
    | none => exact ⟨[], .borrowMut_refused id f fun b h => by rw [hb] at h; cases h⟩
    | some b =>
      cases hw : b.canWrite
      · exact ⟨[], .borrowMut_refused id f fun b' h => by rw [hb] at h; cases h; exact hw⟩
      · obtain ⟨log, h⟩ := ih b.items
          { s with buffers := s.buffers.modify id fun b => { b with writing := true } }
        refine ⟨log, ?_⟩
        rw [(Logged.borrowMut hb hw h).run]
        exact .borrowMut hb hw h
  | startTransfer dir l buf periph => exact ⟨_, .startTransfer dir l buf periph s⟩
  | isDone id => exact ⟨[], .silent (.isDone id) s⟩
  | poll id => exact ⟨[], .silent (.poll id) s⟩
  | transferRemaining id => exact ⟨[], .silent (.transferRemaining id) s⟩
  | wait id => exact ⟨_, .wait id s⟩
  | startStream l ring periph => exact ⟨_, .startStream l ring periph s⟩
  | configureStream id maxRead => exact ⟨[], .silent (.configureStream id maxRead) s⟩
  | @peek α id f _ ih =>
    -- the checks before the callback, the callback, and the checks after it
    cases ht : (Stream.takeHalf id).run s with
    | error e s₁ =>
      refine ⟨[], ?_⟩
      rw [(Logged.peek_fault f ht).run]
      exact .peek_fault f ht
    | ok v s₁ =>
      rcases v with r | ⟨h, data, start⟩
      · refine ⟨[.read (some r)], ?_⟩
        rw [(Logged.peek_refused f ht).run]
        exact .peek_refused f ht
      · obtain ⟨log, hf⟩ := ih data h s₁
        cases hr : (f data h).run s₁ with
        | error e s₂ =>
          rw [hr] at hf
          refine ⟨log, ?_⟩
          rw [(Logged.peek_broke ht hf).run]
          exact .peek_broke ht hf
        | ok a s₂ =>
          rw [hr] at hf
          refine ⟨log ++ Call.ofGiveBack ((Stream.giveBack id h start).run s₂), ?_⟩
          rw [(Logged.peek ht hf).run]
          exact .peek ht hf
  | pause id => exact ⟨[], .silent (.pause id) s⟩
  | resume id => exact ⟨[], .silent (.resume id) s⟩
  | streamRemaining id => exact ⟨[], .silent (.streamRemaining id) s⟩
  | stop id => exact ⟨[], .silent (.stop id) s⟩
  | raise l e => exact ⟨[], .silent (.raise l e) s⟩
  | after polls l e => exact ⟨[], .silent (.after polls l e) s⟩
  | status l => exact ⟨[], .silent (.status l) s⟩
  | fillBuffer id offset data => exact ⟨[], .silent (.fillBuffer id offset data) s⟩
  | fillRing id offset data => exact ⟨[], .silent (.fillRing id offset data) s⟩
  | sleep us => exact ⟨[], .silent (.sleep us) s⟩

end Client

end DmaOwnership
