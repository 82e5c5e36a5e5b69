import Mathlib
import DmaOwnership.Proofs.Calls.Logged
import DmaOwnership.Proofs.Ownership.AtRest
/-!
# Interrupt enables follow the latest listen

A lane keeps its interrupt enables twice: in its settings (`LaneState.irq`), which carry
them from one transfer to the next, and in bits 1–3 of its control word, which the engine
reads. `Machine.EnablesAre s v` says that both copies hold `v`. A listen or an unlisten
sets or clears its event's bit in both; every other operation of a client keeps both: a
start rebuilds the control word from the settings, and pausing, resuming, waiting and
stopping write the enable bit alone.

So every run keeps the control words mirroring the settings, and a lane enables the
interrupt of an event exactly when the latest listen or unlisten of that event on the
lane was a listen (`Call.lastListen`). An event without an interrupt changes nothing.
-/

namespace DmaOwnership

namespace Control

/-- Setting bits and then keeping only them gives the bits. -/
theorem or_and_self (w b : UInt32) : (w ||| b) &&& b = b := by
  apply UInt32.toBitVec_inj.mp
  apply BitVec.eq_of_getElem_eq
  intro i hi
  simp only [UInt32.toBitVec_and, UInt32.toBitVec_or, BitVec.getElem_and, BitVec.getElem_or]
  cases w.toBitVec[i] <;> cases b.toBitVec[i] <;> rfl

/-- Clearing bits and then keeping only them gives nothing. -/
theorem and_not_and_self (w b : UInt32) : (w &&& ~~~b) &&& b = 0 := by
  apply UInt32.toBitVec_inj.mp
  apply BitVec.eq_of_getElem_eq
  intro i hi
  simp only [UInt32.toBitVec_and, UInt32.toBitVec_not, UInt32.toBitVec_zero, BitVec.getElem_and,
    BitVec.getElem_not, BitVec.getElem_zero]
  cases w.toBitVec[i] <;> cases b.toBitVec[i] <;> rfl

/-- The interrupt enables of a word with its enables taken from `m` are those of `m`. -/
@[simp] theorem withInterrupts_and_irqMask (w m : UInt32) :
    withInterrupts w m &&& irqMask = m &&& irqMask := by
  apply UInt32.toBitVec_inj.mp
  apply BitVec.eq_of_getElem_eq
  intro i hi
  simp only [withInterrupts, UInt32.toBitVec_and, UInt32.toBitVec_or, UInt32.toBitVec_not,
    BitVec.getElem_and, BitVec.getElem_or, BitVec.getElem_not]
  cases w.toBitVec[i] <;> cases m.toBitVec[i] <;> cases irqMask.toBitVec[i] <;> rfl

/-- Writing the interrupt enables changes no other bit of the word. -/
@[simp] theorem withInterrupts_and_not_irqMask (w m : UInt32) :
    withInterrupts w m &&& ~~~irqMask = w &&& ~~~irqMask := by
  apply UInt32.toBitVec_inj.mp
  apply BitVec.eq_of_getElem_eq
  intro i hi
  simp only [withInterrupts, UInt32.toBitVec_and, UInt32.toBitVec_or, UInt32.toBitVec_not,
    BitVec.getElem_and, BitVec.getElem_or, BitVec.getElem_not]
  cases w.toBitVec[i] <;> cases m.toBitVec[i] <;> cases irqMask.toBitVec[i] <;> rfl

/-- Setting or clearing bits within `m` in a word within `m` gives a word within `m`. -/
theorem setBits_and_of_le {w bits m : UInt32} (on : Bool) (hw : w &&& m = w) (hb : bits &&& m = bits) :
    setBits w bits on &&& m = setBits w bits on := by
  apply UInt32.toBitVec_inj.mp
  apply BitVec.eq_of_getElem_eq
  intro i hi
  have hw' := congrArg (fun x : UInt32 => x.toBitVec[i]) hw
  have hb' := congrArg (fun x : UInt32 => x.toBitVec[i]) hb
  simp only [UInt32.toBitVec_and, BitVec.getElem_and] at hw' hb'
  cases on <;> simp only [setBits, if_true, if_false, Bool.false_eq_true, UInt32.toBitVec_and,
    UInt32.toBitVec_or, UInt32.toBitVec_not, BitVec.getElem_and, BitVec.getElem_or,
    BitVec.getElem_not] <;>
    revert hw' hb' <;> cases w.toBitVec[i] <;> cases bits.toBitVec[i] <;> cases m.toBitVec[i] <;> simp

end Control

/-- The control word of a transfer carries the lane's interrupt enables: the fields written
after them lie outside them. -/
theorem Lane.transferWord_and_irqMask (st : LaneState) (config : UInt32) :
    Lane.transferWord st config &&& Control.irqMask = st.irq &&& Control.irqMask := by
  simp only [Lane.transferWord, Control.withEnable_and_irqMask, Control.withMemToMem,
    Control.withMemoryIncrement, Control.withPeripheralIncrement]
  rw [Control.setBits_and_of_disjoint _ (by decide), Control.setBits_and_of_disjoint _ (by decide),
    Control.setBits_and_of_disjoint _ (by decide), Control.withInterrupts_and_irqMask]

namespace Event

/-- The events that have an interrupt. -/
def withInterrupt : List Event := [half, complete, error]

/-- Whether the word enables the interrupt of the event. -/
def enabledIn (e : Event) (w : UInt32) : Bool := w &&& e.enableBit != 0

/-- An event's enable bit is one of the interrupt enables. -/
theorem enableBit_and_irqMask (e : Event) : e.enableBit &&& Control.irqMask = e.enableBit := by
  unfold enableBit
  split_ifs <;> decide

theorem enableBit_ne_zero {e : Event} (he : e ∈ withInterrupt) : e.enableBit ≠ 0 := by
  simp only [withInterrupt, List.mem_cons, List.not_mem_nil, or_false] at he
  rcases he with rfl | rfl | rfl <;> decide

/-- Two events share no enable bit. -/
theorem enableBit_and_of_ne {e e' : Event} (h : e' ≠ e) : e'.enableBit &&& e.enableBit = 0 := by
  unfold enableBit
  split_ifs <;> subst_vars <;> first | decide | exact absurd rfl h

theorem enabledIn_setBits_of_ne {e e' : Event} (h : e' ≠ e) (w : UInt32) (on : Bool) :
    e.enabledIn (Control.setBits w e'.enableBit on) = e.enabledIn w := by
  rw [enabledIn, enabledIn, Control.setBits_and_of_disjoint on (enableBit_and_of_ne h)]

/-- Listening to an event with an interrupt enables it. -/
theorem enabledIn_or_self {e : Event} (he : e ∈ withInterrupt) (w : UInt32) :
    e.enabledIn (w ||| e.enableBit) = true := by
  rw [enabledIn, Control.or_and_self, bne_iff_ne]
  exact enableBit_ne_zero he

/-- Unlistening to an event disables it. -/
theorem enabledIn_and_not_self (e : Event) (w : UInt32) :
    e.enabledIn (w &&& ~~~e.enableBit) = false := by
  rw [enabledIn, Control.and_not_and_self]
  rfl

end Event

namespace Call

/-- The interrupt enables of lane `m` after the call, from `w`: a listen or an unlisten on
`m` sets or clears its event's enable bit, and every other call leaves them. -/
def enablesAfter (m : Lane) (w : UInt32) : Call → UInt32
  | .listen l e on => if l = m then Control.setBits w e.enableBit on else w
  | _ => w

/-- Whether the call is a listen (`some true`) or an unlisten (`some false`) of event `e`
on lane `m`. -/
def listenOf (m : Lane) (e : Event) : Call → Option Bool
  | .listen l e' on => if l = m ∧ e' = e then some on else none
  | _ => none

/-- Whether the latest listen or unlisten of event `e` on lane `m` in the log was a
listen; nothing if the log has neither. -/
def lastListen (m : Lane) (e : Event) (log : List Call) : Option Bool :=
  (log.filterMap (listenOf m e)).getLast?

/-- A call changes whether lane `m` enables the interrupt of `e` only if it is a listen or
an unlisten of `e` on `m`, and then to what it asks. -/
theorem enabledIn_enablesAfter {e : Event} (he : e ∈ Event.withInterrupt) (m : Lane)
    (w : UInt32) (c : Call) :
    e.enabledIn (enablesAfter m w c) = (listenOf m e c).getD (e.enabledIn w) := by
  cases c with
  | listen l e' on =>
    by_cases hl : l = m
    case neg => simp [enablesAfter, listenOf, hl]
    by_cases he' : e' = e
    · subst he'
      cases on
      · simp [enablesAfter, listenOf, hl, Control.setBits, Event.enabledIn_and_not_self]
      · simp [enablesAfter, listenOf, hl, Control.setBits, Event.enabledIn_or_self he]
    · simp [enablesAfter, listenOf, hl, he', Event.enabledIn_setBits_of_ne he']
  | start => rfl
  | wait => rfl
  | read => rfl

/-- Over a whole log, lane `m` enables the interrupt of `e` exactly when the latest listen
or unlisten of `e` on `m` was a listen, and as it did before when the log has neither. -/
theorem enabledIn_foldl_enablesAfter {e : Event} (he : e ∈ Event.withInterrupt) (m : Lane)
    (log : List Call) (w : UInt32) :
    e.enabledIn (log.foldl (enablesAfter m) w) = (lastListen m e log).getD (e.enabledIn w) := by
  -- the induction runs forward over the log, carrying the enables so far
  induction log generalizing w with
  | nil => rfl
  | cons c log ih =>
    rw [List.foldl_cons, ih, enabledIn_enablesAfter he]
    simp only [lastListen, List.filterMap_cons]
    cases listenOf m e c with
    | none => rfl
    | some on =>
      cases hl : (log.filterMap (listenOf m e)).getLast? <;> simp [List.getLast?_cons, hl]

/-- A log of starts leaves every lane's enables. -/
@[simp] theorem foldl_enablesAfter_ofStart {α : Type} (m : Lane) (w : UInt32)
    (r : EStateM.Result Fault Machine (Except Refusal α)) :
    (ofStart r).foldl (enablesAfter m) w = w := by
  unfold ofStart
  split <;> rfl

@[simp] theorem foldl_enablesAfter_ofGiveBack (m : Lane) (w : UInt32)
    (r : EStateM.Result Fault Machine (Option Refusal)) :
    (ofGiveBack r).foldl (enablesAfter m) w = w := by
  unfold ofGiveBack
  split <;> rfl

@[simp] theorem enablesAfter_ofWait (m : Lane) (w : UInt32) (s : Machine)
    (r : EStateM.Result Fault Machine (Handback × Option Refusal)) :
    enablesAfter m w (ofWait s r) = w := by
  unfold ofWait
  split <;> rfl

end Call

namespace Machine

/-- The interrupt enables of every lane `l` are `v l`: kept in its settings, and written in
bits 1–3 of its control word. -/
structure EnablesAre (s : Machine) (v : Lane → UInt32) : Prop where
  /-- The settings keep them. -/
  kept : ∀ l, (s.laneState l).irq = v l
  /-- The control word carries them. -/
  written : ∀ l, s.bank.control l &&& Control.irqMask = v l

/-- Bits 1–3 of every lane's control word are the interrupt enables of its settings. -/
def EnablesMirrored (s : Machine) : Prop :=
  ∀ l, s.bank.control l &&& Control.irqMask = (s.laneState l).irq

variable {s s' : Machine} {v : Lane → UInt32}

theorem EnablesMirrored.enablesAre (h : s.EnablesMirrored) :
    s.EnablesAre fun l => (s.laneState l).irq :=
  ⟨fun _ => rfl, h⟩

namespace EnablesAre

theorem mirrored (h : s.EnablesAre v) : s.EnablesMirrored :=
  fun l => (h.written l).trans (h.kept l).symm

/-- The enables lie within the interrupt bits. -/
theorem and_irqMask (h : s.EnablesAre v) (l : Lane) : v l &&& Control.irqMask = v l := by
  rw [← h.written l, UInt32.and_assoc, UInt32.and_self]

/-- A change that keeps every lane's enables, in its settings and in its control word. -/
theorem frame (h : s.EnablesAre v) (hk : ∀ l, (s'.laneState l).irq = (s.laneState l).irq)
    (hw : ∀ l, s'.bank.control l &&& Control.irqMask = s.bank.control l &&& Control.irqMask) :
    s'.EnablesAre v :=
  ⟨fun l => (hk l).trans (h.kept l), fun l => (hw l).trans (h.written l)⟩

end EnablesAre

end Machine

namespace Bank

/-- Programming a lane and enabling it keeps every lane's interrupt enables, when the word
written carries the lane's own. -/
theorem control_start_and_irqMask (b : Bank) (l : Lane) (p : UInt64) (r : MemRef) (n w : UInt32)
    (hw : w &&& Control.irqMask = b.control l &&& Control.irqMask) (m : Lane) :
    ((b.program l p r n w).setControl l (Control.withEnable w true)).control m &&& Control.irqMask =
      b.control m &&& Control.irqMask := by
  rw [control_setControl_and_irqMask _ (by rw [Control.withEnable_and_irqMask, control_program, hw])]
  by_cases hm : l = m
  · subst hm
    rw [control_program, hw]
  · rw [control_program_of_ne _ _ _ _ _ hm]

end Bank

namespace Machine

variable {v : Lane → UInt32} {s : Machine}

/-- A listen or an unlisten sets or clears its event's bit in both copies of its lane's
enables, and leaves every other lane's. -/
theorem EnablesAre.setIrq (h : s.EnablesAre v) (l : Lane) (e : Event) (on : Bool) :
    ({ s with
      lanes := l.setEntry s.lanes
        { s.laneState l with irq := Control.setBits (s.laneState l).irq e.enableBit on }
      bank := s.bank.setControl l (Control.withInterrupts (s.bank.control l)
        (Control.setBits (s.laneState l).irq e.enableBit on)) } : Machine).EnablesAre
      fun m => Call.enablesAfter m (v m) (.listen l e on) := by
  constructor
  · intro m
    show (m.entry (l.setEntry s.lanes _)).irq = _
    by_cases hm : l = m
    · subst hm
      rw [Lane.entry_setEntry]
      simp [Call.enablesAfter, h.kept]
    · rw [Lane.entry_setEntry_of_ne _ _ _ _ hm]
      simp [Call.enablesAfter, hm, ← h.kept m, laneState]
  · intro m
    by_cases hm : l = m
    · subst hm
      -- both the old enables and the event's bit lie within the interrupt bits
      rw [Bank.control_setControl_self, Control.withInterrupts_and_irqMask, h.kept,
        Control.setBits_and_of_le on (h.and_irqMask l) (Event.enableBit_and_irqMask e)]
      simp [Call.enablesAfter]
    · rw [Bank.control_setControl_of_ne _ _ hm, h.written]
      simp [Call.enablesAfter, hm]

theorem EnablesAre.listen (h : s.EnablesAre v) (l : Lane) (e : Event) :
    (finalState ((l.listen e).run s)).EnablesAre
      fun m => Call.enablesAfter m (v m) (.listen l e true) := by
  rw [Lane.run_listen]
  exact h.setIrq l e true

theorem EnablesAre.unlisten (h : s.EnablesAre v) (l : Lane) (e : Event) :
    (finalState ((l.unlisten e).run s)).EnablesAre
      fun m => Call.enablesAfter m (v m) (.listen l e false) := by
  rw [Lane.run_unlisten]
  exact h.setIrq l e false

end Machine

open Machine

section Keeps

variable {v : Lane → UInt32}

/-- The operations that neither count nor listen keep every lane's enables. -/
theorem Silent.keeps_enables {α : Type} {x : Act α} (hx : Silent x) :
    Keeps (EnablesAre · v) x :=
  fun s hs => hs.frame (hx.quiet s).irq (hx.quiet s).enables

/-- A start rebuilds the lane's control word from its settings, which carry its enables. -/
theorem Transfer.keeps_enables_start (dir : Direction) (l : Lane) (buf periph : Nat) :
    Keeps (EnablesAre · v) (Machine.peripheral periph >>= fun _ => Transfer.start dir l buf periph) := by
  intro s hs
  cases hp : s.peripherals[periph]? with
  | none =>
    rw [EStateM.run_bind, run_peripheral, hp]
    exact hs
  | some p =>
    rw [run_peripheral_bind hp, Transfer.run_start]
    split
    · exact hs
    split
    · exact hs
    split
    · exact hs
    split
    · exact hs
    split
    · exact hs.frame (fun _ => rfl) fun _ => rfl
    · exact hs.frame (irq_setEntry s rfl) (Bank.control_start_and_irqMask _ _ _ _ _ _
        (by rw [Lane.transferWord_and_irqMask, hs.kept, hs.and_irqMask, hs.written]))

theorem Stream.keeps_enables_start (l : Lane) (ring periph : Nat) :
    Keeps (EnablesAre · v) (Machine.peripheral periph >>= fun _ => Stream.start l ring periph) := by
  intro s hs
  cases hp : s.peripherals[periph]? with
  | none =>
    rw [EStateM.run_bind, run_peripheral, hp]
    exact hs
  | some p =>
    rw [run_peripheral_bind hp, Stream.run_start]
    split
    · exact hs
    split
    · exact hs
    split
    · exact hs
    split
    · exact hs
    split
    · exact hs.frame (fun _ => rfl) fun _ => rfl
    · exact hs.frame (irq_setEntry s rfl) (Bank.control_start_and_irqMask _ _ _ _ _ _
        (by rw [Lane.transferWord_and_irqMask, hs.kept, hs.and_irqMask, hs.written]))

/-- A wait reads the status word and, when it returns, disables the lane: its enables stay,
after a completion and after an error. -/
theorem Transfer.keeps_enables_wait (id : Nat) : Keeps (EnablesAre · v) (Transfer.wait id) := by
  intro s hs
  have hreads : ∀ k c, ({ s with bank := s.bank.readN k, counters := c } : Machine).EnablesAre v :=
    fun k c => hs.frame (fun _ => rfl) fun m => by rw [Bank.control_readN]
  rcases Transfer.wait_final id s with h | ⟨t, k, p, -, -, h | ⟨mask, c, -, h⟩⟩
  · rw [h]
    exact hs
  · rw [h]
    exact hreads k _
  · rw [h]
    exact (hreads k _).frame (irq_setEntry _ rfl) (Bank.control_setControl_and_irqMask _
      (by rw [Control.withEnable_and_irqMask, Bank.control_clear]))

/-- The checks before a read's callback read the status word and clear a flag. -/
theorem Stream.enables_takeHalf {id : Nat} {s : Machine}
    {r : EStateM.Result Fault Machine (Except Refusal (Half × Array UInt32 × Option Nat))}
    (hr : (Stream.takeHalf id).run s = r) (hs : s.EnablesAre v) : (finalState r).EnablesAre v := by
  rw [Stream.run_takeHalf] at hr
  dsimp only at hr
  repeat' split at hr
  all_goals subst hr; exact hs.frame (fun _ => rfl) fun m => by simp [Machine.recorded]

/-- The checks after a read's callback read the status word and count. -/
theorem Stream.keeps_enables_giveBack (id : Nat) (h : Half) (start : Option Nat) :
    Keeps (EnablesAre · v) (Stream.giveBack id h start) := by
  intro s hs
  generalize hr : (Stream.giveBack id h start).run s = r
  rw [Stream.run_giveBack] at hr
  dsimp only at hr
  repeat' split at hr
  all_goals subst hr; exact hs.frame (fun _ => rfl) fun m => by simp [Machine.recorded]

end Keeps

namespace Logged

/-- Over a run, every lane's enables, in its settings and in its control word, go from `v`
to what the listens and unlistens of the run's log make of them. -/
theorem enables {α : Type} {x : Act α} {s : Machine} {log : List Call}
    {r : EStateM.Result Fault Machine α} (h : Logged x s log r) :
    ∀ v, s.EnablesAre v → (finalState r).EnablesAre fun m => log.foldl (Call.enablesAfter m) (v m) := by
  induction h with
  | pure a s => exact fun v hv => hv
  | get s => exact fun v hv => hv
  | throw e s => exact fun v hv => hv
  | bind _ _ ihx ihk =>
    intro v hv
    simpa only [List.foldl_append] using ihk _ (ihx v hv)
  | bind_error _ ihx => exact ihx
  | tryCatch_ok _ ihx => exact ihx
  | tryCatch_error _ _ ihx ihh =>
    intro v hv
    simpa only [List.foldl_append] using ihh _ (ihx v hv)
  | silent hx s => exact fun v hv => hx.keeps_enables s hv
  | listen l e s => exact fun v hv => hv.listen l e
  | unlisten l e s => exact fun v hv => hv.unlisten l e
  | startTransfer dir l buf periph s =>
    intro v hv
    simpa only [Call.foldl_enablesAfter_ofStart] using
      Transfer.keeps_enables_start dir l buf periph s hv
  | startStream l ring periph s =>
    intro v hv
    simpa only [Call.foldl_enablesAfter_ofStart] using Stream.keeps_enables_start l ring periph s hv
  | wait id s =>
    intro v hv
    simpa only [List.foldl_cons, List.foldl_nil, Call.enablesAfter_ofWait] using
      Transfer.keeps_enables_wait id s hv
  | borrow_refused id f h =>
    intro v hv
    rw [Buffer.run_borrow]
    split
    · exact hv
    · rename_i b hb
      simp only [h b hb, if_true]
      exact hv
  | borrow hb hw _ ih =>
    intro v hv
    rw [finalState_mapMachine]
    exact (ih v (hv.frame (fun _ => rfl) fun _ => rfl)).frame (fun _ => rfl) fun _ => rfl
  | borrowMut_refused id f h =>
    intro v hv
    rw [Buffer.run_borrowMut]
    split
    · exact hv
    · rename_i b hb
      simp only [h b hb, Bool.not_false, if_true]
      exact hv
  | borrowMut hb hw _ ih =>
    intro v hv
    rw [finalState_mapMachine]
    exact (ih v (hv.frame (fun _ => rfl) fun _ => rfl)).frame (fun _ => rfl) fun _ => rfl
  | peek_fault f ht => exact fun v hv => Stream.enables_takeHalf ht hv
  | peek_refused f ht => exact fun v hv => Stream.enables_takeHalf ht hv
  | peek_broke ht _ ih => exact fun v hv => ih v (Stream.enables_takeHalf ht hv)
  | @peek _ id _ _ _ s₂ h _ start _ _ ht _ ih =>
    -- the checks before the callback, the callback, and the checks after it
    intro v hv
    have h₃ := Stream.keeps_enables_giveBack id h start s₂ (ih v (Stream.enables_takeHalf ht hv))
    rw [finalState_answer]
    simpa only [List.foldl_append, Call.foldl_enablesAfter_ofGiveBack] using h₃

end Logged

/-- The new controller's lanes enable no interrupt, in their settings or their control words. -/
theorem enablesMirrored_takeLanes : (finalState (takeLanes.run ({} : Machine))).EnablesMirrored := by
  intro m
  show (m.entry (Vector.replicate 7 ({} : LaneRegs))).control &&& Control.irqMask =
    (m.entry (Vector.replicate 7 ({} : LaneState))).irq
  rw [Lane.entry, Lane.entry, Fin.getElem_fin, Fin.getElem_fin, Vector.getElem_replicate,
    Vector.getElem_replicate]
  rfl

/-- Every run of a client program keeps the control words mirroring the settings. -/
theorem Client.keeps_enablesMirrored {α : Type} {x : Act α} (hx : Client x) :
    Keeps EnablesMirrored x := by
  intro s hs
  obtain ⟨log, hlog⟩ := hx.logged s
  exact (hlog.enables _ hs.enablesAre).mirrored

/-- Over a run from a state whose control words mirror its settings, a lane enables the
interrupt of an event exactly when the latest listen or unlisten of that event on the lane
was a listen, and as it did at the start when the run made neither. -/
theorem Logged.enabledIn {α : Type} {x : Act α} {s : Machine} {log : List Call}
    {r : EStateM.Result Fault Machine α} (h : Logged x s log r) (hs : s.EnablesMirrored)
    (l : Lane) {e : Event} (he : e ∈ Event.withInterrupt) :
    e.enabledIn ((finalState r).laneState l).irq =
      (Call.lastListen l e log).getD (e.enabledIn (s.laneState l).irq) := by
  rw [(h.enables _ hs.enablesAre).kept l]
  exact Call.enabledIn_foldl_enablesAfter he l log _

namespace Bank

/-- The control words of `b'` are those of `b`, but for the interrupt enables of lane `l`. -/
def WritesOnlyEnables (l : Lane) (b b' : Bank) : Prop :=
  ∀ m, b'.control m &&& ~~~Control.irqMask = b.control m &&& ~~~Control.irqMask ∧
    (m ≠ l → b'.control m = b.control m)

/-- Writing a lane's interrupt enables changes no other bit of any control word. -/
theorem writesOnlyEnables_setControl (b : Bank) (l : Lane) (w : UInt32) :
    WritesOnlyEnables l b (b.setControl l (Control.withInterrupts (b.control l) w)) := by
  intro m
  by_cases hm : l = m
  · subst hm
    rw [control_setControl_self, Control.withInterrupts_and_not_irqMask]
    exact ⟨rfl, fun h => absurd rfl h⟩
  · rw [control_setControl_of_ne b _ hm]
    exact ⟨rfl, fun _ => rfl⟩

end Bank

namespace Lane

theorem listen_writesOnlyEnables (l : Lane) (e : Event) (s : Machine) :
    Bank.WritesOnlyEnables l s.bank (finalState ((l.listen e).run s)).bank := by
  rw [run_listen]
  exact Bank.writesOnlyEnables_setControl _ _ _

theorem unlisten_writesOnlyEnables (l : Lane) (e : Event) (s : Machine) :
    Bank.WritesOnlyEnables l s.bank (finalState ((l.unlisten e).run s)).bank := by
  rw [run_unlisten]
  exact Bank.writesOnlyEnables_setControl _ _ _

/-- A table with a lane's entry written back is the table. -/
theorem setEntry_entry {α : Type _} (l : Lane) (t : Vector α 7) : l.setEntry t (l.entry t) = t := by
  simp [setEntry, entry]

end Lane

theorem Event.enableBit_eq_zero {e : Event} (he : e ∉ Event.withInterrupt) : e.enableBit = 0 := by
  simp only [Event.withInterrupt, List.mem_cons, List.not_mem_nil, or_false, not_or] at he
  simp [Event.enableBit, he.1, he.2.1, he.2.2]

/-- Writing back the enables a control word mirrors leaves the machine as it was. -/
theorem Machine.rewrite_enables (s : Machine) (l : Lane) (hs : s.EnablesMirrored) :
    ({ s with
      lanes := l.setEntry s.lanes { s.laneState l with irq := (s.laneState l).irq }
      bank := s.bank.setControl l (Control.withInterrupts (s.bank.control l) (s.laneState l).irq) } :
      Machine) = s := by
  have hw : Control.withInterrupts (s.bank.control l) (s.laneState l).irq = s.bank.control l := by
    rw [← hs l]
    apply UInt32.toBitVec_inj.mp
    apply BitVec.eq_of_getElem_eq
    intro i hi
    simp only [Control.withInterrupts, UInt32.toBitVec_and, UInt32.toBitVec_or, UInt32.toBitVec_not,
      BitVec.getElem_and, BitVec.getElem_or, BitVec.getElem_not]
    cases (s.bank.control l).toBitVec[i] <;> cases Control.irqMask.toBitVec[i] <;> rfl
  have hb : s.bank.setControl l (s.bank.control l) = s.bank := by
    show { s.bank with regs := l.setEntry s.bank.regs (l.entry s.bank.regs) } = s.bank
    rw [Lane.setEntry_entry]
  have hl : l.setEntry s.lanes { s.laneState l with irq := (s.laneState l).irq } = s.lanes :=
    Lane.setEntry_entry l s.lanes
  rw [hw, hb, hl]

/-- Listening to or unlistening an event without an interrupt changes nothing. -/
theorem Lane.listen_of_not_withInterrupt (l : Lane) {e : Event} (he : e ∉ Event.withInterrupt)
    {s : Machine} (hs : s.EnablesMirrored) :
    (l.listen e).run s = .ok () s ∧ (l.unlisten e).run s = .ok () s := by
  rw [run_listen, run_unlisten, Event.enableBit_eq_zero he, UInt32.or_zero, UInt32.not_zero,
    UInt32.and_neg_one]
  exact ⟨congrArg _ (s.rewrite_enables l hs), congrArg _ (s.rewrite_enables l hs)⟩

/-- A lane's interrupt enables, kept both in its settings and in bits 1–3 of its control
word, agree after every run of a client program, and each is on exactly when the latest
listen or unlisten of its event on the lane was a listen. A listen or an unlisten writes no
other bit, and one of an event without an interrupt changes nothing. -/
theorem interrupt_enables_follow_listens :
    (finalState (takeLanes.run ({} : Machine))).EnablesMirrored ∧
    (∀ {α : Type} (x : Act α), Client x → Keeps EnablesMirrored x) ∧
    (∀ {α : Type} (x : Act α) (s : Machine) (log : List Call)
      (r : EStateM.Result Fault Machine α), Logged x s log r → s.EnablesMirrored →
        ∀ l, ∀ e ∈ Event.withInterrupt, e.enabledIn ((finalState r).laneState l).irq =
          (Call.lastListen l e log).getD (e.enabledIn (s.laneState l).irq)) ∧
    (∀ (s : Machine) (l : Lane) (e : Event),
      Bank.WritesOnlyEnables l s.bank (finalState ((l.listen e).run s)).bank ∧
      Bank.WritesOnlyEnables l s.bank (finalState ((l.unlisten e).run s)).bank) ∧
    (∀ (s : Machine) (l : Lane) (e : Event), s.EnablesMirrored → e ∉ Event.withInterrupt →
      (l.listen e).run s = .ok () s ∧ (l.unlisten e).run s = .ok () s) :=
  ⟨enablesMirrored_takeLanes, fun _ hx => hx.keeps_enablesMirrored,
    fun _ _ _ _ h hs l _ he => h.enabledIn hs l he,
    fun s l e => ⟨l.listen_writesOnlyEnables e s, l.unlisten_writesOnlyEnables e s⟩,
    fun _ l _ hs he => l.listen_of_not_withInterrupt he hs⟩

/-- From the split, listening for transfer-complete on lane 1 and then unlistening leaves
that interrupt off, the two copies of the enables agreeing; a listen for an event with no
interrupt changes nothing. -/
theorem listen_then_unlisten_disables :
    let s := finalState (takeLanes.run ({} : Machine))
    let x : Act Unit := (⟨0⟩ : Lane).listen .complete >>= fun _ => (⟨0⟩ : Lane).unlisten .complete
    (finalState (x.run s)).EnablesMirrored ∧
    Event.complete.enabledIn ((finalState (x.run s)).laneState ⟨0⟩).irq = false ∧
    ((⟨0⟩ : Lane).listen ⟨3⟩).run s = .ok () s := by
  dsimp only
  obtain ⟨h0, hkeep, hlog, -, hnone⟩ := interrupt_enables_follow_listens
  refine ⟨hkeep _ (.bind (.listen _ _) fun _ => .unlisten _ _) _ h0, ?_,
    (hnone _ _ _ h0 (by decide)).1⟩
  exact hlog ((⟨0⟩ : Lane).listen .complete >>= fun _ => (⟨0⟩ : Lane).unlisten .complete) _ _ _
    (.bind (.listen _ _ _) (.unlisten _ _ _)) h0 ⟨0⟩ _ (by decide)


end DmaOwnership
