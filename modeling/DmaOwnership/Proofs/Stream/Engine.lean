import DmaOwnership.Proofs.Stream.Reader
import DmaOwnership.Proofs.Stream.Halves
import DmaOwnership.Proofs.Stream.Held
/-!
# The engine's events on a reader's lane

A circular transfer's reader sees its lane's flags change in two ways only: the engine raises
an event, directly or at a status read where a scheduled one falls due, and the reader clears
the flag of a half it hands out. `Bank.dueOn l b k` lists the events the next `k` status reads
of `b` raise on lane `l`. `Bank.ReadsOn l b b'` says that `b'` shows on lane `l` exactly the
flags the status reads made since `b` leave. Every operation of a client keeps it for the
lane of a running circular transfer, but a stop of that transfer and a direct raise on its
lane (`Leaf.readsOn`); each operation is checked once, as `Stream.Follows` is, with the
ownership rules keeping other transfers off the lane.

Along such a step the reader moves on by the events falling due, when they are the engine's
next ones (`FlagsAt.readsOn`).
-/

namespace DmaOwnership

open Machine

/-! ## Runs of the engine's events -/

namespace Reader

@[simp] theorem length_nextEvents (c j : Nat) : (nextEvents c j).length = j := by
  induction j generalizing c with
  | zero => rfl
  | succ j ih => rw [nextEvents, List.length_cons, ih]

theorem nextEvents_add (c i j : Nat) :
    nextEvents c (i + j) = nextEvents c i ++ nextEvents (c + i) j := by
  induction i generalizing c with
  | zero => rw [Nat.zero_add, Nat.add_zero]; rfl
  | succ i ih =>
    rw [Nat.succ_add, nextEvents, nextEvents, ih, List.cons_append, Nat.add_right_comm,
      Nat.add_assoc]

/-- A run of the engine's events cut in two is two runs, the second going on where the first
stops. -/
theorem eq_nextEvents_of_append {xs ys : List Event} {c j : Nat}
    (h : xs ++ ys = nextEvents c j) :
    xs = nextEvents c xs.length ∧ ys = nextEvents (c + xs.length) ys.length := by
  have hj : j = xs.length + ys.length := by
    rw [← length_nextEvents c j, ← h, List.length_append]
  rw [hj, nextEvents_add] at h
  exact List.append_inj h (length_nextEvents _ _).symm

end Reader

/-! ## The events of status reads, and the flags they leave -/

namespace Bank

/-- The events the next `k` status reads of `b` raise on lane `l`, in the order they raise
them; events without a name raise nothing and are left out. -/
def dueOn (l : Lane) (b : Bank) : Nat → List Event
  | 0 => []
  | k + 1 => b.dueOn l k ++ Reader.eventsOn l (b.readN k).fallingDue

/-- `b'` has made `k` status reads more than `b`, and shows on lane `l` the flags `b` shows
after `k` reads. -/
def ReadsOn (l : Lane) (b b' : Bank) : Prop :=
  ∃ k, b'.reads = b.reads + k ∧ LaneStatus.ofWord l b'.flags = LaneStatus.ofWord l (b.readN k).flags

namespace ReadsOn

variable {l : Lane} {b b' : Bank}

/-- A step that leaves the status word and the count of reads. -/
theorem of_flags (hf : b'.flags = b.flags) (hr : b'.reads = b.reads) : ReadsOn l b b' :=
  ⟨0, hr, by rw [hf]; rfl⟩

theorem readN (l : Lane) (b : Bank) (k : Nat) : ReadsOn l b (b.readN k) :=
  ⟨k, reads_readN b k, rfl⟩

theorem status (l : Lane) (b : Bank) : ReadsOn l b b.status.2 := readN l b 1

/-- After some reads, a change that agrees outside another lane leaves lane `l`'s flags. -/
theorem of_agreeOff {m : Lane} {k : Nat} (h : AgreeOff m (b.readN k) b') (hml : m ≠ l) :
    ReadsOn l b b' := by
  have hne : ∀ i, i / 4 = l.index.val → i / 4 ≠ m.index.val := fun i hi => by
    rw [hi]
    exact Lane.index_val_ne (Ne.symm hml)
  refine ⟨k, by rw [← h.reads_eq, reads_readN], ?_⟩
  rw [LaneStatus.ofWord_eq, LaneStatus.ofWord_eq, h.flag_eq _ (hne _ (by omega)),
    h.flag_eq _ (hne _ (by omega)), h.flag_eq _ (hne _ (by omega))]

end ReadsOn

end Bank

namespace Reader.FlagsAt

variable {l : Lane} {c r : Nat} {b b' : Bank}

/-- The flags the counts call for are read off the lane's three flags. -/
theorem of_ofWord (h : FlagsAt l c r b) (hw : LaneStatus.ofWord l b'.flags = LaneStatus.ofWord l b.flags) :
    FlagsAt l c r b' :=
  ⟨h.taken_le, hw ▸ h.error, hw ▸ h.ready, hw ▸ h.lapped⟩

/-- Status reads whose events on the lane are the engine's next `j` move the reader on by `j`
halves. -/
theorem readN (h : FlagsAt l c r b) {k j : Nat} (hdue : b.dueOn l k = nextEvents c j) :
    FlagsAt l (c + j) r (b.readN k) := by
  induction k generalizing j with
  | zero =>
    have hj : j = 0 := by rw [← length_nextEvents c j, ← hdue]; rfl
    subst hj
    exact h
  | succ k ih =>
    obtain ⟨h₁, h₂⟩ := eq_nextEvents_of_append hdue
    have hj : j = (b.dueOn l k).length + (eventsOn l (b.readN k).fallingDue).length := by
      rw [← length_nextEvents c j, ← hdue, Bank.dueOn, List.length_append]
    rw [hj, ← Nat.add_assoc]
    exact (ih h₁).status h₂

/-- A step that shows on the lane the flags of the reads it made moves the reader on by the
events of those reads, when they are the engine's next ones. -/
theorem readsOn (h : FlagsAt l c r b) (hr : Bank.ReadsOn l b b') {j : Nat}
    (hdue : b.dueOn l (b'.reads - b.reads) = nextEvents c j) : FlagsAt l (c + j) r b' := by
  obtain ⟨k, hk, hw⟩ := hr
  rw [hk, Nat.add_sub_cancel_left] at hdue
  exact (h.readN hdue).of_ofWord hw

end Reader.FlagsAt

/-! ## Each operation shows the flags of its reads -/

namespace Stream

variable {s : Machine} {id : Nat} {t : Stream}

/-- `x` raises an event with a name directly on lane `l`. -/
inductive RaisesOn (l : Lane) : {α : Type} → Act α → Prop
  | raise (e : Event) (he : e.name?.isSome = true) : RaisesOn l (modifyBank (·.raise l e))

theorem readsOn_afterRead (l : Lane) (s : Machine) : Bank.ReadsOn l s.bank s.afterRead.bank :=
  Bank.ReadsOn.status l s.bank

theorem readsOn_recorded (l : Lane) (s : Machine) (r : Refusal) :
    Bank.ReadsOn l s.bank (s.afterRead.recorded r).bank :=
  Bank.ReadsOn.status l s.bank

theorem readsOn_configure (l m : Lane) (p : Priority) :
    Bank.ReadsOn l s.bank (finalState ((m.configure p).run s)).bank := by
  rw [Lane.run_configure]
  exact Bank.ReadsOn.of_flags rfl rfl

theorem readsOn_listen (l m : Lane) (e : Event) :
    Bank.ReadsOn l s.bank (finalState ((m.listen e).run s)).bank := by
  rw [Lane.run_listen]
  exact Bank.ReadsOn.of_flags rfl rfl

theorem readsOn_unlisten (l m : Lane) (e : Event) :
    Bank.ReadsOn l s.bank (finalState ((m.unlisten e).run s)).bank := by
  rw [Lane.run_unlisten]
  exact Bank.ReadsOn.of_flags rfl rfl

/-- A raise on another lane, or of an event without a name, leaves the lane's flags. -/
theorem readsOn_raise {l m : Lane} {e : Event} (h : m ≠ l ∨ e.name? = none) :
    Bank.ReadsOn l s.bank (finalState ((modifyBank (·.raise m e)).run s)).bank := by
  rcases h with hm | he
  · exact Bank.ReadsOn.of_agreeOff (k := 0) (Bank.agreeOff_raise s.bank m e).symm hm
  · have hb : (finalState ((modifyBank (·.raise m e)).run s)).bank = s.bank :=
      Bank.raise_of_name?_eq_none _ _ he
    exact Bank.ReadsOn.of_flags (by rw [hb]) (by rw [hb])

theorem readsOn_isDone (l : Lane) (id' : Nat) :
    Bank.ReadsOn l s.bank (finalState ((Transfer.isDone id').run s)).bank := by
  rw [Transfer.run_isDone]
  cases s.transfers[id']? with
  | none => exact Bank.ReadsOn.of_flags rfl rfl
  | some t =>
    dsimp only
    split
    · exact Bank.ReadsOn.of_flags rfl rfl
    · rw [Transfer.run_check]
      exact readsOn_afterRead l s

theorem readsOn_poll (l : Lane) (id' : Nat) :
    Bank.ReadsOn l s.bank (finalState ((Transfer.poll id').run s)).bank := by
  rw [Transfer.run_poll]
  cases s.transfers[id']? with
  | none => exact Bank.ReadsOn.of_flags rfl rfl
  | some t =>
    dsimp only
    split
    · exact Bank.ReadsOn.of_flags rfl rfl
    · exact readsOn_afterRead l s

theorem readsOn_transferRemaining (l : Lane) (id' : Nat) :
    Bank.ReadsOn l s.bank (finalState ((Transfer.remaining id').run s)).bank := by
  rw [Transfer.run_remaining]
  cases s.transfers[id']? with
  | none => exact Bank.ReadsOn.of_flags rfl rfl
  | some t =>
    dsimp only
    split <;> exact Bank.ReadsOn.of_flags rfl rfl

theorem readsOn_configureStream (l : Lane) (id' : Nat) (maxRead : Int) :
    Bank.ReadsOn l s.bank (finalState ((Stream.configure id' maxRead).run s)).bank := by
  rw [Stream.run_configure]
  exact Bank.ReadsOn.of_flags rfl rfl

theorem readsOn_pause (l : Lane) (id' : Nat) :
    Bank.ReadsOn l s.bank (finalState ((Stream.pause id').run s)).bank := by
  rw [Stream.run_pause]
  cases s.streams[id']? with
  | none => exact Bank.ReadsOn.of_flags rfl rfl
  | some t' =>
    dsimp only
    split <;> exact Bank.ReadsOn.of_flags rfl rfl

theorem readsOn_resume (l : Lane) (id' : Nat) :
    Bank.ReadsOn l s.bank (finalState ((Stream.resume id').run s)).bank := by
  rw [Stream.run_resume]
  cases s.streams[id']? with
  | none => exact Bank.ReadsOn.of_flags rfl rfl
  | some t' =>
    dsimp only
    split <;> exact Bank.ReadsOn.of_flags rfl rfl

theorem readsOn_streamRemaining (l : Lane) (id' : Nat) :
    Bank.ReadsOn l s.bank (finalState ((Stream.remaining id').run s)).bank := by
  rw [Stream.run_remaining]
  cases s.streams[id']? with
  | none => exact Bank.ReadsOn.of_flags rfl rfl
  | some t' =>
    dsimp only
    split <;> exact Bank.ReadsOn.of_flags rfl rfl

/-- Circular transfer `id` runs, with no limit on how long a reader holds a half. -/
def Runs (id : Nat) (s : Machine) : Prop :=
  ∃ t, s.streams[id]? = some t ∧ t.stopped = false ∧ t.maxRead ≤ 0

theorem Runs.of_streams {s' : Machine} (h : Runs id s) (hs : s'.streams = s.streams) :
    Runs id s' := by
  obtain ⟨t, ht, hst, hmax⟩ := h
  exact ⟨t, hs ▸ ht, hst, hmax⟩

/-- The checks after a read's callback leave the circular transfers. -/
theorem streams_giveBack (id : Nat) (h : Half) (start : Option Nat) (s : Machine) :
    (finalState ((giveBack id h start).run s)).streams = s.streams := by
  rw [Stream.run_giveBack]
  split
  · rfl
  · dsimp only
    split_ifs <;> rfl

/-- A stop of a running transfer ends it. -/
theorem not_runs_stop (ht : s.streams[id]? = some t) (hst : t.stopped = false) :
    ¬ Runs id (finalState ((Stream.stop id).run s)) := by
  rintro ⟨t', ht', hst', -⟩
  rw [Stream.run_stop, ht] at ht'
  simp only [hst, Bool.false_eq_true, if_false, finalState_ok, Array.getElem?_modify, ht,
    if_true, Option.map_some, Option.some.injEq] at ht'
  rw [← ht'] at hst'
  cases hst'

/-- An operation that calls nothing back keeps the ownership rules. -/
theorem Leaf.keeps_ownership {α : Type} {x : Act α} (hx : Leaf x) : Keeps Ownership x :=
  fun s h => (Leaf.keeps_of_follows 0 (P := fun _ => True) (fun _ _ => trivial)
    (fun _ _ _ _ => trivial) hx s ⟨h, trivial⟩).1

variable (ho : Ownership s) (ht : s.streams[id]? = some t) (hst : t.stopped = false)
include ho ht hst

/-- A one-shot transfer starts only on a lane no running transfer holds. -/
theorem readsOn_startTransfer (dir : Direction) (l : Lane) (buf periph : Nat) :
    Bank.ReadsOn t.lane s.bank (finalState ((Machine.peripheral periph >>= fun _ =>
      Transfer.start dir l buf periph).run s)).bank := by
  rw [EStateM.run_bind, run_peripheral]
  cases hp : s.peripherals[periph]? with
  | none => exact Bank.ReadsOn.of_flags rfl rfl
  | some p =>
    dsimp only
    rw [Transfer.run_start]
    cases hu : s.inUse l
    case true => exact Bank.ReadsOn.of_flags rfl rfl
    simp only [Bool.false_eq_true, if_false]
    cases hb : s.buffers[buf]? with
    | none => exact Bank.ReadsOn.of_flags rfl rfl
    | some b =>
      dsimp only
      split
      · exact Bank.ReadsOn.of_flags rfl rfl
      cases hl : dir.lock b with
      | none => exact Bank.ReadsOn.of_flags rfl rfl
      | some b' =>
        simp only [hp]
        exact Bank.ReadsOn.of_agreeOff (agreeOff_start s.bank _ _ _ _ _)
          (ho.lane_ne_of_free ht hst hu)

/-- A wait reads the status word and clears flags of its own transfer's lane only. -/
theorem readsOn_wait (id' : Nat) :
    Bank.ReadsOn t.lane s.bank (finalState ((Transfer.wait id').run s)).bank := by
  rcases Transfer.wait_final id' s with heq | ⟨t', k, c, ht', hr, hend⟩
  · rw [heq]
    exact Bank.ReadsOn.of_flags rfl rfl
  rcases hend with heq | ⟨mask, c', hmask, heq⟩ <;> rw [heq]
  · exact Bank.ReadsOn.readN t.lane s.bank k
  · exact Bank.ReadsOn.of_agreeOff ((Bank.agreeOff_setControl _ t'.lane _).trans
      (Transfer.agreeOff_clear_handBack hmask _)).symm (ho.transfer_lane_ne ht hst ht' hr)

/-- A circular transfer starts only on a lane no running transfer holds. -/
theorem readsOn_startStream (l : Lane) (ring periph : Nat) :
    Bank.ReadsOn t.lane s.bank (finalState ((Machine.peripheral periph >>= fun _ =>
      Stream.start l ring periph).run s)).bank := by
  rw [EStateM.run_bind, run_peripheral]
  cases hp : s.peripherals[periph]? with
  | none => exact Bank.ReadsOn.of_flags rfl rfl
  | some p =>
    dsimp only
    rw [Stream.run_start]
    cases hu : s.inUse l
    case true => exact Bank.ReadsOn.of_flags rfl rfl
    simp only [Bool.false_eq_true, if_false]
    cases hg : s.rings[ring]? with
    | none => exact Bank.ReadsOn.of_flags rfl rfl
    | some g =>
      dsimp only
      split
      · exact Bank.ReadsOn.of_flags rfl rfl
      by_cases hph : g.phase = .free
      case neg =>
        simp only [ne_eq, hph, not_false_eq_true, if_true]
        exact Bank.ReadsOn.of_flags rfl rfl
      simp only [ne_eq, hph, not_true_eq_false, if_false, hp]
      exact Bank.ReadsOn.of_agreeOff (agreeOff_start s.bank _ _ _ _ _)
        (ho.lane_ne_of_free ht hst hu)

/-- Stopping another running circular transfer clears its own lane. -/
theorem readsOn_stop_of_ne {id' : Nat} (hne : id' ≠ id) :
    Bank.ReadsOn t.lane s.bank (finalState ((Stream.stop id').run s)).bank := by
  rw [Stream.run_stop]
  cases ht' : s.streams[id']? with
  | none => exact Bank.ReadsOn.of_flags rfl rfl
  | some t' =>
    dsimp only
    cases hst' : t'.stopped
    case true => exact Bank.ReadsOn.of_flags rfl rfl
    simp only [Bool.false_eq_true, if_false]
    exact Bank.ReadsOn.of_agreeOff (k := 0) ((Bank.agreeOff_clear_flags _ t'.lane).trans
      (Bank.agreeOff_setControl _ t'.lane _)).symm (ho.stream_ne ht hst ht' hst' hne).1

/-- A read of another running circular transfer clears a flag of its own lane after its
status read. -/
theorem readsOn_takeHalf_of_ne {id' : Nat} (hne : id' ≠ id) :
    Bank.ReadsOn t.lane s.bank (finalState ((Stream.takeHalf id').run s)).bank := by
  rcases takeHalf_cases id' s with ⟨e, he⟩ | ⟨r, he⟩ | ⟨t', r, h', st, ht', hst', -, -, he⟩ <;>
    rw [he]
  · exact Bank.ReadsOn.of_flags rfl rfl
  · exact readsOn_recorded t.lane s r
  · exact Bank.ReadsOn.of_agreeOff (k := 1) (agreeOff_clear_filledFlag _ t'.lane h').symm
      (ho.stream_ne ht hst ht' hst' hne).1

/-- Every operation that calls nothing back follows a running circular transfer and shows on
its lane the flags of the status reads it made, but a raise on that lane and a stop of the
transfer: the first is the engine's, the second ends the transfer. -/
theorem Leaf.follows_readsOn {α : Type} {x : Act α} (hx : Leaf x) (hq : ¬ RaisesOn t.lane x)
    (hrun : Runs id (finalState (x.run s))) :
    Follows id s (finalState (x.run s)) ∧
      Bank.ReadsOn t.lane s.bank (finalState (x.run s)).bank := by
  cases hx with
  | silent hs =>
    cases hs with
    | configure m p => exact ⟨follows_configure id m p, readsOn_configure t.lane m p⟩
    | inUse m => exact ⟨Follows.refl s, Bank.ReadsOn.of_flags rfl rfl⟩
    | laneRemaining m => exact ⟨Follows.refl s, Bank.ReadsOn.of_flags rfl rfl⟩
    | newBuffer w items => exact ⟨Follows.of_flags rfl rfl rfl, Bank.ReadsOn.of_flags rfl rfl⟩
    | newRing w items => exact ⟨follows_addRing id _, Bank.ReadsOn.of_flags rfl rfl⟩
    | newPeripheral p => exact ⟨Follows.of_flags rfl rfl rfl, Bank.ReadsOn.of_flags rfl rfl⟩
    | isDone id' => exact ⟨follows_isDone id id', readsOn_isDone t.lane id'⟩
    | poll id' => exact ⟨follows_poll id id', readsOn_poll t.lane id'⟩
    | transferRemaining id' =>
      exact ⟨follows_transferRemaining id id', readsOn_transferRemaining t.lane id'⟩
    | configureStream id' maxRead =>
      exact ⟨follows_configureStream id id' maxRead, readsOn_configureStream t.lane id' maxRead⟩
    | pause id' => exact ⟨follows_pause id id', readsOn_pause t.lane id'⟩
    | resume id' => exact ⟨follows_resume id id', readsOn_resume t.lane id'⟩
    | streamRemaining id' => exact ⟨follows_streamRemaining id id', readsOn_streamRemaining t.lane id'⟩
    | stop id' =>
      by_cases hne : id' = id
      · subst hne
        exact absurd hrun (not_runs_stop ht hst)
      · exact ⟨follows_stop_of_ne id ho hne, readsOn_stop_of_ne ho ht hst hne⟩
    | raise m e =>
      refine ⟨Follows.of_rises rfl rfl fun t' _ _ => Bank.rises_raise t'.lane m e s.bank,
        readsOn_raise ?_⟩
      -- a raise of an event with a name on the transfer's lane is the engine's
      by_cases hm : m = t.lane
      · subst hm
        refine Or.inr (Option.not_isSome_iff_eq_none.mp fun hn => hq ?_)
        exact RaisesOn.raise e hn
      · exact Or.inl hm
    | after polls m e => exact ⟨Follows.of_flags rfl rfl rfl, Bank.ReadsOn.of_flags rfl rfl⟩
    | status m => exact ⟨Follows.afterRead s, readsOn_afterRead t.lane s⟩
    | fillBuffer id' offset data =>
      exact ⟨Follows.of_flags rfl rfl rfl, Bank.ReadsOn.of_flags rfl rfl⟩
    | fillRing id' offset data =>
      exact ⟨follows_fillRing id id' offset data, Bank.ReadsOn.of_flags rfl rfl⟩
    | sleep us => exact ⟨Follows.of_flags rfl rfl rfl, Bank.ReadsOn.of_flags rfl rfl⟩
  | listen m e => exact ⟨follows_listen id m e, readsOn_listen t.lane m e⟩
  | unlisten m e => exact ⟨follows_unlisten id m e, readsOn_unlisten t.lane m e⟩
  | startTransfer dir m buf periph =>
    exact ⟨follows_startTransfer id ho dir m buf periph, readsOn_startTransfer ho ht hst dir m buf periph⟩
  | startStream m ring periph =>
    exact ⟨follows_startStream id ho m ring periph, readsOn_startStream ho ht hst m ring periph⟩
  | wait id' => exact ⟨follows_wait id ho id', readsOn_wait ho ht hst id'⟩

end Stream

/-- The checks after a read's callback make a status read, or none. -/
theorem Stream.readsOn_giveBack {s : Machine} (l : Lane) (id' : Nat) (h : Half)
    (start : Option Nat) : Bank.ReadsOn l s.bank (finalState ((Stream.giveBack id' h start).run s)).bank := by
  rw [Stream.run_giveBack]
  cases s.streams[id']? with
  | none => exact Bank.ReadsOn.of_flags rfl rfl
  | some t' =>
    dsimp only
    split
    · exact Bank.ReadsOn.of_flags rfl rfl
    split
    · exact Stream.readsOn_recorded l s _
    split
    · exact Stream.readsOn_recorded l s _
    · exact Stream.readsOn_afterRead l s

namespace Reader.Tracks

variable {id g c r : Nat} {l : Lane} {s s' : Machine}

theorem runs (h : Tracks id l g c r s) : Stream.Runs id s := by
  obtain ⟨t, ht, -, -, hst, hmax⟩ := h.stream
  exact ⟨t, ht, hst, hmax⟩

/-- A step that follows the transfer, leaves it running with no limit on holding a half, and
shows on its lane the flags of the status reads it made moves the reader on by the events of
those reads, when they are the engine's next ones. -/
theorem advance (h : Tracks id l g c r s) (hf : Stream.Follows id s s')
    (hr : Bank.ReadsOn l s.bank s'.bank) (hrun : Stream.Runs id s') {j : Nat}
    (hdue : s.bank.dueOn l (s'.bank.reads - s.bank.reads) = nextEvents c j) :
    Tracks id l g (c + j) r s' := by
  obtain ⟨t, ht, rfl, rfl, hst, -⟩ := h.stream
  obtain ⟨ring, hring, hph⟩ := h.ring
  obtain ⟨t', ht', hl, hg, -⟩ := hf.stream t ht
  obtain ⟨ring', hring', hph'⟩ := hf.phase t ring ht hst hring
  obtain ⟨t'', ht'', hst'', hmax⟩ := hrun
  rw [ht'] at ht''
  cases ht''
  exact ⟨⟨t', ht', hl, hg, hst'', hmax⟩, ⟨ring', hring', hph'.trans hph⟩, h.flags.readsOn hr hdue⟩

end Reader.Tracks

end DmaOwnership
