import DmaOwnership.Proofs.Stream.Lockstep
/-!
# Dropping the pauses of a circular transfer

A client program with every pause and resume of one circular transfer dropped does what
the program does, and leaves the machine it leaves, but for that transfer's pause mark and
its lane's enable bit. `PausesDropped id l x y` relates a program `x` to the program `y` with
the pauses and resumes of transfer `id` dropped; the relation is built as client programs
are, so the two run in lockstep (`PausesDropped.mirrors`), one operation at a time. Where
`x` looks at the machine, `y` may look at the machine with the mark and the bit changed and
must go on as `x` does.

Under the invariant of the transfer the lane stays held and in use, so no other transfer
can take it while the transfer is paused, and the lane's enable bit is clear exactly when
the last pause or resume of the transfer was a pause.
-/

namespace DmaOwnership

open Machine in
/-- `PausesDropped id l x y`: `y` is the client program `x` with every pause and resume of
circular transfer `id`, on lane `l`, dropped. Neither stops `id`. Callbacks are related
pointwise, so the two programs make the same calls in the same order as long as they see the
same answers. A look at the machine may decide what comes next, as long as what `y` does
next on the machine with any pause mark is related to what `x` does next on the machine:
the look sees the mark and the enable bit, the one thing dropping the pauses changes. -/
inductive PausesDropped (id : Nat) (l : Lane) : {α : Type} → Act α → Act α → Prop where
  | pure {α : Type} (a : α) : PausesDropped id l (pure a) (pure a)
  | throw {α : Type} (e : Fault) : PausesDropped id l (throw e : Act α) (throw e)
  | bind {α β : Type} {x y : Act α} {k k' : α → Act β} :
      PausesDropped id l x y → (∀ a, PausesDropped id l (k a) (k' a)) →
        PausesDropped id l (x >>= k) (y >>= k')
  | tryCatch {α : Type} {x y : Act α} {handle handle' : Fault → Act α} :
      PausesDropped id l x y → (∀ e, PausesDropped id l (handle e) (handle' e)) →
        PausesDropped id l (tryCatch x handle) (tryCatch y handle')
  | look {β : Type} {k k' : Machine → Act β} :
      (∀ s p, PausesDropped id l (k s) (k' (s.withPause id l p))) →
        PausesDropped id l (get >>= k) (get >>= k')
  -- the lanes
  | configure (m : Lane) (p : Priority) : PausesDropped id l (m.configure p) (m.configure p)
  | listen (m : Lane) (e : Event) : PausesDropped id l (m.listen e) (m.listen e)
  | unlisten (m : Lane) (e : Event) : PausesDropped id l (m.unlisten e) (m.unlisten e)
  | inUse (m : Lane) : PausesDropped id l m.inUse m.inUse
  | laneRemaining (m : Lane) : PausesDropped id l m.remaining m.remaining
  -- memory and peripherals
  | newBuffer (w : Width) (items : Array UInt32) :
      PausesDropped id l (addBuffer { width := w, items }) (addBuffer { width := w, items })
  | newRing (w : Width) (items : Array UInt32) :
      PausesDropped id l (addRing { width := w, items }) (addRing { width := w, items })
  | newPeripheral (p : Peripheral) : PausesDropped id l (addPeripheral p) (addPeripheral p)
  | borrow {α : Type} (j : Nat) {f g : Array UInt32 → Act α} :
      (∀ items, PausesDropped id l (f items) (g items)) →
        PausesDropped id l (Buffer.borrow j f) (Buffer.borrow j g)
  | borrowMut {α : Type} (j : Nat) {f g : Array UInt32 → Act α} :
      (∀ items, PausesDropped id l (f items) (g items)) →
        PausesDropped id l (Buffer.borrowMut j f) (Buffer.borrowMut j g)
  -- one-shot transfers
  | startTransfer (dir : Direction) (m : Lane) (buf periph : Nat) :
      PausesDropped id l (Machine.peripheral periph >>= fun _ => Transfer.start dir m buf periph)
        (Machine.peripheral periph >>= fun _ => Transfer.start dir m buf periph)
  | isDone (j : Nat) : PausesDropped id l (Transfer.isDone j) (Transfer.isDone j)
  | poll (j : Nat) : PausesDropped id l (Transfer.poll j) (Transfer.poll j)
  | transferRemaining (j : Nat) : PausesDropped id l (Transfer.remaining j) (Transfer.remaining j)
  | wait (j : Nat) : PausesDropped id l (Transfer.wait j) (Transfer.wait j)
  -- circular transfers
  | startStream (m : Lane) (ring periph : Nat) :
      PausesDropped id l (Machine.peripheral periph >>= fun _ => Stream.start m ring periph)
        (Machine.peripheral periph >>= fun _ => Stream.start m ring periph)
  | configureStream (j : Nat) (maxRead : Int) :
      PausesDropped id l (Stream.configure j maxRead) (Stream.configure j maxRead)
  | peek {α : Type} (j : Nat) {f g : Array UInt32 → Half → Act α} :
      (∀ items h, PausesDropped id l (f items h) (g items h)) →
        PausesDropped id l (Stream.peek j f) (Stream.peek j g)
  | pause (j : Nat) : j ≠ id → PausesDropped id l (Stream.pause j) (Stream.pause j)
  | resume (j : Nat) : j ≠ id → PausesDropped id l (Stream.resume j) (Stream.resume j)
  | dropPause : PausesDropped id l (Stream.pause id) (pure ())
  | dropResume : PausesDropped id l (Stream.resume id) (pure ())
  | streamRemaining (j : Nat) : PausesDropped id l (Stream.remaining j) (Stream.remaining j)
  | stop (j : Nat) : j ≠ id → PausesDropped id l (Stream.stop j) (Stream.stop j)
  -- the engine and time
  | raise (m : Lane) (e : Event) :
      PausesDropped id l (modifyBank (·.raise m e)) (modifyBank (·.raise m e))
  | after (polls : Int) (m : Lane) (e : Event) :
      PausesDropped id l (modifyBank (·.scheduleAfter polls m e))
        (modifyBank (·.scheduleAfter polls m e))
  | status (m : Lane) : PausesDropped id l m.readStatus m.readStatus
  | fillBuffer (j offset : Nat) (data : List UInt32) :
      PausesDropped id l (modifyBuffer j (·.fill offset data))
        (modifyBuffer j (·.fill offset data))
  | fillRing (j offset : Nat) (data : List UInt32) :
      PausesDropped id l (modifyRing j (·.fill offset data)) (modifyRing j (·.fill offset data))
  | sleep (us : Nat) : PausesDropped id l (Machine.sleep us) (Machine.sleep us)

namespace PausesDropped

variable {id : Nat} {l : Lane} {α : Type} {x y : Act α}

/-- The two programs run in lockstep from any machine along a run of transfer `id` on lane
`l`, whatever pause mark the second starts with: by induction on the relation, one lemma of
the lockstep per operation. -/
theorem mirrors (h : PausesDropped id l x y) (p : Bool) : Mirrors id l p x y := by
  induction h with
  | pure a => exact Mirrors.pure a
  | throw e => exact Mirrors.throw e
  | bind _ _ ihx ihk => exact Mirrors.bind ihx ihk
  | tryCatch _ _ ihx ihh => exact Mirrors.tryCatch ihx ihh
  | look _ ih => exact fun s hs => ih s p s hs
  | configure m pr => exact mirrors_configure m pr
  | listen m e => exact mirrors_listen m e
  | unlisten m e => exact mirrors_unlisten m e
  | inUse m => exact mirrors_inUse m
  | laneRemaining m => exact mirrors_laneRemaining m
  | newBuffer w items => exact mirrors_addBuffer _
  | newRing w items => exact mirrors_addRing _
  | newPeripheral q => exact mirrors_addPeripheral q
  | borrow j _ ih => exact mirrors_borrow j ih
  | borrowMut j _ ih => exact mirrors_borrowMut j ih
  | startTransfer dir m buf periph =>
    exact Mirrors.bind (mirrors_peripheral periph) fun _ => mirrors_startTransfer dir m buf periph
  | isDone j => exact mirrors_isDone j
  | poll j => exact mirrors_poll j
  | transferRemaining j => exact mirrors_transferRemaining j
  | wait j => exact mirrors_wait j
  | startStream m ring periph =>
    exact Mirrors.bind (mirrors_peripheral periph) fun _ => mirrors_startStream m ring periph
  | configureStream j maxRead => exact mirrors_configureStream j maxRead
  | peek j _ ih => exact mirrors_peek j ih
  | pause j hj => exact mirrors_of_setsEnable hj (setsEnable_pause j)
  | resume j hj => exact mirrors_of_setsEnable hj (setsEnable_resume j)
  | dropPause => exact mirrors_setsEnable_self (setsEnable_pause id)
  | dropResume => exact mirrors_setsEnable_self (setsEnable_resume id)
  | streamRemaining j => exact mirrors_streamRemaining j
  | stop j hj => exact mirrors_stop_of_ne hj
  | raise m e => exact mirrors_raise m e
  | after polls m e => exact mirrors_after polls m e
  | status m => exact mirrors_readStatus m
  | fillBuffer j offset data => exact mirrors_modifyBuffer j _
  | fillRing j offset data => exact mirrors_modifyRing j _
  | sleep us => exact mirrors_sleep us

/-- A program with no pause or resume of transfer `id` keeps its pause mark: run it from the
machine's own pause state. -/
theorem mark_kept (h : PausesDropped id l x x) {s : Machine} (hs : s.Pausable id l)
    {t : Stream} (ht : s.streams[id]? = some t) :
    (finalState (x.run s)).streams[id]?.map Stream.paused = some t.paused := by
  obtain ⟨hp, hr⟩ := h.mirrors t.paused s hs
  rw [hs.withPause_self ht] at hr
  -- the final machine is its own image under the pause state of `t`
  have hfin := congrArg finalState hr
  rw [finalState_mapMachine] at hfin
  obtain ⟨t', ht', -, -⟩ := hp.running
  rw [hfin, Machine.stream_withPause_self, ht']
  rfl

end PausesDropped

open Machine

/-- Pausing and resuming a circular transfer act on its lane's enable bit and nothing else.
A start sets up the invariant `Pausable`, which every program that does not stop the
transfer keeps and under which every start on the lane is refused; a program `y` that drops
the pauses and resumes of `x` (`PausesDropped`) ends as `x` does, but for the pause mark and
the bit that matches it, and the bit is clear exactly when the last of them was a pause. -/
theorem dropped_pauses_change_only_enable_bit :
    (∀ (s s' : Machine) (l : Lane) (ring periph id : Nat), s.Ownership →
      (Stream.start l ring periph).run s = .ok (.ok id) s' →
      s'.Pausable id l ∧ s'.withPause id l false = s') ∧
    (∀ (id : Nat) (l : Lane) {α : Type} (x y : Act α), PausesDropped id l x y →
      ∀ s, s.Pausable id l → (finalState (x.run s)).Pausable id l ∧
        ∀ p, y.run (s.withPause id l p) = mapMachine (·.withPause id l p) (x.run s)) ∧
    (∀ (id : Nat) (l : Lane) (s : Machine), s.Pausable id l →
      s.inUse l = true ∧
      (∀ dir buf periph, (Transfer.start dir l buf periph).run s = .ok (.error .inUse) s) ∧
      (∀ ring periph, (Stream.start l ring periph).run s = .ok (.error .inUse) s)) ∧
    (∀ (id : Nat) (l : Lane) (s : Machine) (t : Stream), s.Pausable id l →
      s.streams[id]? = some t →
      Control.enabled (s.bank.control l) = !t.paused ∧ s.withPause id l t.paused = s) ∧
    (∀ (id : Nat) (l : Lane) (s : Machine), s.Pausable id l →
      (∃ s', (Stream.pause id).run s = .ok () s' ∧
        s'.streams[id]?.map Stream.paused = some true) ∧
      (∃ s', (Stream.resume id).run s = .ok () s' ∧
        s'.streams[id]?.map Stream.paused = some false)) ∧
    (∀ (id : Nat) (l : Lane) {α : Type} (x : Act α), PausesDropped id l x x →
      ∀ s t, s.Pausable id l → s.streams[id]? = some t →
        (finalState (x.run s)).streams[id]?.map Stream.paused = some t.paused) :=
  ⟨fun _ _ _ _ _ _ hs hstart => Pausable.of_start hs hstart,
    fun _ _ _ _ _ h s hs => ⟨(h.mirrors false s hs).1, fun p => (h.mirrors p s hs).2⟩,
    fun _ _ _ hs => ⟨hs.inUse, hs.startTransfer_refused, hs.startStream_refused⟩,
    fun _ _ _ _ hs ht => ⟨hs.enabled _ ht, hs.withPause_self ht⟩,
    fun id _ _ hs => ⟨(setsEnable_pause id).marks hs, (setsEnable_resume id).marks hs⟩,
    fun _ _ _ _ h _ _ hs ht => h.mark_kept hs ht⟩

/-- From the split, a ring started on lane 5 runs under the invariant, and pausing it before a
read ends as the read alone does, but for the pause mark and the enable bit. -/
theorem pause_then_read_as_read :
    let s₀ := finalState ((addRing { width := .w8, items := #[1, 2, 3, 4] } >>= fun _ =>
      addPeripheral { address := 64 }).run (finalState (takeLanes.run ({} : Machine))))
    let read : Act (Stream.Outcome Unit) := Stream.peek 0 fun _ _ => pure ()
    ∃ s, (Stream.start ⟨4⟩ 0 0).run s₀ = .ok (.ok 0) s ∧ s.Pausable 0 ⟨4⟩ ∧
      ∀ p, (pure () >>= fun _ => read).run (s.withPause 0 ⟨4⟩ p) =
        mapMachine (·.withPause 0 ⟨4⟩ p) ((Stream.pause 0 >>= fun _ => read).run s) := by
  intro s₀ read
  obtain ⟨hstart, hdrop, -, -, -, -⟩ := dropped_pauses_change_only_enable_bit
  have ho : s₀.Ownership := Client.keeps_ownership
    (.bind (.newRing _ _) fun _ => .newPeripheral _) _ ownership_takeLanes
  obtain ⟨s, hs⟩ : ∃ s, (Stream.start ⟨4⟩ 0 0).run s₀ = .ok (.ok 0) s := ⟨_, by unfold s₀; rfl⟩
  have hp := (hstart _ _ _ _ _ _ ho hs).1
  exact ⟨s, hs, hp, (hdrop 0 ⟨4⟩ _ _ (.bind .dropPause fun _ => .peek 0 fun _ _ => .pure ()) s hp).2⟩


end DmaOwnership
