import DmaOwnership.Proofs.Stream.Pausable
/-!
# Every operation in lockstep, whatever the pause mark

Each operation a client may call, other than a stop of the transfer, mirrors itself: run
from the machine with the pause mark of circular transfer `id` set to any `p`, it does what
it does from the machine as it is. The lane of the transfer is held and in use either way,
so starts on it are refused alike; another transfer's lane is not the transfer's, so its
pauses, resumes, stops and waits touch another lane's registers; every read of the status
word reads the same flags and raises the same events, since an event's count is read off
circular mode and not the enable bit. Pausing or resuming the transfer itself mirrors doing
nothing: the machine with the mark set to `p` forgets the write.
-/

namespace DmaOwnership

section Operations

open Machine

variable {id : Nat} {l : Lane} {p : Bool}

/-! ## The lanes -/

theorem mirrors_configure (m : Lane) (pr : Priority) :
    Mirrors id l p (m.configure pr) (m.configure pr) := by
  intro s hs
  rw [Lane.run_configure, Lane.run_configure, finalState_ok]
  exact ⟨hs.of_frame rfl rfl (Machine.Pausable.owned_entry_setEntry (by rfl) l) rfl, rfl⟩

/-- An operation that rewrites a lane's interrupt enables, as listening and unlistening do,
mirrors itself: the enable bit is not among them. -/
theorem mirrors_of_interrupts (m : Lane) (f : UInt32 → UInt32) {x : Act Unit}
    (hx : ∀ s : Machine, x.run s =
      .ok () { s with
        lanes := m.setEntry s.lanes { s.laneState m with irq := f (s.laneState m).irq }
        bank := s.bank.setControl m
          (Control.withInterrupts (s.bank.control m) (f (s.laneState m).irq)) }) :
    Mirrors id l p x x := by
  intro s hs
  rw [hx, hx, finalState_ok]
  refine ⟨hs.of_frame rfl rfl (Machine.Pausable.owned_entry_setEntry (by rfl) l) ?_, ?_⟩
  · by_cases hm : m = l
    · subst hm
      rw [Bank.control_setControl_self, Control.enabled_withInterrupts]
    · rw [Bank.control_setControl_of_ne _ _ hm]
  · simp only [mapMachine, Machine.withPause, Bank.setEnable_setControl_withInterrupts]
    rfl

theorem mirrors_listen (m : Lane) (e : Event) : Mirrors id l p (m.listen e) (m.listen e) :=
  mirrors_of_interrupts m (· ||| e.enableBit) fun s => Lane.run_listen m s e

theorem mirrors_unlisten (m : Lane) (e : Event) : Mirrors id l p (m.unlisten e) (m.unlisten e) :=
  mirrors_of_interrupts m (· &&& ~~~e.enableBit) fun s => Lane.run_unlisten m s e

/-- Whether a lane is in use reads the same: the transfer's lane is held either way. -/
theorem mirrors_inUse (m : Lane) : Mirrors id l p m.inUse m.inUse := by
  intro s hs
  rw [Lane.run_inUse, Lane.run_inUse, hs.inUse_withPause]
  exact ⟨hs, rfl⟩

theorem mirrors_laneRemaining (m : Lane) : Mirrors id l p m.remaining m.remaining := by
  intro s hs
  rw [Lane.run_remaining, Lane.run_remaining, Machine.bank_withPause, Bank.count_setEnable]
  exact ⟨hs, rfl⟩

/-! ## Memory, peripherals, the engine and time -/

theorem mirrors_addBuffer (b : Buffer) : Mirrors id l p (addBuffer b) (addBuffer b) :=
  fun _ hs => ⟨hs.of_frame rfl rfl rfl rfl, rfl⟩

theorem mirrors_addRing (r : Ring) : Mirrors id l p (addRing r) (addRing r) :=
  fun _ hs => ⟨hs.of_frame rfl rfl rfl rfl, rfl⟩

theorem mirrors_addPeripheral (q : Peripheral) :
    Mirrors id l p (addPeripheral q) (addPeripheral q) :=
  fun _ hs => ⟨hs.of_frame rfl rfl rfl rfl, rfl⟩

theorem mirrors_modifyBuffer (j : Nat) (f : Buffer → Buffer) :
    Mirrors id l p (modifyBuffer j f) (modifyBuffer j f) :=
  fun _ hs => ⟨hs.of_frame rfl rfl rfl rfl, rfl⟩

theorem mirrors_modifyRing (j : Nat) (f : Ring → Ring) :
    Mirrors id l p (modifyRing j f) (modifyRing j f) :=
  fun _ hs => ⟨hs.of_frame rfl rfl rfl rfl, rfl⟩

theorem mirrors_sleep (us : Nat) : Mirrors id l p (sleep us) (sleep us) :=
  fun _ hs => ⟨hs.of_frame rfl rfl rfl rfl, rfl⟩

/-- The engine raises an event alike: the count it leaves is read off circular mode. -/
theorem mirrors_raise (m : Lane) (e : Event) :
    Mirrors id l p (modifyBank (·.raise m e)) (modifyBank (·.raise m e)) := by
  intro s hs
  refine ⟨hs.of_frame rfl rfl rfl
    (congrArg Control.enabled (Bank.control_raise s.bank m e l)), ?_⟩
  show EStateM.Result.ok ()
    { s.withPause id l p with bank := (s.bank.setEnable l (!p)).raise m e } = _
  rw [← Bank.setEnable_raise]
  rfl

theorem mirrors_after (polls : Int) (m : Lane) (e : Event) :
    Mirrors id l p (modifyBank (·.scheduleAfter polls m e))
      (modifyBank (·.scheduleAfter polls m e)) :=
  fun _ hs => ⟨hs.of_frame rfl rfl rfl rfl, rfl⟩

/-- A read of the status word answers the same word and raises the same events. -/
theorem mirrors_readStatus (m : Lane) : Mirrors id l p m.readStatus m.readStatus := by
  intro s hs
  rw [Lane.run_readStatus, Lane.run_readStatus, Machine.afterRead_withPause, Machine.bank_withPause,
    Bank.status_setEnable]
  exact ⟨hs.afterRead, rfl⟩

/-! ## One-shot transfers -/

theorem mirrors_check (m : Lane) : Mirrors id l p (Transfer.check m) (Transfer.check m) := by
  intro s hs
  rw [Transfer.run_check, Transfer.run_check, Machine.afterRead_withPause, Machine.bank_withPause,
    Bank.status_setEnable]
  exact ⟨hs.afterRead, rfl⟩

theorem mirrors_isDone (j : Nat) : Mirrors id l p (Transfer.isDone j) (Transfer.isDone j) := by
  intro s hs
  rw [Transfer.run_isDone, Transfer.run_isDone, transfers_withPause]
  cases s.transfers[j]? with
  | none => exact ⟨hs, rfl⟩
  | some t =>
    dsimp only
    split
    · exact ⟨hs, rfl⟩
    · exact mirrors_check t.lane s hs

theorem mirrors_poll (j : Nat) : Mirrors id l p (Transfer.poll j) (Transfer.poll j) := by
  intro s hs
  rw [Transfer.run_poll, Transfer.run_poll, transfers_withPause]
  cases s.transfers[j]? with
  | none => exact ⟨hs, rfl⟩
  | some t =>
    dsimp only
    split
    · exact ⟨hs, rfl⟩
    · rw [Machine.afterRead_withPause, Machine.bank_withPause, Bank.status_setEnable]
      exact ⟨hs.afterRead, rfl⟩

theorem mirrors_transferRemaining (j : Nat) :
    Mirrors id l p (Transfer.remaining j) (Transfer.remaining j) := by
  intro s hs
  rw [Transfer.run_remaining, Transfer.run_remaining, transfers_withPause]
  cases s.transfers[j]? with
  | none => exact ⟨hs, rfl⟩
  | some t =>
    dsimp only
    split
    · exact ⟨hs, rfl⟩
    · rw [Machine.bank_withPause, Bank.count_setEnable]
      exact ⟨hs, rfl⟩

/-! ## Circular transfers -/

theorem mirrors_configureStream (j : Nat) (maxRead : Int) :
    Mirrors id l p (Stream.configure j maxRead) (Stream.configure j maxRead) := by
  intro s hs
  rw [Stream.run_configure, Stream.run_configure, finalState_ok]
  refine ⟨hs.modifyStream j (fun _ => rfl) (fun _ h => h) (fun _ _ => ⟨rfl, rfl⟩), ?_⟩
  simp only [mapMachine, Machine.withPause]
  congr 2
  exact Array.modify_comm _ fun _ _ => rfl

theorem mirrors_streamRemaining (j : Nat) :
    Mirrors id l p (Stream.remaining j) (Stream.remaining j) := by
  intro s hs
  rw [Stream.run_remaining, Stream.run_remaining, bank_withPause]
  cases ht : s.streams[j]? with
  | none =>
    rw [stream_withPause_none _ _ _ _ ht]
    exact ⟨hs, rfl⟩
  | some t =>
    obtain ⟨t', ht', hl, -, -, -, hst⟩ := stream_withPause_some s id l p ht
    rw [ht']
    dsimp only
    rw [hl, hst, Bank.count_setEnable]
    split <;> exact ⟨hs, rfl⟩

/-- An operation that sets the enable bit of a running transfer's lane to `on` and marks the
transfer paused or not, as pausing and resuming do. -/
def SetsEnable (j : Nat) (on paused : Bool) (x : Act Unit) : Prop :=
  ∀ s, x.run s =
    match s.streams[j]? with
    | none => .error .nilReference s
    | some t =>
      if t.stopped then .error .streamStopped s else
      .ok () { s with
        bank := s.bank.setEnable t.lane on
        streams := s.streams.modify j fun t => { t with paused } }

theorem setsEnable_pause (j : Nat) : SetsEnable j false true (Stream.pause j) :=
  Stream.run_pause j

theorem setsEnable_resume (j : Nat) : SetsEnable j true false (Stream.resume j) :=
  Stream.run_resume j

/-- Pausing or resuming the running transfer marks it as it says. -/
theorem SetsEnable.marks {on paused : Bool} {x : Act Unit} (hx : SetsEnable id on paused x)
    {s : Machine} (hs : s.Pausable id l) :
    ∃ s', x.run s = .ok () s' ∧ s'.streams[id]?.map Stream.paused = some paused := by
  obtain ⟨t, ht, -, hst⟩ := hs.running
  rw [hx, ht]
  simp only [hst, Bool.false_eq_true, if_false]
  refine ⟨_, rfl, ?_⟩
  rw [Array.getElem?_modify, if_pos rfl, ht]
  rfl

/-- Pausing or resuming another transfer writes the enable bit of another lane: that
transfer runs, so its lane is not `l`. -/
theorem mirrors_of_setsEnable {j : Nat} (hj : j ≠ id) {on paused : Bool} {x : Act Unit}
    (hx : SetsEnable j on paused x) : Mirrors id l p x x := by
  intro s hs
  rw [hx, hx, stream_withPause_of_ne _ _ _ _ hj]
  cases ht : s.streams[j]? with
  | none => exact ⟨hs, rfl⟩
  | some t =>
    dsimp only
    cases hst : t.stopped
    · have hl : t.lane ≠ l := hs.streams j t hj ht hst
      simp only [Bool.false_eq_true, if_false, finalState_ok]
      refine ⟨?_, ?_⟩
      · refine (hs.modifyStream j (f := fun t => { t with paused }) (fun _ => rfl) (fun _ h => h)
          fun h => absurd h hj).of_frame rfl rfl rfl ?_
        exact congrArg Control.enabled (Bank.control_setEnable_of_ne _ _ _ hl)
      · simp only [mapMachine, withPause, Bank.setEnable_comm_of_ne _ _ _ hl]
        congr 2
        exact Array.modify_comm _ fun h => absurd h.symm hj
    · simp only [if_true]
      exact ⟨hs, rfl⟩

/-- Pausing or resuming the transfer itself is forgotten once the transfer is taken as never
paused, and keeps the lane's enable bit in step with the mark. -/
theorem mirrors_setsEnable_self {on : Bool} {x : Act Unit} (hx : SetsEnable id on (!on) x) :
    Mirrors id l p x (pure ()) := by
  intro s hs
  obtain ⟨t, ht, hl, hst⟩ := hs.running
  rw [hx, ht]
  simp only [hst, Bool.false_eq_true, if_false, finalState_ok]
  subst hl
  refine ⟨?_, ?_⟩
  · refine ⟨⟨{ t with paused := !on }, ?_, rfl, hst⟩, hs.owned, hs.transfers, ?_, ?_⟩
    · rw [Array.getElem?_modify, if_pos rfl, ht]
      rfl
    · intro i t' hi ht'
      rw [Array.getElem?_modify, if_neg (Ne.symm hi)] at ht'
      exact hs.streams i t' hi ht'
    · intro t' ht'
      rw [Array.getElem?_modify, if_pos rfl, ht] at ht'
      cases ht'
      rw [Bank.control_setEnable_self, Control.enabled_withEnable, Bool.not_not]
  · simp only [mapMachine, withPause, Bank.setEnable_setEnable, Array.modify_modify]
    rfl

/-- Stopping another transfer frees another lane: that transfer runs, so its lane is not
`l`. -/
theorem mirrors_stop_of_ne {j : Nat} (hj : j ≠ id) :
    Mirrors id l p (Stream.stop j) (Stream.stop j) := by
  intro s hs
  rw [Stream.run_stop, Stream.run_stop, stream_withPause_of_ne _ _ _ _ hj]
  cases ht : s.streams[j]? with
  | none => exact ⟨hs, rfl⟩
  | some t =>
    dsimp only
    cases hst : t.stopped
    · have hl : t.lane ≠ l := hs.streams j t hj ht hst
      simp only [Bool.false_eq_true, if_false, finalState_ok]
      refine ⟨?_, ?_⟩
      · refine (hs.modifyStream j (f := fun t => { t with stopped := true }) (fun _ => rfl)
          (fun _ h => nomatch h) fun h => absurd h hj).of_frame rfl rfl ?_ ?_
        · exact congrArg LaneState.owned (Lane.entry_setEntry_of_ne _ _ _ _ hl)
        · exact congrArg Control.enabled ((Bank.control_clear _ _ _).trans
            (Bank.control_setControl_of_ne _ _ hl))
      · simp only [mapMachine, withPause, Bank.control_setEnable_of_ne _ _ _ (Ne.symm hl),
          ← Bank.setEnable_setControl_of_ne _ _ _ hl, Bank.setEnable_clear]
        congr 2
        exact Array.modify_comm _ fun h => absurd h.symm hj
    · simp only [if_true]
      exact ⟨hs, rfl⟩

/-! ## Starts -/

/-- The lookup of a peripheral before a start finds the same peripheral. -/
theorem mirrors_peripheral (j : Nat) :
    Mirrors id l p (Machine.peripheral j) (Machine.peripheral j) := by
  intro s hs
  rw [Machine.run_peripheral, Machine.run_peripheral, peripherals_withPause]
  cases s.peripherals[j]? with
  | none => exact ⟨hs, rfl⟩
  | some _ => exact ⟨hs, rfl⟩

/-- A start finds the transfer's lane in use whatever the pause mark, and starts on another
lane only. -/
theorem mirrors_startTransfer (dir : Direction) (m : Lane) (buf periph : Nat) :
    Mirrors id l p (Transfer.start dir m buf periph) (Transfer.start dir m buf periph) := by
  intro s hs
  rw [Transfer.run_start, Transfer.run_start, hs.inUse_withPause]
  by_cases hu : s.inUse m
  · simp only [hu, if_true]
    exact ⟨hs, rfl⟩
  have hm : m ≠ l := by
    rintro rfl
    exact hu hs.inUse
  simp only [hu, Bool.false_eq_true, if_false, buffers_withPause, peripherals_withPause,
    laneState_withPause, transfers_withPause]
  cases s.buffers[buf]? with
  | none => exact ⟨hs, rfl⟩
  | some b =>
    dsimp only
    split
    · exact ⟨hs, rfl⟩
    cases dir.lock b with
    | none => exact ⟨hs, rfl⟩
    | some b' =>
      dsimp only
      cases s.peripherals[periph]? with
      | none => exact ⟨hs.of_frame rfl rfl rfl rfl, rfl⟩
      | some q =>
        dsimp only
        rw [finalState_ok]
        refine ⟨hs.of_added_elsewhere ?_ ?_ rfl ?_ fun _ _ ht => Or.inl ht, ?_⟩
        · rw [Bank.control_setControl_of_ne _ _ hm, Bank.control_program_of_ne _ _ _ _ _ hm]
        · exact congrArg LaneState.owned (Lane.entry_setEntry_of_ne _ _ _ _ hm)
        · exact fun _ _ ht => (Array.getElem?_push_eq_some _ ht).imp (fun ht => ht) fun e => by
            rw [e]
            exact hm
        · simp only [mapMachine, withPause, ← Bank.setEnable_program_of_ne _ _ _ hm,
            ← Bank.setEnable_setControl_of_ne _ _ _ hm]

theorem mirrors_startStream (m : Lane) (ring periph : Nat) :
    Mirrors id l p (Stream.start m ring periph) (Stream.start m ring periph) := by
  intro s hs
  rw [Stream.run_start, Stream.run_start, hs.inUse_withPause]
  by_cases hu : s.inUse m
  · simp only [hu, if_true]
    exact ⟨hs, rfl⟩
  have hm : m ≠ l := by
    rintro rfl
    exact hu hs.inUse
  obtain ⟨t, ht, -, -⟩ := hs.running
  have hid : id < s.streams.size := (Array.getElem?_eq_some_iff.mp ht).1
  simp only [hu, Bool.false_eq_true, if_false, rings_withPause, peripherals_withPause,
    laneState_withPause]
  cases s.rings[ring]? with
  | none => exact ⟨hs, rfl⟩
  | some r =>
    dsimp only
    split
    · exact ⟨hs, rfl⟩
    split
    · exact ⟨hs, rfl⟩
    cases s.peripherals[periph]? with
    | none => exact ⟨hs.of_frame rfl rfl rfl rfl, rfl⟩
    | some q =>
      dsimp only
      rw [finalState_ok]
      refine ⟨hs.of_added_elsewhere ?_ ?_ ?_ (fun _ _ ht => Or.inl ht) ?_, ?_⟩
      · rw [Bank.control_setControl_of_ne _ _ hm, Bank.control_program_of_ne _ _ _ _ _ hm]
      · exact congrArg LaneState.owned (Lane.entry_setEntry_of_ne _ _ _ _ hm)
      · -- the new transfer takes the next handle, which is not `id`
        rw [Array.getElem?_push, if_neg (Nat.ne_of_lt hid)]
      · exact fun _ _ ht => (Array.getElem?_push_eq_some _ ht).imp (fun ht => ht) fun e => by
          rw [e]
          exact hm
      · simp only [mapMachine, withPause, ← Bank.setEnable_program_of_ne _ _ _ hm,
          ← Bank.setEnable_setControl_of_ne _ _ _ hm, Array.size_modify, Array.modify_push _ hid]

/-! ## Borrows and reads -/

/-- A shared borrow mirrors as its callback does. -/
theorem mirrors_borrow {α : Type} (j : Nat) {f g : Array UInt32 → Act α}
    (hf : ∀ items, Mirrors id l p (f items) (g items)) :
    Mirrors id l p (Buffer.borrow j f) (Buffer.borrow j g) := by
  intro s hs
  rw [Buffer.run_borrow, Buffer.run_borrow, buffers_withPause]
  cases s.buffers[j]? with
  | none => exact ⟨hs, rfl⟩
  | some b =>
    dsimp only
    split
    · exact ⟨hs, rfl⟩
    · exact (hf b.items).around_buffers hs _ fun bs => bs.modify j fun b =>
        { b with readers := b.readers - 1 }

/-- An exclusive borrow mirrors as its callback does. -/
theorem mirrors_borrowMut {α : Type} (j : Nat) {f g : Array UInt32 → Act α}
    (hf : ∀ items, Mirrors id l p (f items) (g items)) :
    Mirrors id l p (Buffer.borrowMut j f) (Buffer.borrowMut j g) := by
  intro s hs
  rw [Buffer.run_borrowMut, Buffer.run_borrowMut, buffers_withPause]
  cases s.buffers[j]? with
  | none => exact ⟨hs, rfl⟩
  | some b =>
    dsimp only
    split
    · exact ⟨hs, rfl⟩
    · exact (hf b.items).around_buffers hs _ fun bs => bs.modify j fun b =>
        { b with writing := false }

/-- The checks before a read find the same record, ring and flags, and do the same. -/
theorem mirrors_takeHalf (j : Nat) : Mirrors id l p (Stream.takeHalf j) (Stream.takeHalf j) := by
  intro s hs
  rw [Stream.run_takeHalf, Stream.run_takeHalf]
  cases ht : s.streams[j]? with
  | none =>
    rw [stream_withPause_none _ _ _ _ ht]
    exact ⟨hs, rfl⟩
  | some t =>
    obtain ⟨t', ht', hl, hr, -, hm, hst⟩ := stream_withPause_some s id l p ht
    rw [ht']
    dsimp only
    rw [hl, hr, hm, hst, rings_withPause]
    split
    · exact ⟨hs, rfl⟩
    cases s.rings[t.ring]? with
    | none => exact ⟨hs, rfl⟩
    | some r =>
      dsimp only
      cases r.phase.waiting with
      | none => exact ⟨hs, rfl⟩
      | some h =>
        dsimp only
        rw [bank_withPause, Bank.status_setEnable, afterRead_withPause]
        split
        · exact ⟨hs.afterRead.recorded _, rfl⟩
        split
        · exact ⟨hs.afterRead.recorded _, rfl⟩
        split
        · exact ⟨hs.afterRead.recorded _, rfl⟩
        refine ⟨hs.afterRead.of_frame rfl rfl rfl ?_, ?_⟩
        · exact congrArg Control.enabled (Bank.control_clear _ _ _)
        · simp only [mapMachine, afterRead_bank, withPause, Bank.setEnable_clear]

/-- The checks after a read find the same record and flags, and do the same. -/
theorem mirrors_giveBack (j : Nat) (h : Half) (start : Option Nat) :
    Mirrors id l p (Stream.giveBack j h start) (Stream.giveBack j h start) := by
  intro s hs
  rw [Stream.run_giveBack, Stream.run_giveBack]
  cases ht : s.streams[j]? with
  | none =>
    rw [stream_withPause_none _ _ _ _ ht]
    exact ⟨hs, rfl⟩
  | some t =>
    obtain ⟨t', ht', hl, -, -, hm, hst⟩ := stream_withPause_some s id l p ht
    rw [ht']
    dsimp only
    rw [hl, hm, hst, clock_withPause, bank_withPause, Bank.status_setEnable, afterRead_withPause]
    split
    · exact ⟨hs, rfl⟩
    split
    · exact ⟨hs.afterRead.recorded _, rfl⟩
    split
    · exact ⟨hs.afterRead.recorded _, rfl⟩
    · exact ⟨hs.afterRead.of_frame rfl rfl rfl rfl, rfl⟩

/-- A read mirrors as its callback does: the checks around the callback do the same, so the
callback gets the same half with the same items. -/
theorem mirrors_peek {α : Type} (j : Nat) {f g : Array UInt32 → Half → Act α}
    (hf : ∀ items h, Mirrors id l p (f items h) (g items h)) :
    Mirrors id l p (Stream.peek j f) (Stream.peek j g) := by
  intro s hs
  obtain ⟨hp₁, hr₁⟩ := mirrors_takeHalf j s hs
  rw [Stream.run_peek, Stream.run_peek, hr₁]
  generalize (Stream.takeHalf j).run s = r₁ at hp₁ ⊢
  cases r₁ with
  | error e s₁ => exact ⟨hp₁, rfl⟩
  | ok v s₁ =>
    rcases v with r | ⟨h, data, start⟩
    · exact ⟨hp₁, rfl⟩
    obtain ⟨hp₂, hr₂⟩ := hf data h s₁ hp₁
    dsimp only [mapMachine]
    rw [hr₂]
    generalize (f data h).run s₁ = r₂ at hp₂ ⊢
    cases r₂ with
    | error e s₂ => exact ⟨hp₂, rfl⟩
    | ok a s₂ =>
      obtain ⟨hp₃, hr₃⟩ := mirrors_giveBack j h start s₂ hp₂
      dsimp only [mapMachine]
      rw [hr₃]
      generalize (Stream.giveBack j h start).run s₂ = r₃ at hp₃ ⊢
      cases r₃ with
      | error e s₃ => exact ⟨hp₃, rfl⟩
      | ok o s₃ => exact ⟨hp₃, rfl⟩

/-! ## Waits -/

/-- A wait's reads see the same flags and schedule, and make the same reads. -/
theorem mirrors_spin (m : Lane) (fuel : Nat) :
    Mirrors id l p (Transfer.spin m fuel) (Transfer.spin m fuel) := by
  induction fuel with
  | zero => exact fun _ hs => ⟨hs, rfl⟩
  | succ fuel ih =>
    intro s hs
    rw [Transfer.run_spin_succ, Transfer.run_spin_succ]
    dsimp only
    rw [bank_withPause, Bank.flags_setEnable, Bank.schedule_setEnable, Bank.quietReads_setEnable]
    split
    · exact ⟨hs, rfl⟩
    generalize (if (!(LaneStatus.ofWord m s.bank.flags).error &&
      !(LaneStatus.ofWord m s.bank.flags).complete) = true then s.bank.quietReads else 0) = q
    rw [Bank.readN_setEnable, Bank.status_setEnable]
    -- the reads keep the invariant: they write no control word
    have hs' : Machine.Pausable id l { s with
        bank := (s.bank.readN q).status.2
        counters := { s.counters with polls := s.counters.polls + q.toUInt32 + 1 } } :=
      hs.of_frame rfl rfl rfl (by rw [Bank.control_status, Bank.control_readN])
    split
    · exact ⟨hs', rfl⟩
    split
    · exact ⟨hs', rfl⟩
    · exact ih _ hs'

/-- Handing back a transfer on another lane and writing the pause state of `id` can be done
in either order. -/
theorem handBack_withPause (s : Machine) (j : Nat) {t : Transfer} (ht : t.lane ≠ l)
    (mask : UInt32) (c : Counters) :
    (s.withPause id l p).handBack j t mask c = (s.handBack j t mask c).withPause id l p := by
  simp only [Machine.handBack, laneState_withPause, bank_withPause,
    Bank.control_setEnable_of_ne _ _ _ (Ne.symm ht)]
  simp only [withPause, ← Bank.setEnable_clear, ← Bank.setEnable_setControl_of_ne _ _ _ ht]

/-- A wait on a transfer in flight makes the same reads and hands back the same parts; the
transfer runs on another lane, so the lane it frees is not `l`. -/
theorem mirrors_wait (j : Nat) : Mirrors id l p (Transfer.wait j) (Transfer.wait j) := by
  intro s hs
  rw [Transfer.run_wait, Transfer.run_wait, transfers_withPause]
  cases ht : s.transfers[j]? with
  | none => exact ⟨hs, rfl⟩
  | some t =>
    dsimp only
    cases hr : t.released
    · have hl : t.lane ≠ l := hs.transfers j t ht hr
      simp only [Bool.false_eq_true, if_false, bank_withPause, Bank.schedule_setEnable]
      obtain ⟨hp, hrun⟩ := mirrors_spin t.lane (s.bank.schedule.length + 1) s hs
      rw [hrun]
      generalize (Transfer.spin t.lane (s.bank.schedule.length + 1)).run s = r at hp ⊢
      rcases r with ⟨_ | _, s'⟩ | ⟨e, s'⟩
      · exact ⟨hp.handBack j hl _ _, by
          simp only [mapMachine, ← handBack_withPause s' j hl, counters_withPause]⟩
      · exact ⟨hp.handBack j hl _ _, by
          simp only [mapMachine, ← handBack_withPause s' j hl, counters_withPause]⟩
      · exact ⟨hp, rfl⟩
    · simp only [if_true]
      exact ⟨hs, rfl⟩

end Operations

end DmaOwnership
