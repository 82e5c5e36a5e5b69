import DmaOwnership.Proofs.Script.Steady
/-!
# A script never hangs on a wait

The simulator refuses a `wait` line unless `settles` holds of its lane, and otherwise runs the
library's wait. `settles` re-derives the wait's exit condition with arithmetic of its own:
bits `4i + 1` and `4i + 3` of the status word, or a scheduled event other than half-transfer.
Where every event scheduled on the lane has a name, that is the exit condition
(`settles_iff_finishes_of_named`). Every state a script passes through keeps
`Simulator.Sound` (`Reaches.sound`), and every command is steady for it (`steady_exec`), so a
script never ends with the fault of a wait that would never return.
-/

namespace DmaOwnership.Script

open Machine

/-! ## The simulator's test before a wait -/

/-- The simulator picks a lane's complete and error flags out by their bit positions. -/
theorem tcOrTE_eq (l : Lane) :
    ((1 : UInt32) <<< (4 * l.index.val + 1).toUInt32 |||
      (1 : UInt32) <<< (4 * l.index.val + 3).toUInt32) = l.completeFlag ||| l.errorFlag := by
  obtain ⟨⟨i, hi⟩⟩ := l
  revert hi
  revert i
  decide

/-- The simulator's test, spelled out: the lane's complete or error flag is up, or an event
other than half-transfer is scheduled on it. -/
theorem settles_iff (b : Bank) (l : Lane) : settles b l = true ↔
    b.finished l = true ∨ ∃ x ∈ b.schedule, x.lane = l ∧ x.event ≠ .half := by
  simp only [settles, tcOrTE_eq, Bool.or_eq_true, Bank.and_complete_or_error_ne_zero,
    Bank.any_pending, bne_iff_ne, ne_eq]

/-- An event with a name is half-transfer, transfer-complete or an error. -/
theorem eq_of_named {e : Event} (h : e.name?.isSome = true) :
    e = .half ∨ e = .complete ∨ e = .error := by
  by_cases h1 : e = .half
  · exact Or.inl h1
  by_cases h2 : e = .complete
  · exact Or.inr (Or.inl h2)
  by_cases h3 : e = .error
  · exact Or.inr (Or.inr h3)
  simp [Event.name?, h1, h2, h3] at h

/-- Where every event scheduled on the lane has a name, the simulator's test holds exactly
when a wait on the lane returns. -/
theorem settles_iff_finishes_of_named (b : Bank) (l : Lane)
    (h : ∀ x ∈ b.schedule, x.lane = l → x.event.name?.isSome = true) :
    settles b l = true ↔ b.Finishes l := by
  rw [settles_iff, Bank.finishes_iff]
  -- a named event other than half-transfer is transfer-complete or an error
  have hx : ∀ x ∈ b.schedule, x.lane = l →
      (x.event ≠ .half ↔ x.event = .complete ∨ x.event = .error) := by
    intro x hx hl
    rcases eq_of_named (h x hx hl) with he | he | he <;> rw [he] <;> decide
  constructor
  · rintro (hf | ⟨x, hm, hl, he⟩)
    · exact Or.inl hf
    · exact Or.inr ⟨x, hm, hl, (hx x hm hl).mp he⟩
  · rintro (hf | ⟨x, hm, hl, he⟩)
    · exact Or.inl hf
    · exact Or.inr ⟨x, hm, hl, (hx x hm hl).mpr he⟩

/-! ## What every state of a script keeps -/

/-- What holds at every state a script passes through: every scheduled event has a name,
and each one-shot transfer the simulator lists is in flight on its lane. -/
structure Simulator.Sound (s : Simulator) : Prop where
  /-- Every scheduled event is half-transfer, transfer-complete or an error. -/
  named : ∀ x ∈ s.machine.bank.schedule, x.event.name?.isSome = true
  /-- A listed one-shot transfer runs on its lane and has not been waited for. -/
  inFlight : ∀ (l : Lane) (o : OneShot), l.entry s.oneShots = some o →
    ∃ t, s.machine.transfers[o.transfer]? = some t ∧ t.lane = l ∧ t.released = false

namespace Simulator.Sound

variable {s : Simulator}

theorem start : ({} : Simulator).Sound where
  named _ hx := by cases hx
  inFlight _ _ h := by simp [Lane.entry] at h

theorem of_eq {s' : Simulator} (hs : s.Sound) (hm : s'.machine = s.machine)
    (ho : s'.oneShots = s.oneShots) : s'.Sound where
  named x hx := hs.named x (hm ▸ hx)
  inFlight l o h := hm ▸ hs.inFlight l o (ho ▸ h)

/-- A change of the machine that retains it keeps the simulator sound. -/
theorem retains (hs : s.Sound) {m : Machine} (h : Retains s.machine m) :
    ({ s with machine := m } : Simulator).Sound where
  named x hx := hs.named x (h.schedule x hx)
  inFlight l o ho := by
    obtain ⟨t, ht, hl, hr⟩ := hs.inFlight l o ho
    exact ⟨t, h.transfers _ t ht, hl, hr⟩

/-- Listing a transfer in flight on the lane. -/
theorem record (hs : s.Sound) (l : Lane) (o : OneShot)
    (ht : ∃ t, s.machine.transfers[o.transfer]? = some t ∧ t.lane = l ∧ t.released = false) :
    ({ s with oneShots := l.setEntry s.oneShots (some o) } : Simulator).Sound where
  named := hs.named
  inFlight m o' h := by
    by_cases hlm : l = m
    · subst hlm
      rw [Lane.entry_setEntry] at h
      cases h
      exact ht
    · rw [Lane.entry_setEntry_of_ne _ _ _ _ hlm] at h
      exact hs.inFlight m o' h

/-- Releasing the lane's listed transfer and taking it off the list keeps the other lanes'
transfers in flight: they are other transfers, for they run on other lanes. -/
theorem release (hs : s.Sound) {l : Lane} {o : OneShot} (ho : l.entry s.oneShots = some o)
    {m : Machine} (hsched : ∀ x ∈ m.bank.schedule, x ∈ s.machine.bank.schedule)
    (htr : m.transfers = s.machine.transfers.modify o.transfer fun t => { t with released := true }) :
    ({ s with machine := m, oneShots := l.setEntry s.oneShots none } : Simulator).Sound where
  named x hx := hs.named x (hsched x hx)
  inFlight m' o' h := by
    have hlm : l ≠ m' := by
      rintro rfl
      rw [Lane.entry_setEntry] at h
      cases h
    rw [Lane.entry_setEntry_of_ne _ _ _ _ hlm] at h
    obtain ⟨t', ht', hl', hr'⟩ := hs.inFlight m' o' h
    obtain ⟨t, ht, hl, -⟩ := hs.inFlight l o ho
    have hne : o.transfer ≠ o'.transfer := by
      intro heq
      rw [heq, ht'] at ht
      cases ht
      exact hlm (hl.symm.trans hl')
    refine ⟨t', ?_, hl', hr'⟩
    simp only [htr, Array.getElem?_modify, hne, if_false, ht']

end Simulator.Sound

/-! ## Steady steps of the simulator -/

section Steps

variable {α β : Type}

theorem run_within (x : Act α) (s : Simulator) : (Act.within x : Sim α).run s =
    match x.run s.machine with
    | .ok a m => .ok a { s with machine := m }
    | .error e m => .error e { s with machine := m } := rfl

/-- A tame operation of the machine is a steady step of the simulator. -/
theorem steady_within {x : Act α} (hx : Tame x) : Steady Simulator.Sound (Act.within x : Sim α) := by
  intro s hs
  have hc := hx s.machine
  rw [run_within]
  cases hr : x.run s.machine with
  | ok a m =>
    rw [hr] at hc
    exact ⟨hs.retains hc, nofun⟩
  | error e m =>
    rw [hr] at hc
    exact ⟨hs.retains hc.2, fun s' heq => hc.1 (by cases heq; rfl)⟩

theorem steady_act {x : Act α} (hx : Tame x) : Steady Simulator.Sound (act x).run :=
  steady_run_lift (steady_within hx)

theorem steady_run_get : Steady Simulator.Sound (get : Command Simulator).run :=
  steady_run_lift steady_get

theorem steady_report (r : Report) : Steady Simulator.Sound (report r).run :=
  steady_run_lift (steady_modify fun _ hs => hs.of_eq rfl rfl)

theorem run_get_bind (k : Simulator → Command β) (s : Simulator) :
    (get >>= k).run.run s = (k s).run.run s := rfl

theorem run_modify_bind (f : Simulator → Simulator) (k : PUnit → Command β) (s : Simulator) :
    (modify f >>= k).run.run s = (k ⟨⟩).run.run (f s) := rfl

theorem run_lift_bind (x : Sim α) (k : α → Command β) (s : Simulator) :
    (ExceptT.lift x >>= k).run.run s =
      match x.run s with
      | .ok a s' => (k a).run.run s'
      | .error e s' => .error e s' := by
  rw [ExceptT.run_bind, ExceptT.run_lift, ← bind_pure_comp, bind_assoc, EStateM.run_bind]
  cases x.run s <;> rfl

theorem run_act_bind (x : Act α) (k : α → Command β) (s : Simulator) :
    (act x >>= k).run.run s =
      match x.run s.machine with
      | .ok a m => (k a).run.run { s with machine := m }
      | .error e m => .error e { s with machine := m } := by
  rw [act, run_lift_bind, run_within]
  cases x.run s.machine <;> rfl

/-- What follows a message never runs. -/
theorem steady_run_throw_bind (e : String) (k : α → Command β) :
    Steady Simulator.Sound (throw e >>= k).run :=
  fun _ hs => ⟨hs, nofun⟩

end Steps

/-! ## The words of a line -/

section Words

variable {α β : Type}

theorem steady_laneWord (w : String) : Steady Simulator.Sound (laneWord w).run := by
  unfold laneWord
  dsimp only
  generalize (Text.parseInt? _).bind Lane.ofNumber? = r
  cases r
  · exact steady_run_throw _
  · exact steady_run_pure _

/-- A word that names an event names one with a name. -/
theorem steady_eventWord_bind (w : String) {k : Event → Command β}
    (hk : ∀ e, e.name?.isSome = true → Steady Simulator.Sound (k e).run) :
    Steady Simulator.Sound (eventWord w >>= k).run := by
  cases h : Event.ofName? w with
  | none =>
    simp only [eventWord, h]
    exact steady_run_throw_bind _ _
  | some e =>
    simp only [eventWord, h, pure_bind]
    exact hk e (by rw [Event.name?_ofName? h]; rfl)

theorem steady_run_mapM {γ : Type} {f : γ → Command α}
    (hf : ∀ a, Steady Simulator.Sound (f a).run) :
    ∀ ws : List γ, Steady Simulator.Sound (ws.mapM f).run
  | [] => by
    rw [List.mapM_nil]
    exact steady_run_pure _
  | a :: ws => by
    rw [List.mapM_cons]
    exact steady_run_bind (hf a) fun _ =>
      steady_run_bind (steady_run_mapM hf ws) fun _ => steady_run_pure _

theorem steady_bytesWords (ws : List String) : Steady Simulator.Sound (bytesWords ws).run :=
  steady_run_mapM (fun w => by
    generalize Text.parseHexByte? w = r
    cases r
    · exact steady_run_throw _
    · exact steady_run_pure _) ws

theorem steady_lengthWords (ws : List String) : Steady Simulator.Sound (lengthWords ws).run := by
  unfold lengthWords
  split
  · rename_i w
    generalize Text.parseInt? w = r
    cases r
    · exact steady_run_throw _
    · exact steady_run_ite (steady_run_pure _) (steady_run_throw _)
  · exact steady_run_throw _

theorem steady_oneShotOn (l : Lane) : Steady Simulator.Sound (oneShotOn l).run := by
  unfold oneShotOn
  refine steady_run_bind steady_run_get fun st => ?_
  split
  · exact steady_run_pure _
  · exact steady_run_throw _

theorem run_oneShotOn_bind (l : Lane) (k : OneShot → Command β) (s : Simulator) :
    (oneShotOn l >>= k).run.run s =
      match l.entry s.oneShots with
      | some o => (k o).run.run s
      | none => .ok (.error ("no transfer on channel " ++ toString l.number)) s := by
  unfold oneShotOn
  rw [bind_assoc, run_get_bind]
  cases l.entry s.oneShots <;> rfl

/-- A steady lift followed by a report ends reporting, or with a fault that is not `spins`. -/
theorem run_lift_report {x : Sim α} (hx : Steady Simulator.Sound x) (rep : α → Report)
    {s : Simulator} (hs : s.Sound) :
    ∃ s', s'.Sound ∧ ((ExceptT.lift x >>= fun a => report (rep a)).run.run s = .ok (.ok ()) s' ∨
      ∃ e, e ≠ .spins ∧ (ExceptT.lift x >>= fun a => report (rep a)).run.run s = .error e s') := by
  obtain ⟨hI, hne⟩ := hx s hs
  rw [run_lift_bind]
  cases hr : x.run s with
  | ok a s₁ =>
    rw [hr, finalState_ok] at hI
    exact ⟨{ s₁ with last := (rep a).result, printed := s₁.printed.push ((rep a).render s₁.line) },
      hI.of_eq rfl rfl, Or.inl rfl⟩
  | error e s₁ =>
    rw [hr, finalState_error] at hI
    rw [hr] at hne
    exact ⟨s₁, hI, Or.inr ⟨e, fun he => hne s₁ (by rw [he]), rfl⟩⟩

end Words

/-! ## Starting a one-shot transfer -/

/-- A one-shot transfer that begins is the newest transfer, on its lane and in flight. -/
theorem start_ok_transfer {dir : Direction} {l : Lane} {buf periph t : Nat} {m m' : Machine}
    (h : (Transfer.start dir l buf periph).run m = .ok (.ok t) m') :
    ∃ tr, m'.transfers[t]? = some tr ∧ tr.lane = l ∧ tr.released = false := by
  rw [Transfer.run_start] at h
  split at h
  · cases h
  split at h
  · cases h
  split at h
  · cases h
  split at h
  · cases h
  split at h
  · cases h
  · cases h
    exact ⟨_, Array.getElem?_push_size, rfl, rfl⟩

theorem steady_startOneShot (l : Lane) (dir : Direction) (items : List Nat) (cmd : String) :
    Steady Simulator.Sound (startOneShot l dir items cmd).run := by
  unfold startOneShot
  refine steady_run_bind (steady_act (tame_addBuffer _)) fun buf =>
    steady_run_bind (steady_act (tame_addPeripheral _)) fun p => ?_
  intro s hs
  have hc := tame_startTransfer dir l buf p s.machine
  rw [run_act_bind]
  cases hr : (Transfer.start dir l buf p).run s.machine with
  | error e m =>
    rw [hr] at hc
    exact ⟨hs.retains hc.2, fun s' heq => hc.1 (by cases heq; rfl)⟩
  | ok r m =>
    rw [hr] at hc
    dsimp only
    cases r with
    | error e => exact steady_run_bind (steady_run_pure _) (fun _ => steady_report _) _ (hs.retains hc)
    | ok t =>
      -- the transfer that began is listed for its lane
      rw [run_modify_bind]
      exact steady_report _ _ ((hs.retains hc).record l _ (start_ok_transfer hr))

/-! ## The wait line -/

/-- A wait that returns has made reads and handed its transfer back: it scheduled nothing
and changed no other transfer. -/
theorem wait_ok_final {id : Nat} {s m : Machine} {r : Handback × Option Refusal}
    (h : (Transfer.wait id).run s = .ok r m) :
    (∀ x ∈ m.bank.schedule, x ∈ s.bank.schedule) ∧
      m.transfers = s.transfers.modify id fun t => { t with released := true } := by
  rw [Transfer.run_wait] at h
  split at h
  · cases h
  rename_i t _
  split at h
  · cases h
  obtain ⟨k, p, hk⟩ := Transfer.spin_final t.lane (s.bank.schedule.length + 1) s
  split at h
  · rename_i s' heq
    cases h
    rw [heq, finalState_ok] at hk
    subst hk
    exact ⟨fun x hx => Bank.mem_schedule_of_readN hx, rfl⟩
  · rename_i r' s' heq
    cases h
    rw [heq, finalState_ok] at hk
    subst hk
    exact ⟨fun x hx => Bank.mem_schedule_of_readN hx, rfl⟩
  · cases h

/-- A wait line on a lane that lists no one-shot transfer is refused. -/
theorem run_waitLine_none {s : Simulator} {l : Lane} (ho : l.entry s.oneShots = none)
    (args : List String) :
    (laneCommand "wait" l args).run.run s =
      .ok (.error ("no transfer on channel " ++ toString l.number)) s := by
  unfold laneCommand
  simp only []
  rw [run_oneShotOn_bind, ho]

/-- A wait line is refused, with the state as it was, when the simulator's test fails. -/
theorem run_waitLine_refused {s : Simulator} {l : Lane} {o : OneShot}
    (ho : l.entry s.oneShots = some o) (hset : settles s.machine.bank l = false)
    (args : List String) :
    (laneCommand "wait" l args).run.run s = .ok (.error ("channel " ++ toString l.number ++
      " never completes: raise complete or error first")) s := by
  unfold laneCommand
  simp only []
  rw [run_oneShotOn_bind, ho]
  dsimp only
  rw [run_get_bind]
  simp only [hset, Bool.false_eq_true, if_false]
  rfl

/-- A wait line at a sound state where the simulator's test holds: the wait returns, its
transfer comes off the list, and the line reports, unless the borrow of the buffer breaks
off, never with `spins`. -/
theorem waitLine_of_settles {s : Simulator} (hs : s.Sound) {l : Lane} {o : OneShot}
    (ho : l.entry s.oneShots = some o) (hset : settles s.machine.bank l = true)
    (args : List String) :
    ∃ s', s'.Sound ∧ ((laneCommand "wait" l args).run.run s = .ok (.ok ()) s' ∨
      ∃ e, e ≠ .spins ∧ (laneCommand "wait" l args).run.run s = .error e s') := by
  obtain ⟨t, ht, hl, hlive⟩ := hs.inFlight l o ho
  -- the test is the wait's exit condition, for every scheduled event has a name
  have hfin : s.machine.bank.Finishes t.lane := by
    rw [hl]
    exact (settles_iff_finishes_of_named _ _ fun x hx _ => hs.named x hx).mp hset
  obtain ⟨r, m, hr⟩ := (Transfer.wait_returns_iff_finishes ht hlive).1.mpr hfin
  obtain ⟨hsched, htr⟩ := wait_ok_final hr
  unfold laneCommand
  simp only []
  rw [run_oneShotOn_bind, ho]
  dsimp only
  rw [run_get_bind]
  simp only [hset, if_true]
  rw [run_act_bind, hr]
  dsimp only
  rw [run_modify_bind]
  exact run_lift_report (steady_borrow (fun x hx => steady_within hx) fun _ => steady_pure _) _
    (hs.release ho hsched htr)

theorem steady_waitLine (l : Lane) (args : List String) :
    Steady Simulator.Sound (laneCommand "wait" l args).run := by
  intro s hs
  cases ho : l.entry s.oneShots with
  | none =>
    rw [run_waitLine_none ho]
    exact ⟨hs, nofun⟩
  | some o =>
    cases hset : settles s.machine.bank l
    · rw [run_waitLine_refused ho hset]
      exact ⟨hs, nofun⟩
    · obtain ⟨s', hs', h | ⟨e, he, h⟩⟩ := waitLine_of_settles hs ho hset args
      · rw [h]
        exact ⟨hs', nofun⟩
      · rw [h]
        exact ⟨hs', fun s'' heq => he (by cases heq; rfl)⟩

/-! ## Every command -/

theorem steady_run_modify {f : Simulator → Simulator}
    (hf : ∀ s, Simulator.Sound s → Simulator.Sound (f s)) :
    Steady Simulator.Sound (modify f : Command PUnit).run :=
  steady_run_lift (steady_modify hf)

/-- A fault raised in a command stops it there. -/
theorem steady_run_throwThe_bind {α β : Type} {f : Fault} (hf : f ≠ .spins) (k : α → Command β) :
    Steady Simulator.Sound (throwThe Fault f >>= k).run :=
  fun _ hs => ⟨hs, fun _ heq => hf (by cases heq; rfl)⟩

/-- Making a ring fails only for its length. -/
theorem make_error_ne_spins {w : Width} {items : Array UInt32} {f : Fault}
    (h : Ring.make w items = .error f) : f ≠ .spins := by
  unfold Ring.make at h
  split at h
  · cases h
    exact nofun
  · cases h

/-- Scheduling an event with a name keeps every scheduled event named. -/
theorem steady_schedule (polls : Int) (l : Lane) {e : Event} (he : e.name?.isSome = true) :
    Steady Simulator.Sound (act (modifyBank (·.scheduleAfter polls l e))).run := by
  refine steady_run_lift fun s hs => ⟨⟨fun x hx => ?_, hs.inFlight⟩, nofun⟩
  -- the new event is the last one scheduled
  rcases List.mem_append.mp hx with hold | hnew
  · exact hs.named x hold
  · rw [List.mem_singleton.mp hnew]
    exact he

theorem steady_circularCommand (cmd : String) (l : Lane) (args : List String) :
    Steady Simulator.Sound (circularCommand cmd l args).run := by
  unfold circularCommand
  refine steady_run_bind steady_run_get fun st => ?_
  split
  · split
    · -- fill: the half named, then the bytes written into it
      split
      · rename_i half rest
        refine steady_run_bind (steady_bytesWords rest) fun data =>
          steady_run_bind (steady_act (tame_ring _)) fun ring => ?_
        dsimp only
        split
        · exact steady_run_bind (steady_run_pure _) fun _ => steady_act (tame_modifyRing _ _)
        · exact steady_run_bind (steady_run_pure _) fun _ => steady_act (tame_modifyRing _ _)
        · exact steady_run_throw_bind _ _
      · exact steady_run_throw _
    · -- maxread
      split
      · rename_i w
        generalize Text.parseDuration w = d
        cases d
        · exact steady_run_throw _
        · exact steady_act (tame_configureStream _ _)
      · exact steady_run_throw _
    · -- read
      refine steady_run_bind (steady_run_lift (steady_peek (fun x hx => steady_within hx)
        fun _ _ => steady_pure _)) fun o => ?_
      split
      exact steady_report _
    · exact steady_act (tame_pause _)
    · exact steady_act (tame_resume _)
    · exact steady_run_bind (steady_act (tame_stop _)) fun _ =>
        steady_run_bind (steady_run_modify fun _ hs => hs.of_eq rfl rfl) fun _ => steady_report _
    · exact steady_run_throw _
  · exact steady_run_throw _

theorem steady_laneCommand (cmd : String) (l : Lane) (args : List String) :
    Steady Simulator.Sound (laneCommand cmd l args).run := by
  unfold laneCommand
  split
  · exact steady_eventWord_bind _ fun e _ => steady_act (tame_raise l e)
  · exact steady_eventWord_bind _ fun e _ => steady_act (tame_raise l e)
  · exact steady_eventWord_bind _ fun e _ => steady_act (tame_raise l e)
  · -- priority
    split
    · rename_i w
      generalize Priority.ofName? w = r
      cases r
      · exact steady_run_throw _
      · exact steady_act (tame_configure l _)
    · exact steady_run_throw _
  · -- listen
    split
    · exact steady_eventWord_bind _ fun e _ => steady_act (tame_listen l e)
    · exact steady_run_throw _
  · exact steady_run_bind (steady_bytesWords args) fun items => steady_startOneShot l _ items _
  · exact steady_run_bind (steady_lengthWords args) fun n => steady_startOneShot l _ _ _
  · -- deliver
    refine steady_run_bind steady_run_get fun st => ?_
    dsimp only
    split
    · exact steady_run_bind (steady_bytesWords args) fun _ => steady_act (tame_modifyBuffer _ _)
    · exact steady_run_throw _
  · exact steady_run_bind (steady_oneShotOn l) fun o =>
      steady_run_bind (steady_act (tame_poll _)) fun _ =>
        steady_run_bind (steady_act (tame_transferRemaining _)) fun _ => steady_report _
  · exact steady_waitLine l args
  · -- circ: a ring of the length, a peripheral, and a circular transfer on them
    refine steady_run_bind (steady_lengthWords args) fun n => ?_
    dsimp only
    refine steady_run_ite ?_ ?_
    · exact steady_run_throw_bind _ _
    generalize hmk : Ring.make .w8 ((zeros n).map (·.toUInt32)).toArray = mk
    cases mk with
    | error f => exact steady_run_throwThe_bind (make_error_ne_spins hmk) _
    | ok ring =>
      refine steady_run_bind (steady_run_pure ring) fun ring => steady_run_bind
        (steady_act (tame_addRing _)) fun rh => steady_run_bind (steady_act (tame_addPeripheral _))
          fun p => steady_run_bind (steady_act (tame_startStream _ _ _)) fun r => ?_
      split
      · exact steady_run_bind (steady_run_modify fun _ hs => hs.of_eq rfl rfl) fun _ =>
          steady_report _
      · exact steady_report _
  · exact steady_circularCommand _ l args

/-- Every line's command keeps the simulator sound and never gives up on a wait. -/
theorem steady_exec (cmd : String) (args : List String) :
    Steady Simulator.Sound (exec cmd args).run := by
  unfold exec
  split
  · -- expect
    dsimp only
    exact steady_run_bind steady_run_get fun _ =>
      steady_run_ite (steady_run_throw _) (steady_run_pure _)
  · exact steady_run_bind steady_run_get fun _ => steady_report _
  · -- after: the only command that schedules, and only named events
    split
    · rename_i p e ch
      generalize (Text.parseInt? p).filter (1 ≤ ·) = r
      cases r
      · exact steady_run_throw _
      · exact steady_eventWord_bind e fun ev hev =>
          steady_run_bind (steady_laneWord ch) fun l => steady_schedule _ l hev
    · exact steady_run_throw _
  · -- a command on a lane, named by the first word after it
    dsimp only
    refine steady_run_ite ?_ ?_
    · split
      · exact steady_run_bind (steady_laneWord _) fun l => steady_laneCommand _ l _
      · exact steady_run_throw _
    · exact steady_run_throw_bind _ _

/-! ## Whole scripts -/

theorem steady_runLines (split : String → Except String (List String)) :
    ∀ lines : List String, Steady Simulator.Sound (runLines split lines)
  | [] => steady_pure _
  | text :: rest => by
    unfold runLines
    refine steady_bind (steady_modify fun _ hs => hs.of_eq rfl rfl) fun _ =>
      steady_bind steady_get fun st => ?_
    dsimp only
    generalize split text = w
    cases w with
    | error e => exact steady_pure _
    | ok ws =>
      cases ws with
      | nil => exact steady_runLines split rest
      | cons cmd args =>
        refine steady_bind (steady_exec cmd args) fun r => ?_
        cases r
        · exact steady_pure _
        · exact steady_runLines split rest

/-- The states a script passes through between its lines: the fresh simulator, then the
state each line leaves when the script goes on. A line without words is only counted. -/
inductive Reaches : Simulator → Prop
  | start : Reaches {}
  | blank {s : Simulator} : Reaches s → Reaches { s with line := s.line + 1 }
  | line {s s' : Simulator} (cmd : String) (args : List String) : Reaches s →
      (exec cmd args).run.run { s with line := s.line + 1 } = .ok (.ok ()) s' → Reaches s'

theorem Reaches.sound {s : Simulator} (h : Reaches s) : s.Sound := by
  induction h with
  | start => exact Simulator.Sound.start
  | blank _ ih => exact ih.of_eq rfl rfl
  | @line s s' cmd args _ hrun ih =>
    have hs := (steady_exec cmd args { s with line := s.line + 1 } (ih.of_eq rfl rfl)).1
    rw [hrun] at hs
    exact hs

/-- No script ends with the fault of a wait that would never return, whatever splits its
lines. -/
theorem runScript_fault_ne_spins (split : String → Except String (List String)) (text : String) :
    (runScript split text).fault ≠ some .spins := by
  have h := steady_runLines split (readLines text).lines {} Simulator.Sound.start
  unfold runScript
  dsimp only
  cases hr : (runLines split (readLines text).lines).run {} with
  | ok err s => nofun
  | error f s =>
    rw [hr] at h
    intro hf
    cases hf
    exact h.2 s rfl

/-! ## The test before a wait is exact -/

/-- At a sound state with a one-shot transfer listed on the lane, the simulator's test holds
exactly when a wait on that transfer returns. -/
theorem settles_iff_wait_returns {s : Simulator} (hs : s.Sound) {l : Lane} {o : OneShot}
    (ho : l.entry s.oneShots = some o) :
    settles s.machine.bank l = true ↔ ∃ r m, (Transfer.wait o.transfer).run s.machine = .ok r m := by
  obtain ⟨t, ht, hl, hlive⟩ := hs.inFlight l o ho
  rw [settles_iff_finishes_of_named _ _ fun x hx _ => hs.named x hx, ← hl]
  exact ((Transfer.wait_returns_iff_finishes ht hlive).1).symm

/-- At a sound state with a one-shot transfer listed on the lane, the wait line is refused
with its message exactly when the wait would not return. -/
theorem waitLine_refused_iff {s : Simulator} (hs : s.Sound) {l : Lane} {o : OneShot}
    (ho : l.entry s.oneShots = some o) (args : List String) :
    (laneCommand "wait" l args).run.run s = .ok (.error ("channel " ++ toString l.number ++
        " never completes: raise complete or error first")) s ↔
      ¬ ∃ r m, (Transfer.wait o.transfer).run s.machine = .ok r m := by
  rw [← settles_iff_wait_returns hs ho, Bool.not_eq_true]
  constructor
  · intro h
    cases hset : settles s.machine.bank l
    · rfl
    · -- a line that runs the wait reports or breaks off; it does not refuse
      obtain ⟨s', -, hr | ⟨e, -, hr⟩⟩ := waitLine_of_settles hs ho hset args
      · rw [hr] at h
        cases h
      · rw [hr] at h
        cases h
  · exact fun hset => run_waitLine_refused ho hset args

/-- The simulator's test before a wait line is exactly the wait's exit condition, at every
state a script reaches: it holds exactly when the wait returns, which is after the reads up
to the first that finds the lane finished; the line is refused exactly when the wait would
not return; and no script ends with the fault of a wait that never returns. -/
theorem settles_is_wait_exit :
    (∀ (b : Bank) (l : Lane), settles b l = true ↔
      b.finished l = true ∨ ∃ x ∈ b.schedule, x.lane = l ∧ x.event ≠ .half) ∧
    (∀ (b : Bank) (l : Lane), (∀ x ∈ b.schedule, x.lane = l → x.event.name?.isSome = true) →
      (settles b l = true ↔ b.Finishes l)) ∧
    (∀ s, Reaches s → ∀ (l : Lane) (o : OneShot), l.entry s.oneShots = some o →
      (settles s.machine.bank l = true ↔
        ∃ r m, (Transfer.wait o.transfer).run s.machine = .ok r m)) ∧
    (∀ s, Reaches s → ∀ (l : Lane) (o : OneShot), l.entry s.oneShots = some o → ∀ k,
      (s.machine.bank.readN (k + 1)).finished l = true →
      (∀ j < k, (s.machine.bank.readN (j + 1)).finished l = false) →
      ∃ r m, (Transfer.wait o.transfer).run s.machine = .ok r m ∧
        m.bank.reads = s.machine.bank.reads + (k + 1)) ∧
    (∀ s, Reaches s → ∀ (l : Lane) (o : OneShot) (args : List String), l.entry s.oneShots = some o →
      ((laneCommand "wait" l args).run.run s = .ok (.error ("channel " ++ toString l.number ++
          " never completes: raise complete or error first")) s ↔
        ¬ ∃ r m, (Transfer.wait o.transfer).run s.machine = .ok r m)) ∧
    (∀ split text, (runScript split text).fault ≠ some .spins) := by
  refine ⟨settles_iff, settles_iff_finishes_of_named,
    fun s h l o ho => settles_iff_wait_returns h.sound ho, ?_,
    fun s h l o args ho => waitLine_refused_iff h.sound ho args, runScript_fault_ne_spins⟩
  intro s h l o ho k hk hfirst
  obtain ⟨t, ht, hl, hlive⟩ := h.sound.inFlight l o ho
  subst hl
  obtain ⟨m, hm, hreads⟩ := Transfer.wait_of_first_finish ht hlive hk hfirst
  exact ⟨_, m, hm, hreads⟩

/-- After a send on lane 1 with nothing booked, the wait line is refused, so the wait would
never return; once transfer-complete is booked two reads ahead, it returns after two reads. -/
theorem send_then_booked_complete_settles :
    ∃ s₁, (exec "tx" ["1", "01", "02"]).run.run { ({} : Simulator) with line := 1 } =
        .ok (.ok ()) s₁ ∧ ∃ o, (⟨0⟩ : Lane).entry s₁.oneShots = some o ∧
      (¬ ∃ r m, (Transfer.wait o.transfer).run s₁.machine = .ok r m) ∧
      ∃ s₂, (exec "after" ["2", "complete", "1"]).run.run { s₁ with line := s₁.line + 1 } =
        .ok (.ok ()) s₂ ∧ (⟨0⟩ : Lane).entry s₂.oneShots = some o ∧
        ∃ r m, (Transfer.wait o.transfer).run s₂.machine = .ok r m ∧
          m.bank.reads = s₂.machine.bank.reads + (1 + 1) := by
  obtain ⟨-, -, -, hreads, hrefused, -⟩ := settles_is_wait_exit
  obtain ⟨s₁, h₁, o, he₁, hline, s₂, h₂, he₂, hdue, hnot⟩ :
      ∃ s₁, (exec "tx" ["1", "01", "02"]).run.run { ({} : Simulator) with line := 1 } =
        .ok (.ok ()) s₁ ∧ ∃ o, (⟨0⟩ : Lane).entry s₁.oneShots = some o ∧
      (laneCommand "wait" ⟨0⟩ []).run.run s₁ = .ok (.error ("channel " ++ toString (⟨0⟩ : Lane).number ++
          " never completes: raise complete or error first")) s₁ ∧
      ∃ s₂, (exec "after" ["2", "complete", "1"]).run.run { s₁ with line := s₁.line + 1 } =
        .ok (.ok ()) s₂ ∧ (⟨0⟩ : Lane).entry s₂.oneShots = some o ∧
        (s₂.machine.bank.readN (1 + 1)).finished ⟨0⟩ = true ∧
        (s₂.machine.bank.readN (0 + 1)).finished ⟨0⟩ = false :=
    ⟨_, rfl, _, rfl, rfl, _, rfl, rfl, rfl, rfl⟩
  have r₁ := Reaches.line "tx" ["1", "01", "02"] .start h₁
  have r₂ := Reaches.line "after" ["2", "complete", "1"] r₁ h₂
  refine ⟨s₁, h₁, o, he₁, (hrefused s₁ r₁ ⟨0⟩ o [] he₁).mp hline, s₂, h₂, he₂,
    hreads s₂ r₂ ⟨0⟩ o he₂ 1 hdue fun j hj => ?_⟩
  obtain rfl : j = 0 := by omega
  exact hnot

end DmaOwnership.Script
