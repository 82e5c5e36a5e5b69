import DmaOwnership.Transfer
import DmaOwnership.Proofs.Spec.Channel
import DmaOwnership.Proofs.Bank.Reads
/-!
# What the operations of a one-shot transfer do

One equation for each operation of a one-shot transfer. A transfer's handle is looked up
first: a handle that names nothing, or a transfer already released, is a fault that
leaves the machine as it was.

A wait is a loop of status reads. `spin_final` says all a wait's loop can do to the
machine: make some number of reads of the bank and count its polls. What follows
the loop is `Machine.handBack`: the lane, buffer and peripheral handed back. `wait_final`
puts the two together: every state a wait can end in, which the invariants of a wait are
proved from.
-/

namespace DmaOwnership.Transfer

open Machine

/-- The transfer with the handle, unless it names nothing or was released. -/
theorem run_active (id : Nat) (s : Machine) : (Transfer.active id).run s =
    match s.transfers[id]? with
    | some t => if t.released then .error .transferReleased s else .ok t s
    | none => .error .nilReference s := by
  cases h : s.transfers[id]? with
  | none => simp only [Transfer.active, EStateM.run_bind, Machine.run_transfer, h]
  | some t =>
    by_cases hr : t.released
    · simp only [Transfer.active, EStateM.run_bind, Machine.run_transfer, h, hr, if_true]; rfl
    · simp only [Transfer.active, EStateM.run_bind, Machine.run_transfer, h, hr]; rfl

/-- One status read, answered as an error or whether the lane is complete. -/
theorem run_check (l : Lane) (s : Machine) : (check l).run s =
    .ok (if (LaneStatus.ofWord l s.bank.status.1).error then .error .transferError
      else .ok (LaneStatus.ofWord l s.bank.status.1).complete) s.afterRead := rfl

/-- Starting a transfer checks, in order, that the lane is free, the buffer's length, and
that the buffer can be locked; only then does it change anything. A handle of a
peripheral that names nothing breaks off after the buffer was locked. -/
theorem run_start (dir : Direction) (l : Lane) (buf periph : Nat) (s : Machine) :
    (start dir l buf periph).run s =
      if s.inUse l then .ok (.error .inUse) s else
      match s.buffers[buf]? with
      | none => .error .nilReference s
      | some b =>
        if b.length = 0 ∨ b.length > maxCount then .ok (.error .badLength) s else
        match dir.lock b with
        | none => .ok (.error .inUse) s
        | some b' =>
          match s.peripherals[periph]? with
          | none => .error .nilReference { s with buffers := s.buffers.modify buf fun _ => b' }
          | some p =>
            let w := Lane.transferWord (s.laneState l)
              (Control.withWidth (Control.withCircular (Control.withFromMemory 0 dir.fromMemory) false)
                b.width)
            .ok (.ok s.transfers.size) { s with
              buffers := s.buffers.modify buf fun _ => b'
              bank := (s.bank.program l p.address (.buffer buf) b.length.toUInt32 w).setControl l
                (Control.withEnable w true)
              lanes := l.setEntry s.lanes { s.laneState l with owned := true }
              peripherals := s.peripherals.modify periph Peripheral.enable
              counters := { s.counters with starts := s.counters.starts + 1 }
              transfers := s.transfers.push ⟨l, buf, periph, dir, false⟩ } := by
  by_cases hu : s.inUse l
  · simp only [start, Lane.run_inUse, EStateM.run_bind, hu, if_true]; rfl
  simp only [start, EStateM.run_bind, Lane.run_inUse, hu, Bool.false_eq_true, if_false, Machine.run_buffer]
  cases hb : s.buffers[buf]? with
  | none => rfl
  | some b =>
    simp only []
    by_cases hl : b.length = 0 ∨ b.length > maxCount
    · simp only [hl, if_true]; rfl
    simp only [hl, if_false]
    cases hk : dir.lock b with
    | none => rfl
    | some b' =>
      simp only [Machine.modifyBuffer, EStateM.run_bind, EStateM.run_modify, Machine.run_peripheral]
      cases hp : s.peripherals[periph]? with
      | none => rfl
      | some p =>
        simp only [Lane.run_program, Lane.run_setOwned, Lane.run_setEnable,
          Machine.modifyPeripheral, Machine.modifyCounters, EStateM.run_modify, EStateM.run_modifyGet,
          EStateM.run_pure, Bank.control_program]
        rfl

/-- A start that is refused, because the lane or the buffer is held or the buffer's
length is wrong, leaves the machine as it was. -/
theorem start_refused {dir : Direction} {l : Lane} {buf periph : Nat} {s s' : Machine}
    {r : Refusal} (h : (start dir l buf periph).run s = .ok (.error r) s') : s' = s := by
  rw [run_start] at h
  split at h
  · cases h
    rfl
  split at h
  · cases h
  split at h
  · cases h
    rfl
  split at h
  · cases h
    rfl
  split at h
  · cases h
  · cases h

/-- Stepping over `k` reads counts them, and as many polls, and raises nothing. -/
theorem run_skipReads (k : Nat) (s : Machine) : (skipReads k).run s =
    .ok () { s with bank := { s.bank with reads := s.bank.reads + k },
                    counters := { s.counters with polls := s.counters.polls + k.toUInt32 } } := rfl

/-- One loop of a wait. Unless the lane has already finished, it steps over the reads at
which nothing falls due (and gives up when nothing is scheduled at all); then it counts a
poll and reads the status word. -/
theorem run_spin_succ (l : Lane) (fuel : Nat) (s : Machine) :
    (spin l (fuel + 1)).run s =
      let running := !(LaneStatus.ofWord l s.bank.flags).error &&
        !(LaneStatus.ofWord l s.bank.flags).complete
      if running && s.bank.schedule.isEmpty then .error .spins s else
      let q := if running then s.bank.quietReads else 0
      let s' : Machine := { s with
        bank := (s.bank.readN q).status.2
        counters := { s.counters with polls := s.counters.polls + q.toUInt32 + 1 } }
      let st := LaneStatus.ofWord l (s.bank.readN q).status.1
      if st.error then .ok (.error .transferError) s'
      else if st.complete then .ok (.ok ()) s'
      else (spin l fuel).run s' := by
  simp only [spin, EStateM.run_bind, EStateM.run_get]
  by_cases hr : (!(LaneStatus.ofWord l s.bank.flags).error &&
      !(LaneStatus.ofWord l s.bank.flags).complete) = true
  · by_cases he : s.bank.schedule.isEmpty = true
    · simp only [hr, he, if_true, Bool.and_self]
      rfl
    · -- the quiet reads stepped over are the reads a wait would have made
      simp only [hr, he, if_true, if_false, Bool.true_and, Bool.false_eq_true, EStateM.run_bind,
        run_skipReads, Machine.modifyCounters, EStateM.run_modify, run_check,
        Bank.readN_of_le_quietReads _ (Nat.le_refl _)]
      generalize LaneStatus.ofWord l _ = st
      cases st.error <;> cases st.complete <;> rfl
  · simp only [hr, if_false, Bool.false_and, Bool.false_eq_true, EStateM.run_bind,
      Machine.modifyCounters, EStateM.run_modify, run_check, Bank.readN_zero,
      Nat.toUInt32_eq, UInt32.reduceOfNat, UInt32.add_zero]
    generalize LaneStatus.ofWord l _ = st
    cases st.error <;> cases st.complete <;> rfl

/-- A wait's reads change the machine only as that many reads of the bank do, and its
polls only by their count. -/
theorem spin_final (l : Lane) (fuel : Nat) (s : Machine) :
    ∃ k p, finalState ((spin l fuel).run s) =
      { s with bank := s.bank.readN k, counters := { s.counters with polls := p } } := by
  induction fuel generalizing s with
  | zero => exact ⟨0, s.counters.polls, rfl⟩
  | succ fuel ih =>
    rw [run_spin_succ]
    dsimp only
    split
    · exact ⟨0, s.counters.polls, rfl⟩
    generalize (if (!(LaneStatus.ofWord l s.bank.flags).error &&
      !(LaneStatus.ofWord l s.bank.flags).complete) = true then s.bank.quietReads else 0) = q
    obtain ⟨k, p, hk⟩ := ih { s with
      bank := (s.bank.readN q).status.2
      counters := { s.counters with polls := s.counters.polls + q.toUInt32 + 1 } }
    split
    · exact ⟨q + 1, _, rfl⟩
    split
    · exact ⟨q + 1, _, rfl⟩
    · refine ⟨q + 1 + k, p, ?_⟩
      rw [hk, ← Bank.readN_add, Bank.readN_succ]

/-- Asking whether a transfer is done is one status read. -/
theorem run_isDone (id : Nat) (s : Machine) : (isDone id).run s =
    match s.transfers[id]? with
    | none => .error .nilReference s
    | some t =>
      if t.released then .error .transferReleased s
      else (check t.lane).run s := by
  simp only [isDone, EStateM.run_bind, run_active]
  cases s.transfers[id]? with
  | none => rfl
  | some t =>
    dsimp only
    cases t.released <;> rfl

/-- A poll is one status read, answered as a refusal unless the transfer is complete. -/
theorem run_poll (id : Nat) (s : Machine) : (poll id).run s =
    match s.transfers[id]? with
    | none => .error .nilReference s
    | some t =>
      if t.released then .error .transferReleased s
      else
        let st := LaneStatus.ofWord t.lane s.bank.status.1
        .ok (if st.error then some .transferError else if st.complete then none else some .wouldBlock)
          s.afterRead := by
  simp only [poll, EStateM.run_bind, run_isDone]
  cases s.transfers[id]? with
  | none => rfl
  | some t =>
    cases hr : t.released
    · simp only [hr, Bool.false_eq_true, if_false, run_check]
      generalize LaneStatus.ofWord t.lane _ = st
      cases st.error <;> cases st.complete <;> rfl
    · simp only [hr, if_true]

/-- The items a transfer has left are read off its lane's count and change nothing. -/
theorem run_remaining (id : Nat) (s : Machine) : (remaining id).run s =
    match s.transfers[id]? with
    | none => .error .nilReference s
    | some t =>
      if t.released then .error .transferReleased s
      else .ok ((s.bank.count t.lane &&& 0xFFFF).toNat) s := by
  simp only [remaining, EStateM.run_bind, run_active]
  cases s.transfers[id]? with
  | none => rfl
  | some t =>
    dsimp only
    cases t.released <;> rfl

end Transfer

/-- The machine after a wait hands back transfer `id`, which ran on `t.lane`: the flags in
`mask` cleared, the lane disabled and free again, the peripheral told to stop, the buffer
unlocked and the transfer released, with the counters `c`. -/
def Machine.handBack (s : Machine) (id : Nat) (t : Transfer) (mask : UInt32) (c : Counters) :
    Machine :=
  { s with
    bank := (s.bank.clear mask).setControl t.lane (Control.withEnable (s.bank.control t.lane) false)
    peripherals := s.peripherals.modify t.peripheral Peripheral.disable
    buffers := s.buffers.modify t.buffer Buffer.unlock
    counters := c
    transfers := s.transfers.modify id fun t => { t with released := true }
    lanes := t.lane.setEntry s.lanes { s.laneState t.lane with owned := false } }

namespace Transfer

/-- A wait reads the status word until the transfer settles, then hands its parts back:
after a completion with only the complete flag cleared, after an error with all four. -/
theorem run_wait (id : Nat) (s : Machine) : (wait id).run s =
    match s.transfers[id]? with
    | none => .error .nilReference s
    | some t =>
      if t.released then .error .transferReleased s else
      match (spin t.lane (s.bank.schedule.length + 1)).run s with
      | .ok (.ok ()) s' => .ok (⟨t.lane, t.buffer, t.peripheral⟩, none)
          (s'.handBack id t t.lane.completeFlag
            { s'.counters with completions := s'.counters.completions + 1 })
      | .ok (.error r) s' => .ok (⟨t.lane, t.buffer, t.peripheral⟩, some r)
          (s'.handBack id t t.lane.flags (s'.counters.record r))
      | .error e s' => .error e s' := by
  simp only [wait, EStateM.run_bind, run_active]
  cases s.transfers[id]? with
  | none => rfl
  | some t =>
    cases hr : t.released
    · simp only [hr, Bool.false_eq_true, if_false, EStateM.run_get]
      cases (spin t.lane (s.bank.schedule.length + 1)).run s with
      | ok r s' =>
        cases r with
        | ok u => rfl
        | error r => rfl
      | error e s' => rfl
    · simp only [hr, if_true]

/-- Where a wait ends: where it began, when the handle names nothing or a transfer already
handed back; otherwise after some status reads with the polls counted, and, when the loop
returns, with the transfer handed back and its lane's complete flag, or all its flags,
cleared. -/
theorem wait_final (id : Nat) (s : Machine) :
    finalState ((wait id).run s) = s ∨
      ∃ t k p, s.transfers[id]? = some t ∧ t.released = false ∧
        (finalState ((wait id).run s) =
            { s with bank := s.bank.readN k, counters := { s.counters with polls := p } } ∨
          ∃ mask c, (mask = t.lane.completeFlag ∨ mask = t.lane.flags) ∧
            finalState ((wait id).run s) = Machine.handBack
              { s with bank := s.bank.readN k, counters := { s.counters with polls := p } }
              id t mask c) := by
  rw [run_wait]
  cases ht : s.transfers[id]? with
  | none => exact Or.inl rfl
  | some t =>
    dsimp only
    cases hr : t.released
    case true => exact Or.inl rfl
    simp only [Bool.false_eq_true, if_false]
    -- the loop's reads are all it changes before the hand-back
    obtain ⟨k, p, hk⟩ := spin_final t.lane (s.bank.schedule.length + 1) s
    refine Or.inr ⟨t, k, p, rfl, hr, ?_⟩
    cases hsp : (spin t.lane (s.bank.schedule.length + 1)).run s with
    | ok v s' =>
      rw [hsp, finalState_ok] at hk
      subst hk
      cases v with
      | ok u => exact Or.inr ⟨_, _, Or.inl rfl, rfl⟩
      | error r => exact Or.inr ⟨_, _, Or.inr rfl, rfl⟩
    | error e s' =>
      rw [hsp, finalState_error] at hk
      subst hk
      exact Or.inl rfl

/-- The flags a wait's hand-back clears lie in the transfer's own lane. -/
theorem agreeOff_clear_handBack {l : Lane} {mask : UInt32}
    (h : mask = l.completeFlag ∨ mask = l.flags) (b : Bank) : Bank.AgreeOff l (b.clear mask) b := by
  rcases h with rfl | rfl
  · exact Bank.agreeOff_clear_completeFlag b l
  · exact Bank.agreeOff_clear_flags b l

end DmaOwnership.Transfer