import DmaOwnership.Stream
import DmaOwnership.Proofs.Spec.Channel
/-!
# What the operations of a circular transfer do

One equation for each operation of a circular transfer. A read is split as the code splits
it: the checks before the callback (`run_takeHalf`), the callback, and the checks after
it (`run_giveBack`); `run_peek` puts the three together.

A ring that is not free is being filled, one half at a time; the half the engine fills
is the half its reader waits for (`Phase.waiting`). The engine reports a filled half by
the lane's half flag for the first half and its complete flag for the second
(`Lane.filledFlag`, `LaneStatus.filled`).
-/

namespace DmaOwnership

/-- The half the engine fills in the phase, which is the half the reader waits for;
nothing for a free ring. -/
def Phase.waiting : Phase → Option Half
  | .free => none
  | .fillingFirst => some .first
  | .fillingSecond => some .second

/-- The phase of a ring while the engine fills half `h`. -/
def Half.filling : Half → Phase
  | .first => .fillingFirst
  | .second => .fillingSecond

@[simp] theorem Half.waiting_filling (h : Half) : h.filling.waiting = some h := by
  cases h <;> rfl

@[simp] theorem Half.other_other (h : Half) : h.other.other = h := by
  cases h <;> rfl

/-- The flag the engine raises on lane `l` when it has filled half `h`. -/
def Lane.filledFlag (l : Lane) : Half → UInt32
  | .first => l.halfFlag
  | .second => l.completeFlag

/-- Whether a status read saw the engine's flag for half `h`. -/
def LaneStatus.filled (st : LaneStatus) : Half → Bool
  | .first => st.half
  | .second => st.complete

/-- The machine with a refusal counted. -/
def Machine.recorded (s : Machine) (r : Refusal) : Machine :=
  { s with counters := s.counters.record r }

namespace Stream

open Machine

variable (id : Nat) (s : Machine)

/-- The circular transfer with the handle, unless it names nothing or was stopped. -/
theorem run_active : (active id).run s =
    match s.streams[id]? with
    | some t => if t.stopped then .error .streamStopped s else .ok t s
    | none => .error .nilReference s := by
  cases h : s.streams[id]? with
  | none => simp only [active, EStateM.run_bind, Machine.run_stream, h]
  | some t =>
    cases hs : t.stopped <;> simp only [active, EStateM.run_bind, Machine.run_stream, h, hs,
      Bool.false_eq_true, if_true, if_false] <;> rfl

/-- The checks of a read before its callback. After the lookups it makes one status read;
an error, the flag of the half after the reader's ("lapped") or no flag for the reader's
half is a counted refusal. Otherwise it clears only the reader's flag, moves the ring on to
the other half and hands the reader's half out. -/
theorem run_takeHalf : (takeHalf id).run s =
    match s.streams[id]? with
    | none => .error .nilReference s
    | some t =>
      if t.stopped then .error .streamStopped s else
      match s.rings[t.ring]? with
      | none => .error .nilReference s
      | some r =>
        match r.phase.waiting with
        | none => .error .ringFree s
        | some h =>
          let st := LaneStatus.ofWord t.lane s.bank.status.1
          if st.error then .ok (.error .transferError) (s.afterRead.recorded .transferError)
          else if st.filled h.other then .ok (.error .overrun) (s.afterRead.recorded .overrun)
          else if !st.filled h then .ok (.error .wouldBlock) (s.afterRead.recorded .wouldBlock)
          else .ok (.ok (h, r.half h, if 0 < t.maxRead then some s.clock else none))
            { s.afterRead with
              bank := s.afterRead.bank.clear (t.lane.filledFlag h)
              rings := s.rings.modify t.ring fun r => { r with phase := h.other.filling } } := by
  simp only [takeHalf, EStateM.run_bind, run_active]
  cases hs : s.streams[id]? with
  | none => rfl
  | some t =>
    cases hst : t.stopped
    · simp only [hst, Bool.false_eq_true, if_false, Machine.run_ring]
      cases hr : s.rings[t.ring]? with
      | none => rfl
      | some r =>
        cases hp : r.phase
        · simp only [hp, Phase.waiting, if_true]; rfl
        all_goals
          simp only [hp, Phase.waiting, reduceCtorEq, if_false, if_true, EStateM.run_bind,
            Lane.run_readStatus, Half.other, Half.filling, LaneStatus.filled, Lane.filledFlag]
          generalize LaneStatus.ofWord t.lane s.bank.status.1 = st
          obtain ⟨e, h, c⟩ := st
          cases e <;> cases h <;> cases c <;> rfl
    · simp only [hst, if_true]

/-- The checks of a read after its callback held half `h`: one status read, and an overrun
if the engine has filled the other half meanwhile or the reader held the half too long;
otherwise the read is counted. A callback that stopped its own transfer leaves the second
read without a lane: a fault. -/
theorem run_giveBack (h : Half) (start : Option Nat) : (giveBack id h start).run s =
    match s.streams[id]? with
    | none => .error .nilReference s
    | some t =>
      if t.stopped then .error .nilReference s else
      let st := LaneStatus.ofWord t.lane s.bank.status.1
      if st.error then .ok (some .transferError) (s.afterRead.recorded .transferError)
      else if st.filled h.other || tooSlow t.maxRead start s.clock then
        .ok (some .overrun) (s.afterRead.recorded .overrun)
      else .ok none
        { s.afterRead with counters := { s.counters with reads := s.counters.reads + 1 } } := by
  simp only [giveBack, EStateM.run_bind, EStateM.run_get, Machine.run_stream]
  cases hs : s.streams[id]? with
  | none => rfl
  | some t =>
    cases hst : t.stopped
    · simp only [hst, Bool.false_eq_true, if_false, EStateM.run_bind, Lane.run_readStatus]
      generalize LaneStatus.ofWord t.lane s.bank.status.1 = st
      obtain ⟨e, hf, c⟩ := st
      cases h <;> cases e <;> cases hf <;> cases c <;> cases tooSlow t.maxRead start s.clock <;> rfl
    · simp only [hst, if_true]; rfl

/-- A read runs its checks, then the callback on the half handed out, then the checks
after it. -/
theorem run_peek {α : Type} (f : Array UInt32 → Half → Act α) : (peek id f).run s =
    match (takeHalf id).run s with
    | .error e s₁ => .error e s₁
    | .ok (.error r) s₁ => .ok ⟨none, some r⟩ s₁
    | .ok (.ok (h, data, start)) s₁ =>
      match (f data h).run s₁ with
      | .error e s₂ => .error e s₂
      | .ok a s₂ =>
        match (giveBack id h start).run s₂ with
        | .error e s₃ => .error e s₃
        | .ok o s₃ => .ok ⟨some a, o⟩ s₃ := by
  simp only [peek, Act.within_machine, EStateM.run_bind]
  cases (takeHalf id).run s with
  | error e s₁ => rfl
  | ok x s₁ =>
    rcases x with r | ⟨h, data, start⟩
    · rfl
    · simp only [EStateM.run_bind]
      cases (f data h).run s₁ with
      | error e s₂ => rfl
      | ok a s₂ =>
        simp only
        cases (giveBack id h start).run s₂ <;> rfl

/-- A read keeps what its checks and its callback keep. -/
theorem keeps_peek {α : Type} {I : Machine → Prop} {f : Array UInt32 → Half → Act α}
    (htake : Keeps I (takeHalf id)) (hgive : ∀ h start, Keeps I (giveBack id h start))
    (hf : ∀ data h, Keeps I (f data h)) : Keeps I (peek id f) := by
  simp only [peek, Act.within_machine]
  refine keeps_bind htake fun v => ?_
  rcases v with r | ⟨h, data, start⟩
  · exact keeps_pure _
  · exact keeps_bind (hf data h) fun a => keeps_bind (hgive h start) fun o => keeps_pure _

/-- A circular transfer starts as a one-shot transfer does: it checks that the lane is
free, the ring's length and that the ring is free, and only then changes anything. A
handle of a peripheral that names nothing breaks off after the ring was taken. -/
theorem run_start (l : Lane) (ring periph : Nat) : (start l ring periph).run s =
    if s.inUse l then .ok (.error .inUse) s else
    match s.rings[ring]? with
    | none => .error .nilReference s
    | some r =>
      if r.items.size > maxCount then .ok (.error .badLength) s else
      if r.phase ≠ .free then .ok (.error .inUse) s else
      let rings := s.rings.modify ring fun r => { r with phase := .fillingFirst }
      match s.peripherals[periph]? with
      | none => .error .nilReference { s with rings }
      | some p =>
        let w := Lane.transferWord (s.laneState l)
          (Control.withWidth (Control.withCircular (Control.withFromMemory 0 false) true) r.width)
        .ok (.ok s.streams.size) { s with
          rings
          bank := (s.bank.program l p.address (.ring ring) r.items.size.toUInt32 w).setControl l
            (Control.withEnable w true)
          lanes := l.setEntry s.lanes { s.laneState l with owned := true }
          peripherals := s.peripherals.modify periph Peripheral.enable
          counters := { s.counters with starts := s.counters.starts + 1 }
          streams := s.streams.push ⟨l, ring, periph, 0, false, false⟩ } := by
  by_cases hu : s.inUse l
  · simp only [start, Lane.run_inUse, EStateM.run_bind, hu, if_true]; rfl
  simp only [start, EStateM.run_bind, Lane.run_inUse, hu, Bool.false_eq_true, if_false,
    Machine.run_ring]
  cases hr : s.rings[ring]? with
  | none => rfl
  | some r =>
    simp only []
    by_cases hl : r.items.size > maxCount
    · simp only [hl, if_true]; rfl
    by_cases hp : r.phase = .free
    case neg => simp only [hl, hp, ne_eq, not_false_eq_true, if_true, if_false]; rfl
    simp only [hl, hp, ne_eq, not_true_eq_false, if_false, Machine.modifyRing, EStateM.run_bind, EStateM.run_modify,
      Machine.run_peripheral]
    cases hq : s.peripherals[periph]? with
    | none => rfl
    | some p =>
      simp only [Lane.run_program, Lane.run_setOwned, Lane.run_setEnable,
        Machine.modifyPeripheral, Machine.modifyCounters, EStateM.run_modify, EStateM.run_modifyGet,
        EStateM.run_pure, Bank.control_program]
      rfl

/-- Stopping disables the lane and the peripheral, clears the lane's four flags, frees the
ring and the lane, and marks the transfer stopped. -/
theorem run_stop : (stop id).run s =
    match s.streams[id]? with
    | none => .error .nilReference s
    | some t =>
      if t.stopped then .error .streamStopped s else
      .ok ⟨t.lane, t.ring, t.peripheral⟩ { s with
        bank := (s.bank.setControl t.lane (Control.withEnable (s.bank.control t.lane) false)).clear
          t.lane.flags
        peripherals := s.peripherals.modify t.peripheral Peripheral.disable
        rings := s.rings.modify t.ring fun r => { r with phase := .free }
        streams := s.streams.modify id fun t => { t with stopped := true }
        lanes := t.lane.setEntry s.lanes { s.laneState t.lane with owned := false } } := by
  simp only [stop, EStateM.run_bind, run_active]
  cases hs : s.streams[id]? with
  | none => rfl
  | some t =>
    cases hst : t.stopped
    · simp only [hst, Bool.false_eq_true, if_false]; rfl
    · simp only [hst, if_true]

/-- Pausing or resuming sets the lane's enable bit and marks the transfer. -/
theorem run_pause : (pause id).run s =
    match s.streams[id]? with
    | none => .error .nilReference s
    | some t =>
      if t.stopped then .error .streamStopped s else
      .ok () { s with
        bank := s.bank.setControl t.lane (Control.withEnable (s.bank.control t.lane) false)
        streams := s.streams.modify id fun t => { t with paused := true } } := by
  simp only [pause, EStateM.run_bind, run_active]
  cases hs : s.streams[id]? with
  | none => rfl
  | some t =>
    cases hst : t.stopped
    · simp only [hst, Bool.false_eq_true, if_false]; rfl
    · simp only [hst, if_true]

theorem run_resume : (resume id).run s =
    match s.streams[id]? with
    | none => .error .nilReference s
    | some t =>
      if t.stopped then .error .streamStopped s else
      .ok () { s with
        bank := s.bank.setControl t.lane (Control.withEnable (s.bank.control t.lane) true)
        streams := s.streams.modify id fun t => { t with paused := false } } := by
  simp only [resume, EStateM.run_bind, run_active]
  cases hs : s.streams[id]? with
  | none => rfl
  | some t =>
    cases hst : t.stopped
    · simp only [hst, Bool.false_eq_true, if_false]; rfl
    · simp only [hst, if_true]

/-- The items left before the engine wraps are read off the lane's count. -/
theorem run_remaining : (remaining id).run s =
    match s.streams[id]? with
    | none => .error .nilReference s
    | some t =>
      if t.stopped then .error .streamStopped s
      else .ok ((s.bank.count t.lane &&& 0xFFFF).toNat) s := by
  simp only [remaining, EStateM.run_bind, run_active]
  cases hs : s.streams[id]? with
  | none => rfl
  | some t =>
    cases hst : t.stopped
    · simp only [hst, Bool.false_eq_true, if_false]; rfl
    · simp only [hst, if_true]

/-- Setting the longest read changes only the transfer's record, stopped or not. -/
theorem run_configure (maxRead : Int) : (configure id maxRead).run s =
    .ok () { s with streams := s.streams.modify id fun t => { t with maxRead } } := rfl

end Stream

end DmaOwnership
