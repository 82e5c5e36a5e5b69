import Mathlib
import DmaOwnership.Proofs.Transfer.Settle
import DmaOwnership.Proofs.Ownership.Kept
import DmaOwnership.Proofs.Lane.Program
/-!
# What a wait and a stop hand back

A one-shot transfer ends with its wait, a circular one with its stop, and both give their
lane back the same way (`Machine.HandedBack`): the enable bit cleared and every other bit of
the control word kept, the count and both addresses kept, one mask of the lane's flags
cleared and no other flag, the lane no longer held and the peripheral told to stop. A wait
that completes clears the complete flag alone; a wait that fails and a stop clear all four.
The buffer loses exactly the share of its lock that the transfer took (`Direction.unshare`),
and the ring goes free.

After that the handle is dead: every operation on it breaks off with the use-after fault
before it changes anything (`Transfer.Dead`, `Stream.Dead`). Only setting a circular
transfer's longest read still works on a stopped one.
-/

namespace DmaOwnership

/-! ## Clearing a lane's flags -/

namespace Bank

/-- The complete flag is no lane's global flag, so a clear with it does not widen. -/
theorem widenMask_completeFlag (l : Lane) : widenMask l.completeFlag = l.completeFlag := by
  obtain ⟨i⟩ := l
  revert i
  decide

/-- A lane's nibble widens to itself. -/
theorem widenMask_flags (l : Lane) : widenMask l.flags = l.flags := by
  obtain ⟨i⟩ := l
  revert i
  decide

/-- A clear with a mask that does not widen takes away the bits of the mask and no other. -/
theorem flags_clear_of_widenMask {mask : UInt32} (h : widenMask mask = mask) (b : Bank) :
    (b.clear mask).flags = b.flags &&& ~~~mask := by
  show b.flags &&& ~~~(widenMask mask) = _
  rw [h]

end Bank

/-! ## Giving a lane back -/

/-- What giving lane `l` back leaves, from machine `s` to `s'`: the lane's enable bit
cleared and the rest of its registers as they were, the other lanes' registers untouched,
the flags of `mask` cleared and no other flag, the lane no longer held, and peripheral
`periph` told to stop once. -/
structure Machine.HandedBack (s s' : Machine) (l : Lane) (mask : UInt32) (periph : Nat) :
    Prop where
  /-- The lane's registers: only the enable bit changes. -/
  lane : s'.bank.lane l = { s.bank.lane l with control := s.bank.control l &&& ~~~Control.enableBit }
  /-- The other lanes' registers. -/
  others : ∀ m, m ≠ l → s'.bank.lane m = s.bank.lane m
  /-- The status word. -/
  flags : s'.bank.flags = s.bank.flags &&& ~~~mask
  /-- The lane is free again. -/
  owned : (s'.laneState l).owned = false
  /-- The peripheral stops raising requests, and counts the order. -/
  peripherals : s'.peripherals = s.peripherals.modify periph Peripheral.disable

/-- A wait's hand-back gives the transfer's lane back, whatever the counters. -/
theorem Machine.handedBack_handBack (s : Machine) (id : Nat) (t : Transfer) {mask : UInt32}
    (hm : Bank.widenMask mask = mask) (c : Counters) :
    s.HandedBack (s.handBack id t mask c) t.lane mask t.peripheral where
  lane := Bank.lane_setControl_self _ _ _
  others m hm := Bank.lane_modifyLane_of_ne _ _ (Ne.symm hm)
  flags := Bank.flags_clear_of_widenMask hm s.bank
  owned := by
    rw [laneState, handBack]
    exact congrArg LaneState.owned (Lane.entry_setEntry _ _ _)
  peripherals := rfl

/-! ## Dead handles -/

/-- Operation `x` breaks off with fault `e` in machine `s` and leaves it as it was. -/
def BreaksOff {α : Type} (x : Act α) (e : Fault) (s : Machine) : Prop := x.run s = .error e s

/-- Every operation on one-shot transfer `id` breaks off in `s` with the use-after fault. -/
structure Transfer.Dead (s : Machine) (id : Nat) : Prop where
  /-- Asking whether it is done. -/
  isDone : BreaksOff (Transfer.isDone id) .transferReleased s
  /-- Polling it. -/
  poll : BreaksOff (Transfer.poll id) .transferReleased s
  /-- Asking how much it has left. -/
  remaining : BreaksOff (Transfer.remaining id) .transferReleased s
  /-- Waiting for it. -/
  wait : BreaksOff (Transfer.wait id) .transferReleased s

/-- Every operation on circular transfer `id` but setting its longest read breaks off in `s`
with the use-after fault; a read is a peek whose callback ignores the half. -/
structure Stream.Dead (s : Machine) (id : Nat) : Prop where
  /-- Reading it, whatever the callback. -/
  peek : ∀ {α : Type} (f : Array UInt32 → Half → Act α), BreaksOff (Stream.peek id f) .streamStopped s
  /-- Pausing it. -/
  pause : BreaksOff (Stream.pause id) .streamStopped s
  /-- Resuming it. -/
  resume : BreaksOff (Stream.resume id) .streamStopped s
  /-- Asking how much it has left. -/
  remaining : BreaksOff (Stream.remaining id) .streamStopped s
  /-- Stopping it again. -/
  stop : BreaksOff (Stream.stop id) .streamStopped s

/-- A released transfer's handle is dead: the handle is looked up first. -/
theorem Transfer.dead_of_released {s : Machine} {id : Nat} {t : Transfer}
    (ht : s.transfers[id]? = some t) (hr : t.released = true) : Transfer.Dead s id where
  isDone := by rw [BreaksOff, run_isDone, ht]; simp only [hr, if_true]
  poll := by rw [BreaksOff, run_poll, ht]; simp only [hr, if_true]
  remaining := by rw [BreaksOff, run_remaining, ht]; simp only [hr, if_true]
  wait := by rw [BreaksOff, run_wait, ht]; simp only [hr, if_true]

/-- A stopped circular transfer's handle is dead. -/
theorem Stream.dead_of_stopped {s : Machine} {id : Nat} {t : Stream}
    (ht : s.streams[id]? = some t) (hst : t.stopped = true) : Stream.Dead s id where
  peek f := by
    have htake : (Stream.takeHalf id).run s = .error .streamStopped s := by
      rw [run_takeHalf, ht]; simp only [hst, if_true]
    rw [BreaksOff, run_peek, htake]
  pause := by rw [BreaksOff, run_pause, ht]; simp only [hst, if_true]
  resume := by rw [BreaksOff, run_resume, ht]; simp only [hst, if_true]
  remaining := by rw [BreaksOff, run_remaining, ht]; simp only [hst, if_true]
  stop := by rw [BreaksOff, run_stop, ht]; simp only [hst, if_true]

/-! ## The buffer and the ring -/

/-- The buffer without the share of its lock a transfer in direction `dir` took: one reader
fewer for a transfer to the peripheral, no writer for one from it; either way unlocked. -/
def Direction.unshare : Direction → Buffer → Buffer
  | .toPeripheral, b => { b with readers := b.readers - 1, access := .unlocked }
  | .fromPeripheral, b => { b with writing := false, access := .unlocked }

/-- Unlocking a buffer held as a transfer's direction says takes away that transfer's share. -/
theorem Buffer.unlock_of_access {b : Buffer} {dir : Direction} (h : b.access = dir.access) :
    b.unlock = dir.unshare b := by
  cases dir <;> simp only [Buffer.unlock, h, Direction.access, Direction.unshare]

/-- The buffer of a live one-shot transfer is recorded and held as its direction says. -/
theorem Machine.Ownership.buffer_of_live {s : Machine} (h : s.Ownership) {id : Nat}
    {t : Transfer} (ht : s.transfers[id]? = some t) (hr : t.released = false) :
    ∃ b, s.buffers[t.buffer]? = some b ∧ b.access = t.direction.access := by
  obtain ⟨x, hx, rfl⟩ := h.buffers.held_state (show Live s.owners.transfers _ id t from ⟨ht, hr⟩)
  have hx' : (s.buffers.map Buffer.access)[t.buffer]? = some t.direction.access := hx
  rw [Array.getElem?_map] at hx'
  obtain ⟨b, hb, hacc⟩ := Option.map_eq_some_iff.mp hx'
  exact ⟨b, hb, hacc⟩

/-- Entry `i` of a table changed by `f`, and no other entry. -/
theorem getElem?_modify_split {α : Type} {xs : Array α} {i : Nat} {x : α} (hx : xs[i]? = some x)
    (f : α → α) : (xs.modify i f)[i]? = some (f x) ∧ ∀ j, j ≠ i → (xs.modify i f)[j]? = xs[j]? := by
  refine ⟨by rw [Array.getElem?_modify, if_pos rfl, hx]; rfl, fun j hj => ?_⟩
  rw [Array.getElem?_modify, if_neg (Ne.symm hj)]

/-! ## What a wait and a stop hand back -/

/-- A wait that returns on a live transfer, and a stop of a live circular transfer, hand
back the lane, the memory and the peripheral: the lane with its flags cleared, the buffer's
lock less exactly the transfer's share (or the ring freed), nothing else changed, and the
handle dead, its fault naming the operation that ended it. -/
theorem wait_and_stop_hand_back :
    (∀ (s : Machine) (id : Nat) (t : Transfer), s.Ownership → s.transfers[id]? = some t →
      t.released = false → ∀ r s', (Transfer.wait id).run s = .ok r s' →
        r.1 = ⟨t.lane, t.buffer, t.peripheral⟩ ∧
        ((r.2 = none ∧
            (s.polled (s.bank.waitReads t.lane)).HandedBack s' t.lane t.lane.completeFlag
              t.peripheral) ∨
          (r.2 = some .transferError ∧
            (s.polled (s.bank.waitReads t.lane)).HandedBack s' t.lane t.lane.flags
              t.peripheral)) ∧
        (∃ b, s.buffers[t.buffer]? = some b ∧ b.access = t.direction.access ∧
          s'.buffers[t.buffer]? = some (t.direction.unshare b) ∧
          ∀ i, i ≠ t.buffer → s'.buffers[i]? = s.buffers[i]?) ∧
        Transfer.Dead s' id) ∧
    (∀ (s : Machine) (id : Nat) (u : Stream), s.Ownership → s.streams[id]? = some u →
      u.stopped = false →
      ∃ s', (Stream.stop id).run s = .ok ⟨u.lane, u.ring, u.peripheral⟩ s' ∧
        s.HandedBack s' u.lane u.lane.flags u.peripheral ∧
        (∃ r, s.rings[u.ring]? = some r ∧ s'.rings[u.ring]? = some { r with phase := .free } ∧
          ∀ i, i ≠ u.ring → s'.rings[i]? = s.rings[i]?) ∧
        Stream.Dead s' id) ∧
    Fault.transferReleased.message = "dma: use of a transfer after Wait" ∧
    Fault.streamStopped.message = "dma: use of a circular transfer after Stop" := by
  refine ⟨fun s id t hown ht hlive r s' hrun => ?_, fun s id u hown hu hst => ?_, rfl, rfl⟩
  · obtain ⟨b, hb, hacc⟩ := hown.buffer_of_live ht hlive
    have hfin := (Transfer.wait_returns_iff_finishes ht hlive).1.mp ⟨r, s', hrun⟩
    rw [Transfer.run_wait_of_finishes ht hlive hfin] at hrun
    -- both outcomes give back the same parts, from the same machine, with their own mask
    have hgive : ∀ (mask : UInt32) (c : Counters),
        s' = (s.polled (s.bank.waitReads t.lane)).handBack id t mask c →
        (∃ b, s.buffers[t.buffer]? = some b ∧ b.access = t.direction.access ∧
          s'.buffers[t.buffer]? = some (t.direction.unshare b) ∧
          ∀ i, i ≠ t.buffer → s'.buffers[i]? = s.buffers[i]?) ∧ Transfer.Dead s' id := by
      rintro mask c rfl
      obtain ⟨hself, hother⟩ := getElem?_modify_split hb Buffer.unlock
      rw [Buffer.unlock_of_access hacc] at hself
      refine ⟨⟨b, hb, hacc, hself, hother⟩, Transfer.dead_of_released
        (getElem?_modify_split ht fun t => { t with released := true }).1 rfl⟩
    by_cases he : (LaneStatus.ofWord t.lane
      (s.bank.readN (s.bank.waitReads t.lane)).flags).error = true
    · simp only [he, if_true, EStateM.Result.ok.injEq] at hrun
      obtain ⟨rfl, rfl⟩ := hrun
      exact ⟨rfl, Or.inr ⟨rfl, Machine.handedBack_handBack _ _ _ (Bank.widenMask_flags _) _⟩,
        hgive _ _ rfl⟩
    · simp only [he, Bool.false_eq_true, if_false, EStateM.Result.ok.injEq] at hrun
      obtain ⟨rfl, rfl⟩ := hrun
      exact ⟨rfl, Or.inl ⟨rfl, Machine.handedBack_handBack _ _ _ (Bank.widenMask_completeFlag _) _⟩,
        hgive _ _ rfl⟩
  · obtain ⟨r, -, hr, -⟩ := hown.ring_of_live hu hst
    rw [Stream.run_stop, hu]
    simp only [hst, Bool.false_eq_true, if_false]
    obtain ⟨hself, hother⟩ := getElem?_modify_split hr fun r => { r with phase := .free }
    refine ⟨_, rfl, ?_, ⟨r, hr, hself, hother⟩, Stream.dead_of_stopped
      (getElem?_modify_split hu fun t => { t with stopped := true }).1 rfl⟩
    exact {
      lane := by rw [Bank.lane_clear, Bank.lane_setControl_self]; rfl
      others := fun m hm => by rw [Bank.lane_clear]; exact Bank.lane_modifyLane_of_ne _ _ (Ne.symm hm)
      flags := Bank.flags_clear_of_widenMask (Bank.widenMask_flags _) _
      owned := by
        rw [Machine.laneState]
        exact congrArg LaneState.owned (Lane.entry_setEntry _ _ _)
      peripherals := rfl }

/-- A client's setup after the lanes are handed out: a four-byte buffer, a four-item ring and
two peripherals, a write of the buffer started on lane `w` whose engine completes it two status
reads later, and a circular read of the ring started on lane `c`. -/
def handOffSetup (w c : Lane) : Act Unit := do
  let _ ← Machine.addBuffer { width := .w8, items := #[0xde, 0xad, 0xbe, 0xef] }
  let _ ← Machine.addRing { width := .w8, items := #[0, 0, 0, 0] }
  let _ ← Machine.addPeripheral { address := 0x40013804 }
  let _ ← Machine.addPeripheral { address := 0x40004424 }
  let _ ← Machine.peripheral 0 >>= fun _ => Transfer.start .toPeripheral w 0 0
  let _ ← Machine.peripheral 1 >>= fun _ => Stream.start c 0 1
  Machine.modifyBank (·.scheduleAfter 2 w .complete)

/-- The machine the setup leaves. -/
def handOffMachine (w c : Lane) : Machine :=
  finalState ((handOffSetup w c).run (finalState (Machine.takeLanes.run {})))

/-- With the write on lane 4 and the circular read on lane 5, the wait completes at its second
status read and the stop ends the circular read:
each hands back its parts, gives its lane back and leaves its handle dead. -/
theorem write_and_ring_handed_back :
    (handOffMachine ⟨3⟩ ⟨4⟩).transfers[0]? = some ⟨⟨3⟩, 0, 0, .toPeripheral, false⟩ ∧
    (handOffMachine ⟨3⟩ ⟨4⟩).streams[0]? = some ⟨⟨4⟩, 0, 1, 0, false, false⟩ ∧
    (handOffMachine ⟨3⟩ ⟨4⟩).bank.waitReads ⟨3⟩ = 2 ∧
    (∃ s', (Transfer.wait 0).run (handOffMachine ⟨3⟩ ⟨4⟩) = .ok (⟨⟨3⟩, 0, 0⟩, none) s' ∧
      ((handOffMachine ⟨3⟩ ⟨4⟩).polled 2).HandedBack s' ⟨3⟩ (Lane.completeFlag ⟨3⟩) 0 ∧
      Transfer.Dead s' 0) ∧
    ∃ s', (Stream.stop 0).run (handOffMachine ⟨3⟩ ⟨4⟩) = .ok ⟨⟨4⟩, 0, 1⟩ s' ∧
      (handOffMachine ⟨3⟩ ⟨4⟩).HandedBack s' ⟨4⟩ (Lane.flags ⟨4⟩) 1 ∧ Stream.Dead s' 0 := by
  have hown : (handOffMachine ⟨3⟩ ⟨4⟩).Ownership :=
    Client.keeps_ownership (.bind (.newBuffer _ _) fun _ => .bind (.newRing _ _) fun _ =>
      .bind (.newPeripheral _) fun _ => .bind (.newPeripheral _) fun _ =>
        .bind (.startTransfer _ _ _ _) fun _ => .bind (.startStream _ _ _) fun _ => .after _ _ _)
      _ Machine.ownership_takeLanes
  have hreads : (handOffMachine ⟨3⟩ ⟨4⟩).bank.waitReads ⟨3⟩ = 2 := by decide
  obtain ⟨w, hwait⟩ : ∃ w, (Transfer.wait 0).run (handOffMachine ⟨3⟩ ⟨4⟩) = .ok (⟨⟨3⟩, 0, 0⟩, none) w :=
    ⟨_, rfl⟩
  obtain ⟨-, hback, -, hdead⟩ := wait_and_stop_hand_back.1 (handOffMachine ⟨3⟩ ⟨4⟩) 0
    ⟨⟨3⟩, 0, 0, .toPeripheral, false⟩ hown rfl rfl _ w hwait
  obtain ⟨s', hstop, hback', -, hdead'⟩ := wait_and_stop_hand_back.2.1 (handOffMachine ⟨3⟩ ⟨4⟩) 0
    ⟨⟨4⟩, 0, 1, 0, false, false⟩ hown rfl rfl
  rw [hreads] at hback
  refine ⟨rfl, rfl, hreads, ⟨w, hwait, ?_, hdead⟩, s', hstop, hback', hdead'⟩
  obtain ⟨-, h⟩ | ⟨h, -⟩ := hback
  · exact h
  · cases h

end DmaOwnership
