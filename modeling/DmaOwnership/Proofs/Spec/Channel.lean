import DmaOwnership.Channel
import DmaOwnership.Proofs.Act
import DmaOwnership.Proofs.Bank.Frame
/-!
# What the operations of a lane do

One equation for each operation of a lane, giving its answer and the machine it leaves.
Later proofs rewrite with these and never unfold the operations themselves.

A read of the status word is the only operation here whose effect reaches beyond the
lane's own registers and settings: it counts the read and raises the events that have
fallen due, on any lane. `Machine.afterRead` names the machine after such a read.

A lane's control word changes only by writes to that lane: the engine's events, the
reads of the status word and clears leave every control word as it was.
-/

namespace DmaOwnership

namespace Control

/-- The enable bit is bit 0 of the word. -/
theorem enabled_eq_getLsbD (w : UInt32) : enabled w = w.toBitVec.getLsbD 0 := by
  have h := Lane.and_globalFlag_ne_zero w ⟨0⟩
  have h1 : Lane.globalFlag ⟨0⟩ = enableBit := by decide
  rw [h1] at h
  exact h

@[simp] theorem enabled_withEnable (w : UInt32) (on : Bool) : enabled (withEnable w on) = on := by
  rw [enabled_eq_getLsbD]
  cases on <;> simp [withEnable, setBits, enableBit]

@[simp] theorem enabled_withInterrupts (w m : UInt32) :
    enabled (withInterrupts w m) = enabled w := by
  rw [enabled_eq_getLsbD, enabled_eq_getLsbD]
  simp [withInterrupts, irqMask]

/-- Setting or clearing bits outside `m` leaves the bits of the word in `m`. -/
theorem setBits_and_of_disjoint {w bits m : UInt32} (on : Bool) (h : bits &&& m = 0) :
    setBits w bits on &&& m = w &&& m := by
  apply UInt32.toBitVec_inj.mp
  apply BitVec.eq_of_getElem_eq
  intro i hi
  have hd := congrArg (fun x : UInt32 => x.toBitVec[i]) h
  simp only [UInt32.toBitVec_and, BitVec.getElem_and, UInt32.toBitVec_zero,
    BitVec.getElem_zero] at hd
  cases on <;> simp only [setBits, if_true, if_false, Bool.false_eq_true, UInt32.toBitVec_and,
    UInt32.toBitVec_or, UInt32.toBitVec_not, BitVec.getElem_and, BitVec.getElem_or,
    BitVec.getElem_not] <;>
    revert hd <;> cases w.toBitVec[i] <;> cases bits.toBitVec[i] <;> cases m.toBitVec[i] <;> simp

/-- Writing the enable bit changes no interrupt enable. -/
@[simp] theorem withEnable_and_irqMask (w : UInt32) (on : Bool) :
    withEnable w on &&& irqMask = w &&& irqMask :=
  setBits_and_of_disjoint on (by decide)

end Control

namespace Bank

@[simp] theorem control_setControl_self (b : Bank) (l : Lane) (v : UInt32) :
    (b.setControl l v).control l = v := by
  simp only [control, setControl, lane_modifyLane_self]

/-- Programming a lane leaves its control word at the word written last. -/
@[simp] theorem control_program (b : Bank) (l : Lane) (p : UInt64) (m : MemRef) (n w : UInt32) :
    (b.program l p m n w).control l = w :=
  control_setControl_self _ l w

theorem control_setControl_of_ne (b : Bank) {l m : Lane} (v : UInt32) (h : l ≠ m) :
    (b.setControl l v).control m = b.control m := by
  simp only [control, setControl, lane_modifyLane_of_ne b _ h]

/-- Writing a word with the lane's own interrupt enables keeps every lane's enables. -/
theorem control_setControl_and_irqMask (b : Bank) {l : Lane} {w : UInt32}
    (hw : w &&& Control.irqMask = b.control l &&& Control.irqMask) (m : Lane) :
    (b.setControl l w).control m &&& Control.irqMask = b.control m &&& Control.irqMask := by
  by_cases hm : l = m
  · subst hm
    rw [control_setControl_self, hw]
  · rw [control_setControl_of_ne b _ hm]

/-- Writing a lane's enable bit keeps every lane's interrupt enables. -/
theorem control_setEnable_and_irqMask (b : Bank) (l : Lane) (on : Bool) (m : Lane) :
    (b.setControl l (Control.withEnable (b.control l) on)).control m &&& Control.irqMask =
      b.control m &&& Control.irqMask :=
  control_setControl_and_irqMask b (Control.withEnable_and_irqMask _ on) m

theorem control_program_of_ne (b : Bank) {l m : Lane} (p : UInt64) (r : MemRef) (n w : UInt32)
    (h : l ≠ m) : (b.program l p r n w).control m = b.control m := by
  rw [control, control, (agreeOff_program b l p r n w).lane_eq m (Ne.symm h)]

@[simp] theorem control_clear (b : Bank) (mask : UInt32) (m : Lane) :
    (b.clear mask).control m = b.control m := rfl

/-- The engine's events change counts and flags, never a control word. -/
@[simp] theorem control_raise (b : Bank) (l : Lane) (e : Event) (m : Lane) :
    (b.raise l e).control m = b.control m := by
  -- only the count of lane `l` is written
  have hcount : ∀ n : UInt32, (b.modifyLane l fun r => { r with count := n }).control m =
      b.control m := by
    intro n
    by_cases hm : l = m
    · subst hm
      simp only [control, lane_modifyLane_self]
    · simp only [control, lane_modifyLane_of_ne b _ hm]
  unfold raise
  split
  · exact hcount _
  split
  · exact hcount _
  split <;> rfl

@[simp] theorem control_status (b : Bank) (m : Lane) : b.status.2.control m = b.control m := by
  rw [status_snd]
  generalize b.fallingDue = due
  have key : ∀ acc : Bank, (due.foldl (fun acc x => acc.raise x.lane x.event) acc).control m =
      acc.control m := by
    induction due with
    | nil => intro acc; rfl
    | cons x rest ih => intro acc; rw [List.foldl_cons, ih, control_raise]
  rw [key]
  rfl

@[simp] theorem control_readN (b : Bank) (k : Nat) (m : Lane) : (b.readN k).control m = b.control m := by
  induction k with
  | zero => rfl
  | succ k ih => rw [readN_succ, control_status, ih]

end Bank

namespace Machine

/-- The machine after one read of the status word. -/
def afterRead (s : Machine) : Machine := { s with bank := s.bank.status.2 }

@[simp] theorem afterRead_bank (s : Machine) : s.afterRead.bank = s.bank.status.2 := rfl

@[simp] theorem laneState_setEntry_self (s : Machine) (l : Lane) (st : LaneState) :
    ({ s with lanes := l.setEntry s.lanes st } : Machine).laneState l = st :=
  Lane.entry_setEntry _ _ _

theorem laneState_setEntry_of_ne (s : Machine) {l m : Lane} (st : LaneState) (h : l ≠ m) :
    ({ s with lanes := l.setEntry s.lanes st } : Machine).laneState m = s.laneState m :=
  Lane.entry_setEntry_of_ne _ _ _ _ h

/-- New settings for a lane that keep its enables keep every lane's enables. -/
theorem irq_setEntry (s : Machine) {l : Lane} {st : LaneState} (h : st.irq = (s.laneState l).irq)
    (m : Lane) : (({ s with lanes := l.setEntry s.lanes st } : Machine).laneState m).irq =
      (s.laneState m).irq := by
  by_cases hm : l = m
  · subst hm
    rw [laneState_setEntry_self, h]
  · rw [laneState_setEntry_of_ne s st hm]

end Machine

namespace Lane

variable (l : Lane) (s : Machine)

theorem run_configure (p : Priority) : (l.configure p).run s =
    .ok () { s with lanes := l.setEntry s.lanes { s.laneState l with priority := p } } := rfl

theorem run_updateIrq : l.updateIrq.run s =
    .ok () { s with
      bank := s.bank.setControl l (Control.withInterrupts (s.bank.control l) (s.laneState l).irq) } :=
  rfl

theorem run_listen (e : Event) : (l.listen e).run s =
    let st := { s.laneState l with irq := (s.laneState l).irq ||| e.enableBit }
    .ok () { s with
      lanes := l.setEntry s.lanes st
      bank := s.bank.setControl l (Control.withInterrupts (s.bank.control l) st.irq) } := by
  simp only [listen, EStateM.run_bind, Machine.modifyLane, EStateM.run_modify, run_updateIrq,
    Machine.laneState_setEntry_self]

theorem run_unlisten (e : Event) : (l.unlisten e).run s =
    let st := { s.laneState l with irq := (s.laneState l).irq &&& ~~~e.enableBit }
    .ok () { s with
      lanes := l.setEntry s.lanes st
      bank := s.bank.setControl l (Control.withInterrupts (s.bank.control l) st.irq) } := by
  simp only [unlisten, EStateM.run_bind, Machine.modifyLane, EStateM.run_modify, run_updateIrq,
    Machine.laneState_setEntry_self]

theorem run_inUse : l.inUse.run s = .ok (s.inUse l) s := rfl

theorem run_remaining : l.remaining.run s = .ok ((s.bank.count l &&& 0xFFFF).toNat) s := rfl

theorem run_readStatus : l.readStatus.run s =
    .ok (LaneStatus.ofWord l s.bank.status.1) s.afterRead := rfl

theorem run_clearFlags (mask : UInt32) : (clearFlags mask).run s =
    .ok () { s with bank := s.bank.clear mask } := rfl

theorem run_setOwned (owned : Bool) : (l.setOwned owned).run s =
    .ok () { s with lanes := l.setEntry s.lanes { s.laneState l with owned } } := rfl

theorem run_setEnable (on : Bool) : (l.setEnable on).run s =
    .ok () { s with
      bank := s.bank.setControl l (Control.withEnable (s.bank.control l) on) } := rfl

theorem run_program (p : UInt64) (m : MemRef) (n : Nat) (config : UInt32) :
    (l.program p m n config).run s =
      .ok () { s with
        bank := s.bank.program l p m n.toUInt32 (transferWord (s.laneState l) config) } := rfl

end Lane

end DmaOwnership
