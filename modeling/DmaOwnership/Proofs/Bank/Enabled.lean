import DmaOwnership.Proofs.Spec.Channel
/-!
# A lane enabled

Pausing and resuming a circular transfer write its lane's enable bit and nothing else.
`Bank.setEnable b l on` is the bank with the enable bit of lane `l` set to `on` and every
other register, flag, count and scheduled event as it is.

Writing the bit commutes with everything the engine and the library do to the bank short
of writing that lane's enable bit or reading it: raising an event (the count it leaves is
read off circular mode, not the enable bit), reading the status word, clearing flags,
writing another lane's registers, programming another lane, and rewriting the lane's own
interrupt enables. Of two writes of the bit, the last is the one that stays.
-/

namespace DmaOwnership

namespace Control

/-! ## The enable bit among the other fields of a control word -/

/-- The enable bit is bit 0, and writing it leaves the other bits. -/
theorem getElem_withEnable (w : UInt32) (on : Bool) {i : Nat} (hi : i < 32) :
    (withEnable w on).toBitVec[i] = if i = 0 then on else w.toBitVec[i] := by
  have hbit : enableBit.toBitVec[i] = decide (i = 0) := by
    revert i
    decide
  by_cases h0 : i = 0
  · subst h0
    cases on <;> simp [withEnable, setBits, hbit]
  · cases on <;> simp [withEnable, setBits, hbit, h0]

/-- The enable bit and the interrupt enables are written independently: bit 0 is not an
interrupt enable. -/
theorem withInterrupts_withEnable (w m : UInt32) (on : Bool) :
    withInterrupts (withEnable w on) m = withEnable (withInterrupts w m) on := by
  have hirq : irqMask.toBitVec[0] = false := by decide
  apply UInt32.toBitVec_inj.mp
  apply BitVec.eq_of_getElem_eq
  intro i hi
  simp only [withInterrupts, UInt32.toBitVec_or, UInt32.toBitVec_and, UInt32.toBitVec_not,
    BitVec.getElem_or, BitVec.getElem_and, BitVec.getElem_not, getElem_withEnable _ _ hi]
  split
  · subst i
    simp [hirq]
  · rfl

/-- The last write of the enable bit is the one that counts. -/
@[simp] theorem withEnable_withEnable (w : UInt32) (a b : Bool) :
    withEnable (withEnable w a) b = withEnable w b := by
  apply UInt32.toBitVec_inj.mp
  apply BitVec.eq_of_getElem_eq
  intro i hi
  rw [getElem_withEnable _ _ hi, getElem_withEnable _ _ hi, getElem_withEnable _ _ hi]
  split <;> rfl

/-- Writing a word's own enable bit back changes nothing. -/
theorem withEnable_enabled (w : UInt32) : withEnable w (enabled w) = w := by
  apply UInt32.toBitVec_inj.mp
  apply BitVec.eq_of_getElem_eq
  intro i hi
  rw [getElem_withEnable _ _ hi, enabled_eq_getLsbD]
  split
  · subst i
    rw [BitVec.getLsbD_eq_getElem]
  · rfl

@[simp] theorem circular_withEnable (w : UInt32) (on : Bool) :
    circular (withEnable w on) = circular w := by
  rw [circular, circular, withEnable, setBits_and_of_disjoint on (by decide)]
end Control

namespace Bank

/-! ## Changes to the registers of lanes -/

/-- Two changes to one lane's registers are one change. -/
theorem modifyLane_modifyLane (b : Bank) (l : Lane) (f g : LaneRegs → LaneRegs) :
    (b.modifyLane l f).modifyLane l g = b.modifyLane l fun r => g (f r) := by
  simp only [modifyLane, lane, Lane.entry_setEntry]
  simp only [Lane.setEntry, Vector.set_set]

/-- Changes to two lanes' registers can be made in either order. -/
theorem modifyLane_comm_of_ne (b : Bank) {l m : Lane} (h : l ≠ m) (f g : LaneRegs → LaneRegs) :
    (b.modifyLane l f).modifyLane m g = (b.modifyLane m g).modifyLane l f := by
  have hi : l.index.val ≠ m.index.val := fun e => h (congrArg Lane.mk (Fin.ext e))
  simp only [modifyLane, lane, Lane.entry_setEntry_of_ne _ _ _ _ h,
    Lane.entry_setEntry_of_ne _ _ _ _ (Ne.symm h)]
  simp only [Lane.setEntry]
  rw [Vector.set_comm _ _ hi]

/-- Two changes to lanes' registers that do not interfere can be made in either order. -/
theorem modifyLane_comm (b : Bank) (l m : Lane) {f g : LaneRegs → LaneRegs}
    (h : ∀ r, f (g r) = g (f r)) :
    (b.modifyLane l f).modifyLane m g = (b.modifyLane m g).modifyLane l f := by
  by_cases hlm : l = m
  · subst hlm
    simp only [modifyLane_modifyLane, h]
  · exact modifyLane_comm_of_ne b hlm f g

/-! ## The bank with a lane enabled -/

/-- The bank with the enable bit of lane `l` set to `on`, its control word otherwise as it is,
as `Lane.setEnable` leaves it. -/
def setEnable (b : Bank) (l : Lane) (on : Bool) : Bank :=
  b.setControl l (Control.withEnable (b.control l) on)

variable (b : Bank) (l : Lane) (on : Bool)

@[simp] theorem flags_setEnable : (b.setEnable l on).flags = b.flags := rfl
@[simp] theorem reload_setEnable : (b.setEnable l on).reload = b.reload := rfl
@[simp] theorem schedule_setEnable : (b.setEnable l on).schedule = b.schedule := rfl
@[simp] theorem quietReads_setEnable : (b.setEnable l on).quietReads = b.quietReads := rfl

@[simp] theorem count_setEnable (m : Lane) : (b.setEnable l on).count m = b.count m := by
  by_cases hm : l = m
  · subst hm
    simp only [count, setEnable, setControl, lane_modifyLane_self]
  · simp only [count, setEnable, setControl, lane_modifyLane_of_ne _ _ hm]

theorem control_setEnable_self :
    (b.setEnable l on).control l = Control.withEnable (b.control l) on :=
  control_setControl_self _ _ _

theorem control_setEnable_of_ne {m : Lane} (h : l ≠ m) : (b.setEnable l on).control m = b.control m :=
  control_setControl_of_ne _ _ h

/-- The last write of a lane's enable bit is the one that stays. -/
@[simp] theorem setEnable_setEnable (on' : Bool) :
    (b.setEnable l on').setEnable l on = b.setEnable l on := by
  rw [setEnable, control_setEnable_self, Control.withEnable_withEnable, setEnable, setEnable,
    setControl, setControl, setControl, modifyLane_modifyLane]

/-- Writing a lane's own enable bit back leaves the bank as it is. -/
theorem setEnable_enabled : b.setEnable l (Control.enabled (b.control l)) = b := by
  rw [setEnable, Control.withEnable_enabled]
  show { b with regs := l.setEntry b.regs (l.entry b.regs) } = b
  rw [Lane.setEntry, Lane.entry, Fin.getElem_fin, Vector.set_getElem_self]

/-! ### What commutes with a write of the enable bit -/

/-- Writing a lane's count and its enable bit can be done in either order. -/
theorem setEnable_modifyLane_count (m : Lane) (n : UInt32) :
    (b.modifyLane m fun r => { r with count := n }).setEnable l on =
      (b.setEnable l on).modifyLane m fun r => { r with count := n } := by
  have hc : (b.modifyLane m fun r => { r with count := n }).control l = b.control l := by
    by_cases hm : m = l
    · subst hm
      simp only [control, lane_modifyLane_self]
    · simp only [control, lane_modifyLane_of_ne _ _ hm]
  rw [setEnable, hc, setEnable, setControl, setControl]
  exact modifyLane_comm _ _ _ fun _ => rfl

/-- Writing a lane's enable bit and raising an event can be done in either order: the count
an event leaves is read off circular mode, which the enable bit does not touch. -/
theorem setEnable_raise (m : Lane) (e : Event) :
    (b.raise m e).setEnable l on = (b.setEnable l on).raise m e := by
  have hcirc : Control.circular ((b.setEnable l on).control m) = Control.circular (b.control m) := by
    by_cases hm : l = m
    · subst hm
      rw [control_setEnable_self, Control.circular_withEnable]
    · rw [control_setEnable_of_ne _ _ _ hm]
  unfold raise
  rw [reload_setEnable, hcirc]
  split
  · dsimp only
    rw [← setEnable_modifyLane_count]
    rfl
  split
  · dsimp only
    rw [← setEnable_modifyLane_count]
    rfl
  split <;> rfl

theorem setEnable_foldl_raise (due : List Scheduled) (acc : Bank) :
    (due.foldl (fun acc x => acc.raise x.lane x.event) acc).setEnable l on =
      due.foldl (fun acc x => acc.raise x.lane x.event) (acc.setEnable l on) := by
  induction due generalizing acc with
  | nil => rfl
  | cons x rest ih => rw [List.foldl_cons, List.foldl_cons, ih, setEnable_raise]

/-- A read of the status word answers the same word whatever the enable bit, and leaves the
bank it leaves, with the bit as written. -/
theorem status_setEnable : (b.setEnable l on).status = (b.status.1, b.status.2.setEnable l on) := by
  have hsnd : (b.setEnable l on).status.2 = b.status.2.setEnable l on := by
    rw [status_snd, status_snd, setEnable_foldl_raise]
    rfl
  rw [Prod.ext_iff, status_fst, status_fst, hsnd, flags_setEnable]
  exact ⟨rfl, rfl⟩

theorem readN_setEnable (k : Nat) : (b.setEnable l on).readN k = (b.readN k).setEnable l on := by
  induction k with
  | zero => rfl
  | succ k ih => rw [readN_succ, readN_succ, ih, status_setEnable]

theorem setEnable_clear (mask : UInt32) : (b.clear mask).setEnable l on = (b.setEnable l on).clear mask :=
  rfl

/-- Writes to another lane's control word and to the enable bit of `l` can be made in either
order. -/
theorem setEnable_setControl_of_ne {m : Lane} (h : m ≠ l) (v : UInt32) :
    (b.setControl m v).setEnable l on = (b.setEnable l on).setControl m v := by
  rw [setEnable, setEnable, control_setControl_of_ne _ _ h, setControl, setControl, setControl,
    setControl]
  exact modifyLane_comm_of_ne _ h _ _

/-- Writes of the enable bits of two lanes can be made in either order. -/
theorem setEnable_comm_of_ne {m : Lane} (h : m ≠ l) (on' : Bool) :
    (b.setEnable m on').setEnable l on = (b.setEnable l on).setEnable m on' := by
  show (b.setControl m (Control.withEnable (b.control m) on')).setEnable l on = _
  rw [setEnable_setControl_of_ne _ _ _ h, setEnable.eq_1 (b.setEnable l on),
    control_setEnable_of_ne _ _ _ (Ne.symm h)]

theorem setEnable_setPeripheral (m : Lane) (a : UInt64) :
    (b.setPeripheral m a).setEnable l on = (b.setEnable l on).setPeripheral m a := by
  have hc : (b.setPeripheral m a).control l = b.control l := by
    by_cases hm : m = l
    · subst hm
      simp only [control, setPeripheral, lane_modifyLane_self]
    · simp only [control, setPeripheral, lane_modifyLane_of_ne _ _ hm]
  rw [setEnable, setEnable, hc, setPeripheral, setPeripheral, setControl, setControl]
  exact modifyLane_comm _ _ _ fun _ => rfl

theorem setEnable_setMemory (m : Lane) (r : MemRef) :
    (b.setMemory m r).setEnable l on = (b.setEnable l on).setMemory m r := by
  have hc : (b.setMemory m r).control l = b.control l := by
    by_cases hm : m = l
    · subst hm
      simp only [control, setMemory, lane_modifyLane_self]
    · simp only [control, setMemory, lane_modifyLane_of_ne _ _ hm]
  rw [setEnable, setEnable, hc, setMemory, setMemory, setControl, setControl]
  exact modifyLane_comm _ _ _ fun _ => rfl

/-- A count written to another lane is kept or ignored alike: it is ignored when that lane
is enabled, and the enable bit of `l` is not that lane's. -/
theorem setEnable_setCount_of_ne {m : Lane} (h : m ≠ l) (n : UInt32) :
    (b.setCount m n).setEnable l on = (b.setEnable l on).setCount m n := by
  unfold setCount
  rw [control_setEnable_of_ne _ _ _ (Ne.symm h)]
  split
  · rfl
  · dsimp only
    rw [← setEnable_modifyLane_count]
    rfl

theorem setEnable_program_of_ne {m : Lane} (h : m ≠ l) (p : UInt64) (r : MemRef) (n w : UInt32) :
    (b.program m p r n w).setEnable l on = (b.setEnable l on).program m p r n w := by
  simp only [program, setEnable_setControl_of_ne _ _ _ h, setEnable_clear, setEnable_setPeripheral,
    setEnable_setMemory, setEnable_setCount_of_ne _ _ _ h]

/-- Rewriting the interrupt enables of a lane's control word, as a listen does, keeps its
enable bit, so it can be made before or after a write of the enable bit of `l`. -/
theorem setEnable_setControl_withInterrupts (m : Lane) (irq : UInt32) :
    (b.setControl m (Control.withInterrupts (b.control m) irq)).setEnable l on =
      (b.setEnable l on).setControl m
        (Control.withInterrupts ((b.setEnable l on).control m) irq) := by
  by_cases hm : m = l
  · subst hm
    rw [setEnable, control_setControl_self, control_setEnable_self,
      Control.withInterrupts_withEnable, setEnable, setControl, setControl, setControl, setControl,
      modifyLane_modifyLane, modifyLane_modifyLane]
  · rw [control_setEnable_of_ne _ _ _ (Ne.symm hm), setEnable_setControl_of_ne _ _ _ hm]

end Bank
end DmaOwnership
