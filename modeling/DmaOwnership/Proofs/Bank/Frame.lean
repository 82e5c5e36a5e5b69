import DmaOwnership.Proofs.Bank.Reads
/-!
# Agreement outside a lane

All lanes share the status word and the clear register, so an operation meant for one
lane could reach into another lane's flags. Two banks *agree outside* lane `l` when they
have the same registers and reload value on every other lane, the same bits of the
status word outside `l`'s nibble, the same read count and the same schedule.

* Writing a register of `l`, or clearing with a mask that widens to bits of `l`'s nibble
  only, leaves a bank in agreement outside `l` with what it was.
* The masks the library clears with, a lane's whole nibble and its complete and half
  flags, take away bits of that lane's nibble and nothing else.
* Raising an event and reading the status word respect agreement: two banks that agree
  outside `l` still agree after the same raise, or after the same number of reads.
-/

namespace DmaOwnership

namespace Lane

theorem shift_toNat (l : Lane) : l.shift.toNat = 4 * l.index.val := by
  obtain ⟨⟨i, hi⟩⟩ := l
  simp [shift]
  omega

/-- A nibble constant shifted to a lane sits at bits `4i …`. -/
theorem shiftLeft_getLsbD (l : Lane) (c : UInt32) (k : Nat) :
    (c <<< l.shift).toBitVec.getLsbD k =
      (decide (k < 32) && !decide (k < 4 * l.index.val) &&
        c.toBitVec.getLsbD (k - 4 * l.index.val)) := by
  have hs : l.shift.toNat % 32 = 4 * l.index.val := by
    rw [shift_toNat]
    have := l.index.isLt
    omega
  simp [UInt32.toBitVec_shiftLeft, BitVec.getLsbD_shiftLeft, hs]

/-- The complete flag of a lane is bit `4i + 1`. -/
theorem completeFlag_getLsbD (l : Lane) (k : Nat) :
    l.completeFlag.toBitVec.getLsbD k = decide (k = 4 * l.index.val + 1) := by
  have hc : (2 : UInt32).toBitVec = BitVec.twoPow 32 1 := by decide
  have hi := l.index.isLt
  rw [completeFlag, shiftLeft_getLsbD, hc, BitVec.getLsbD_twoPow, Bool.eq_iff_iff]
  simp only [Bool.and_eq_true, decide_eq_true_eq, Bool.not_eq_true', decide_eq_false_iff_not]
  omega

/-- The half flag of a lane is bit `4i + 2`. -/
theorem halfFlag_getLsbD (l : Lane) (k : Nat) :
    l.halfFlag.toBitVec.getLsbD k = decide (k = 4 * l.index.val + 2) := by
  have hc : (4 : UInt32).toBitVec = BitVec.twoPow 32 2 := by decide
  have hi := l.index.isLt
  rw [halfFlag, shiftLeft_getLsbD, hc, BitVec.getLsbD_twoPow, Bool.eq_iff_iff]
  simp only [Bool.and_eq_true, decide_eq_true_eq, Bool.not_eq_true', decide_eq_false_iff_not]
  omega

/-- The error flag of a lane is bit `4i + 3`. -/
theorem errorFlag_getLsbD (l : Lane) (k : Nat) :
    l.errorFlag.toBitVec.getLsbD k = decide (k = 4 * l.index.val + 3) := by
  have hc : (8 : UInt32).toBitVec = BitVec.twoPow 32 3 := by decide
  have hi := l.index.isLt
  rw [errorFlag, shiftLeft_getLsbD, hc, BitVec.getLsbD_twoPow, Bool.eq_iff_iff]
  simp only [Bool.and_eq_true, decide_eq_true_eq, Bool.not_eq_true', decide_eq_false_iff_not]
  omega

end Lane

namespace Bank

/-! ## The masks the library clears with -/

/-- Clearing a lane's nibble takes away exactly the bits of that nibble. -/
theorem clearedBy_flags (l : Lane) (k : Nat) :
    clearedBy l.flags k = decide (k / 4 = l.index.val) := by
  have hi := l.index.isLt
  rw [Bool.eq_iff_iff]
  simp only [clearedBy, Lane.flags_getLsbD, Bool.or_eq_true, Bool.and_eq_true, decide_eq_true_eq]
  omega

/-- Clearing a lane's complete flag takes away that bit alone: it is not the lane's
global flag, so the clear does not widen. -/
theorem clearedBy_completeFlag (l : Lane) (k : Nat) :
    clearedBy l.completeFlag k = decide (k = 4 * l.index.val + 1) := by
  rw [Bool.eq_iff_iff]
  simp only [clearedBy, Lane.completeFlag_getLsbD, Bool.or_eq_true, Bool.and_eq_true, decide_eq_true_eq]
  omega

/-- Clearing a lane's half flag takes away that bit alone. -/
theorem clearedBy_halfFlag (l : Lane) (k : Nat) :
    clearedBy l.halfFlag k = decide (k = 4 * l.index.val + 2) := by
  rw [Bool.eq_iff_iff]
  simp only [clearedBy, Lane.halfFlag_getLsbD, Bool.or_eq_true, Bool.and_eq_true, decide_eq_true_eq]
  omega

/-! ## Registers after an update -/

@[simp] theorem lane_modifyLane_self (b : Bank) (l : Lane) (f : LaneRegs → LaneRegs) :
    (b.modifyLane l f).lane l = f (b.lane l) := Lane.entry_setEntry _ _ _

theorem lane_modifyLane_of_ne (b : Bank) {l m : Lane} (f : LaneRegs → LaneRegs) (h : l ≠ m) :
    (b.modifyLane l f).lane m = b.lane m := Lane.entry_setEntry_of_ne _ _ _ _ h

/-! ## Agreement outside a lane -/

/-- Two banks agree everywhere outside lane `l`. -/
structure AgreeOff (l : Lane) (b b' : Bank) : Prop where
  /-- Every other lane has the same registers. -/
  lane_eq : ∀ m, m ≠ l → b.lane m = b'.lane m
  /-- Every other lane has the same reload value. -/
  reload_eq : ∀ m, m ≠ l → m.entry b.reload = m.entry b'.reload
  /-- Every bit of the status word outside `l`'s nibble is the same. -/
  flag_eq : ∀ k, k / 4 ≠ l.index.val → b.flags.toBitVec.getLsbD k = b'.flags.toBitVec.getLsbD k
  /-- The same number of reads has been made. -/
  reads_eq : b.reads = b'.reads
  /-- The same events are scheduled. -/
  schedule_eq : b.schedule = b'.schedule

namespace AgreeOff

variable {l : Lane} {b b' b'' : Bank}

@[refl] theorem refl (b : Bank) : AgreeOff l b b :=
  ⟨fun _ _ => rfl, fun _ _ => rfl, fun _ _ => rfl, rfl, rfl⟩

@[symm] theorem symm (h : AgreeOff l b b') : AgreeOff l b' b :=
  ⟨fun m hm => (h.lane_eq m hm).symm, fun m hm => (h.reload_eq m hm).symm,
    fun k hk => (h.flag_eq k hk).symm, h.reads_eq.symm, h.schedule_eq.symm⟩

theorem trans (h : AgreeOff l b b') (h' : AgreeOff l b' b'') : AgreeOff l b b'' :=
  ⟨fun m hm => (h.lane_eq m hm).trans (h'.lane_eq m hm),
    fun m hm => (h.reload_eq m hm).trans (h'.reload_eq m hm),
    fun k hk => (h.flag_eq k hk).trans (h'.flag_eq k hk), h.reads_eq.trans h'.reads_eq,
    h.schedule_eq.trans h'.schedule_eq⟩

end AgreeOff

section Writes

variable (b : Bank) (l : Lane)

theorem agreeOff_modifyLane (f : LaneRegs → LaneRegs) : AgreeOff l (b.modifyLane l f) b :=
  ⟨fun _ hm => lane_modifyLane_of_ne b f (Ne.symm hm), fun _ _ => rfl, fun _ _ => rfl, rfl, rfl⟩

theorem agreeOff_setControl (v : UInt32) : AgreeOff l (b.setControl l v) b :=
  agreeOff_modifyLane b l _

theorem agreeOff_setPeripheral (a : UInt64) : AgreeOff l (b.setPeripheral l a) b :=
  agreeOff_modifyLane b l _

theorem agreeOff_setMemory (m : MemRef) : AgreeOff l (b.setMemory l m) b :=
  agreeOff_modifyLane b l _

theorem agreeOff_setCount (n : UInt32) : AgreeOff l (b.setCount l n) b := by
  unfold setCount
  split
  · exact AgreeOff.refl b
  · exact ⟨fun _ hm => lane_modifyLane_of_ne b (fun r => { r with count := n }) (Ne.symm hm),
      fun _ hm => Lane.entry_setEntry_of_ne _ _ _ _ (Ne.symm hm), fun _ _ => rfl, rfl, rfl⟩

/-- A clear whose widened mask lies in lane `l`'s nibble leaves everything outside it. -/
theorem agreeOff_clear {mask : UInt32} (h : ∀ k, clearedBy mask k = true → k / 4 = l.index.val) :
    AgreeOff l (b.clear mask) b := by
  refine ⟨fun _ _ => rfl, fun _ _ => rfl, fun k hk => ?_, rfl, rfl⟩
  have hc : clearedBy mask k = false := by
    cases hm : clearedBy mask k with
    | false => rfl
    | true => exact absurd (h k hm) hk
  rw [clear_flags_getLsbD, hc, Bool.not_false, Bool.and_true]

theorem agreeOff_clear_flags : AgreeOff l (b.clear l.flags) b :=
  agreeOff_clear b l fun k hk => by simpa [clearedBy_flags] using hk

theorem agreeOff_clear_completeFlag : AgreeOff l (b.clear l.completeFlag) b :=
  agreeOff_clear b l fun k hk => by
    simp only [clearedBy_completeFlag, decide_eq_true_eq] at hk
    omega

theorem agreeOff_clear_halfFlag : AgreeOff l (b.clear l.halfFlag) b :=
  agreeOff_clear b l fun k hk => by
    simp only [clearedBy_halfFlag, decide_eq_true_eq] at hk
    omega

/-- Raising an event on a lane changes that lane's count and nibble, nothing else. -/
theorem agreeOff_raise (e : Event) : AgreeOff l (b.raise l e) b := by
  -- the raised bits lie in the lane's nibble
  have hbits : ∀ x : UInt32, (∀ k, x.toBitVec.getLsbD k = true → k / 4 = l.index.val) →
      ∀ k, k / 4 ≠ l.index.val →
        (b.flags ||| l.globalFlag ||| x).toBitVec.getLsbD k = b.flags.toBitVec.getLsbD k := by
    intro x hx k hk
    have hg : decide (k = 4 * l.index.val) = false := by
      simp only [decide_eq_false_iff_not]
      omega
    have hxk : x.toBitVec.getLsbD k = false := by
      cases h : x.toBitVec.getLsbD k with
      | false => rfl
      | true => exact absurd (hx k h) hk
    simp only [UInt32.toBitVec_or, BitVec.getLsbD_or, Lane.globalFlag_getLsbD, hg, hxk,
      Bool.or_false]
  unfold raise
  dsimp only
  split
  · refine ⟨fun m hm => lane_modifyLane_of_ne b
      (fun r => { r with count := if Control.circular (b.control l) then l.entry b.reload else 0 })
      (Ne.symm hm), fun _ _ => rfl, hbits _ ?_, rfl, rfl⟩
    intro k hk
    simp only [Lane.completeFlag_getLsbD, decide_eq_true_eq] at hk
    omega
  split
  · refine ⟨fun m hm => lane_modifyLane_of_ne b (fun r => { r with count := l.entry b.reload / 2 })
      (Ne.symm hm), fun _ _ => rfl, hbits _ ?_, rfl, rfl⟩
    intro k hk
    simp only [Lane.halfFlag_getLsbD, decide_eq_true_eq] at hk
    omega
  split
  · refine ⟨fun _ _ => rfl, fun _ _ => rfl, hbits _ ?_, rfl, rfl⟩
    intro k hk
    simp only [Lane.errorFlag_getLsbD, decide_eq_true_eq] at hk
    omega
  · exact AgreeOff.refl b

/-- Programming a lane writes that lane's registers and clears its nibble, nothing else. -/
theorem agreeOff_program (p : UInt64) (m : MemRef) (n w : UInt32) :
    AgreeOff l (b.program l p m n w) b :=
  (agreeOff_setControl _ l w).trans <| (agreeOff_setCount _ l n).trans <|
    (agreeOff_setMemory _ l m).trans <| (agreeOff_setPeripheral _ l p).trans <|
      (agreeOff_clear_flags _ l).trans (agreeOff_setControl b l 0)

end Writes

/-! ## Raises and reads respect agreement -/

namespace AgreeOff

variable {l : Lane} {b b' : Bank}

/-- An event raised on the same lane of two banks that agree outside `l` leaves them in
agreement: on a lane other than `l` the new count is read from registers they share. -/
theorem raise (h : AgreeOff l b b') (m : Lane) (e : Event) :
    AgreeOff l (b.raise m e) (b'.raise m e) := by
  -- the raised lane gets the same registers on both sides unless it is `l` itself
  have hlane : ∀ f f' : LaneRegs → LaneRegs, (m ≠ l → f (b.lane m) = f' (b'.lane m)) →
      ∀ m', m' ≠ l → (b.modifyLane m f).lane m' = (b'.modifyLane m f').lane m' := by
    intro f f' hf m' hm'
    by_cases hmm : m = m'
    · subst hmm
      rw [lane_modifyLane_self, lane_modifyLane_self, hf hm']
    · rw [lane_modifyLane_of_ne _ _ hmm, lane_modifyLane_of_ne _ _ hmm, h.lane_eq m' hm']
  -- the raised bits are the same constant on both sides
  have hbits : ∀ (x y : UInt32) k, k / 4 ≠ l.index.val →
      (b.flags ||| x ||| y).toBitVec.getLsbD k = (b'.flags ||| x ||| y).toBitVec.getLsbD k := by
    intro x y k hk
    simp only [UInt32.toBitVec_or, BitVec.getLsbD_or, h.flag_eq k hk]
  unfold Bank.raise
  by_cases hc : e = .complete
  · simp only [hc, if_true]
    refine ⟨hlane
      (fun r => { r with count := if Control.circular (b.control m) then m.entry b.reload else 0 })
      (fun r => { r with count := if Control.circular (b'.control m) then m.entry b'.reload else 0 })
      ?_, h.reload_eq, fun k hk => hbits _ _ k hk, h.reads_eq, h.schedule_eq⟩
    intro hml
    rw [control, control, h.lane_eq m hml, h.reload_eq m hml]
  by_cases hh : e = .half
  · simp only [hh, if_true]
    refine ⟨hlane (fun r => { r with count := m.entry b.reload / 2 })
      (fun r => { r with count := m.entry b'.reload / 2 }) ?_,
      h.reload_eq, fun k hk => hbits _ _ k hk, h.reads_eq, h.schedule_eq⟩
    intro hml
    rw [h.lane_eq m hml, h.reload_eq m hml]
  by_cases he : e = .error
  · simp only [he, if_true]
    exact ⟨h.lane_eq, h.reload_eq, fun k hk => hbits _ _ k hk, h.reads_eq, h.schedule_eq⟩
  · simp only [hc, hh, he, if_false]
    exact h

/-- Events raised in turn on two banks that agree outside `l` leave them in agreement. -/
theorem foldl_raise (due : List Scheduled) (h : AgreeOff l b b') :
    AgreeOff l (due.foldl (fun acc s => acc.raise s.lane s.event) b)
      (due.foldl (fun acc s => acc.raise s.lane s.event) b') := by
  induction due generalizing b b' with
  | nil => exact h
  | cons x rest ih => exact ih (h.raise x.lane x.event)

/-- A read of two banks that agree outside `l` raises the same events on both. -/
theorem status (h : AgreeOff l b b') : AgreeOff l b.status.2 b'.status.2 := by
  unfold Bank.status
  rw [← h.reads_eq, ← h.schedule_eq]
  exact foldl_raise _ ⟨h.lane_eq, h.reload_eq, h.flag_eq, rfl, rfl⟩

theorem readN (h : AgreeOff l b b') (k : Nat) : AgreeOff l (b.readN k) (b'.readN k) := by
  induction k with
  | zero => exact h
  | succ k ih => exact ih.status

end AgreeOff

end Bank

end DmaOwnership
