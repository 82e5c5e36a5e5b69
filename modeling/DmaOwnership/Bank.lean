import DmaOwnership.Lane
import DmaOwnership.Event
/-!
# The register bank

The register bank stands for the controller's hardware: every lane has a control word, a
count, a peripheral address and a memory reference, and all lanes share one status word. The
engine is not simulated; its events are raised on demand or scheduled to fall due at a later
status read. *Complete* sets the lane's global and complete flags and reloads or zeroes the
count, *half* sets the global and half flags and halves the count, *error* sets the global
and error flags, other codes do nothing. A count written while the lane is enabled is
ignored. Every status read is counted and first raises the events falling due, in
scheduling order; a clear with a lane's global flag clears its whole nibble.
-/

namespace DmaOwnership

/-- What a lane's memory-address register points at. -/
inductive MemRef where
  /-- The register holds zero. -/
  | none
  /-- The first item of a one-shot buffer, by its handle. -/
  | buffer (id : Nat)
  /-- The first item of a ring, by its handle. -/
  | ring (id : Nat)
deriving DecidableEq, Repr

/-- The registers of one lane. -/
structure LaneRegs where
  /-- The control word. -/
  control : UInt32 := 0
  /-- The number of items left to move. -/
  count : UInt32 := 0
  /-- The peripheral address. -/
  peripheral : UInt64 := 0
  /-- The memory address. -/
  memory : MemRef := .none
deriving DecidableEq, Repr

/-- An event scheduled to be raised at a later read of the status word. -/
structure Scheduled where
  /-- The status read at or after which the event is raised, as a signed 64-bit count. -/
  due : Int
  /-- The lane of the event. -/
  lane : Lane
  /-- The event. -/
  event : Event
deriving DecidableEq, Repr

/-- A sum kept to signed 64 bits, wrapping as machine integers do. -/
def wrap64 (x : Int) : Int := Int.bmod x 18446744073709551616

/-- The register bank of the controller. -/
structure Bank where
  /-- The status word. -/
  flags : UInt32 := 0
  /-- The registers of the seven lanes. -/
  regs : Vector LaneRegs 7 := Vector.replicate 7 {}
  /-- The reload value of each lane: the last count written to it. -/
  reload : Vector UInt32 7 := Vector.replicate 7 0
  /-- How many times the status word has been read. -/
  reads : Nat := 0
  /-- The scheduled events, in the order they were scheduled. -/
  schedule : List Scheduled := []
deriving Repr

namespace Bank

/-- The registers of a lane. -/
def lane (b : Bank) (l : Lane) : LaneRegs := l.entry b.regs

/-- The bank with the registers of a lane changed by `f`. -/
def modifyLane (b : Bank) (l : Lane) (f : LaneRegs → LaneRegs) : Bank :=
  { b with regs := l.setEntry b.regs (f (b.lane l)) }

/-- The control word of a lane. -/
def control (b : Bank) (l : Lane) : UInt32 := (b.lane l).control

/-- The count of a lane. -/
def count (b : Bank) (l : Lane) : UInt32 := (b.lane l).count

/-- The bank with a new control word for a lane. -/
def setControl (b : Bank) (l : Lane) (v : UInt32) : Bank :=
  b.modifyLane l fun r => { r with control := v }

/-- The bank with a new count for a lane; ignored while the lane is enabled. -/
def setCount (b : Bank) (l : Lane) (n : UInt32) : Bank :=
  if Control.enabled (b.control l) then b
  else { b.modifyLane l (fun r => { r with count := n }) with
         reload := l.setEntry b.reload n }

/-- The bank with a new peripheral address for a lane. -/
def setPeripheral (b : Bank) (l : Lane) (a : UInt64) : Bank :=
  b.modifyLane l fun r => { r with peripheral := a }

/-- The bank with a new memory reference for a lane. -/
def setMemory (b : Bank) (l : Lane) (m : MemRef) : Bank :=
  b.modifyLane l fun r => { r with memory := m }

/-- The bank after the engine reports an event on a lane. -/
def raise (b : Bank) (l : Lane) (e : Event) : Bank :=
  let reload := l.entry b.reload
  if e = .complete then
    let count := if Control.circular (b.control l) then reload else 0
    { b.modifyLane l (fun r => { r with count }) with
      flags := b.flags ||| l.globalFlag ||| l.completeFlag }
  else if e = .half then
    { b.modifyLane l (fun r => { r with count := reload / 2 }) with
      flags := b.flags ||| l.globalFlag ||| l.halfFlag }
  else if e = .error then
    { b with flags := b.flags ||| l.globalFlag ||| l.errorFlag }
  else b

/-- Reads the status word: counts the read, raises what has fallen due, answers the word. -/
def status (b : Bank) : UInt32 × Bank :=
  let reads := b.reads + 1
  let due := b.schedule.filter fun s => decide (s.due ≤ (reads : Int))
  let kept := b.schedule.filter fun s => !decide (s.due ≤ (reads : Int))
  let b' := due.foldl (fun acc s => acc.raise s.lane s.event) { b with reads, schedule := kept }
  (b'.flags, b')

/-- One lane's step of widening a mask: if the mask has the lane's global flag, it
gets the lane's whole nibble. -/
def widenStep (m : UInt32) (l : Lane) : UInt32 :=
  if m &&& l.globalFlag != 0 then m ||| l.flags else m

/-- The mask widened lane by lane, in place, so that a lane's global flag stands for
its whole nibble. -/
def widenMask (mask : UInt32) : UInt32 := Lane.all.foldl widenStep mask

/-- Whether a clear with `mask` takes away bit `k` of the status word: the mask has
the bit, or the bit lies in the nibble of a lane whose global flag the mask has. -/
def clearedBy (mask : UInt32) (k : Nat) : Bool :=
  mask.toBitVec.getLsbD k || (decide (k < 28) && mask.toBitVec.getLsbD (4 * (k / 4)))

/-- The bank after writing `mask` to the clear register. -/
def clear (b : Bank) (mask : UInt32) : Bank :=
  { b with flags := b.flags &&& ~~~(widenMask mask) }

/-- The bank after a lane is programmed for a transfer: a zero control word, the lane's
flags cleared, the peripheral address, the memory reference and the count written, and
last the control word `word`. -/
def program (b : Bank) (l : Lane) (peripheral : UInt64) (memory : MemRef) (count : UInt32)
    (word : UInt32) : Bank :=
  let b := b.setControl l 0
  let b := b.clear l.flags
  let b := b.setPeripheral l peripheral
  let b := b.setMemory l memory
  let b := b.setCount l count
  b.setControl l word

/-- Schedules an event on a lane for the status read `polls` reads from now. -/
def scheduleAfter (b : Bank) (polls : Int) (l : Lane) (e : Event) : Bank :=
  { b with schedule := b.schedule ++ [⟨wrap64 (b.reads + polls), l, e⟩] }

/-- The events scheduled on a lane, in schedule order. -/
def pending (b : Bank) (l : Lane) : List Event :=
  (b.schedule.filter fun s => s.lane = l).map (·.event)

/-- How many of the next status reads nothing falls due at: all those before the
earliest scheduled time, and none when nothing is scheduled. -/
def quietReads (b : Bank) : Nat :=
  match (b.schedule.map (·.due)).min? with
  | some m => (m - (b.reads + 1 : Nat)).toNat
  | none => 0

theorem raise_reads (b : Bank) (l : Lane) (e : Event) : (b.raise l e).reads = b.reads := by
  unfold raise
  split
  · rfl
  · split
    · rfl
    · split <;> rfl

theorem foldl_raise_reads (due : List Scheduled) (acc : Bank) :
    (due.foldl (fun acc s => acc.raise s.lane s.event) acc).reads = acc.reads := by
  induction due generalizing acc with
  | nil => rfl
  | cons s rest ih => simp only [List.foldl_cons, ih, raise_reads]

theorem status_reads (b : Bank) : (b.status.2).reads = b.reads + 1 := by
  simp only [status, foldl_raise_reads]

theorem widenStep_getLsbD (m : UInt32) (l : Lane) (k : Nat) :
    (widenStep m l).toBitVec.getLsbD k =
      (m.toBitVec.getLsbD k ||
        (m.toBitVec.getLsbD (4 * l.index.val) && decide (k / 4 = l.index.val))) := by
  unfold widenStep
  rw [Lane.and_globalFlag_ne_zero]
  by_cases h : m.toBitVec.getLsbD (4 * l.index.val)
  · have hn : (decide (4 * l.index.val ≤ k) && decide (k < 4 * l.index.val + 4)) =
        decide (k / 4 = l.index.val) := by
      rw [Bool.eq_iff_iff]
      simp only [Bool.and_eq_true, decide_eq_true_eq]
      omega
    simp [h, BitVec.getLsbD_or, Lane.flags_getLsbD, hn]
  · simp [h]

theorem foldl_widenStep_getLsbD (ls : List Lane) (hls : ls.Nodup) (m : UInt32) (k : Nat) :
    (ls.foldl widenStep m).toBitVec.getLsbD k =
      (m.toBitVec.getLsbD k || ls.any fun l =>
        m.toBitVec.getLsbD (4 * l.index.val) && decide (k / 4 = l.index.val)) := by
  induction ls generalizing m with
  | nil => simp
  | cons l rest ih =>
    rw [List.foldl_cons, ih (List.nodup_cons.mp hls).2, widenStep_getLsbD, List.any_cons]
    have key : ∀ l' ∈ rest, (widenStep m l).toBitVec.getLsbD (4 * l'.index.val) =
        m.toBitVec.getLsbD (4 * l'.index.val) := by
      intro l' hl'
      have hne : l'.index.val ≠ l.index.val := by
        intro heq
        apply (List.nodup_cons.mp hls).1
        have : l' = l := by
          obtain ⟨⟨a, ha⟩⟩ := l'
          obtain ⟨⟨b, hb⟩⟩ := l
          simp only at heq
          subst heq
          rfl
        exact this ▸ hl'
      rw [widenStep_getLsbD]
      have : decide (4 * l'.index.val / 4 = l.index.val) = false := by
        simp only [decide_eq_false_iff_not]
        omega
      simp only [this, Bool.and_false, Bool.or_false]
    have hrest : (rest.any fun l' => (widenStep m l).toBitVec.getLsbD (4 * l'.index.val) &&
        decide (k / 4 = l'.index.val)) =
        (rest.any fun l' => m.toBitVec.getLsbD (4 * l'.index.val) && decide (k / 4 = l'.index.val)) := by
      rw [Bool.eq_iff_iff, List.any_eq_true, List.any_eq_true]
      constructor
      · rintro ⟨l', hl', h⟩
        exact ⟨l', hl', by rwa [key l' hl'] at h⟩
      · rintro ⟨l', hl', h⟩
        exact ⟨l', hl', by rwa [key l' hl']⟩
    rw [hrest]
    cases m.toBitVec.getLsbD k <;> simp

theorem any_all (m : UInt32) (k : Nat) :
    (Lane.all.any fun l => m.toBitVec.getLsbD (4 * l.index.val) && decide (k / 4 = l.index.val)) =
      (decide (k < 28) && m.toBitVec.getLsbD (4 * (k / 4))) := by
  rw [Bool.eq_iff_iff, List.any_eq_true]
  constructor
  · rintro ⟨l, -, hl⟩
    simp only [Bool.and_eq_true, decide_eq_true_eq] at hl ⊢
    obtain ⟨hm, hk⟩ := hl
    refine ⟨by have := l.index.isLt; omega, ?_⟩
    rw [hk]
    exact hm
  · intro h
    simp only [Bool.and_eq_true, decide_eq_true_eq] at h
    refine ⟨⟨⟨k / 4, by omega⟩⟩, ?_, ?_⟩
    · simp [Lane.all]
    · simp [h.2]

theorem widenMask_getLsbD (m : UInt32) (k : Nat) :
    (widenMask m).toBitVec.getLsbD k = clearedBy m k := by
  rw [widenMask, foldl_widenStep_getLsbD _ Lane.nodup_all, any_all, clearedBy]

theorem clear_flags_getLsbD (b : Bank) (m : UInt32) (k : Nat) :
    (b.clear m).flags.toBitVec.getLsbD k = (b.flags.toBitVec.getLsbD k && !clearedBy m k) := by
  simp only [clear, UInt32.toBitVec_and, UInt32.toBitVec_not, BitVec.getLsbD_and,
    BitVec.getLsbD_not, widenMask_getLsbD]
  by_cases hk : k < 32
  · simp [hk]
  · simp [hk, BitVec.getLsbD_of_ge b.flags.toBitVec k (by omega)]

theorem clearedBy_or (x y : UInt32) (k : Nat) :
    clearedBy (x ||| y) k = (clearedBy x k || clearedBy y k) := by
  simp only [clearedBy, UInt32.toBitVec_or, BitVec.getLsbD_or]
  cases x.toBitVec.getLsbD k <;> cases y.toBitVec.getLsbD k <;>
    cases x.toBitVec.getLsbD (4 * (k / 4)) <;> cases y.toBitVec.getLsbD (4 * (k / 4)) <;> simp

theorem clear_clear (b : Bank) (x y : UInt32) : (b.clear x).clear y = b.clear (x ||| y) := by
  have h : ((b.clear x).clear y).flags = (b.clear (x ||| y)).flags := by
    apply UInt32.toBitVec_inj.mp
    apply BitVec.eq_of_getLsbD_eq
    intro k _
    simp only [clear_flags_getLsbD, clearedBy_or]
    cases b.flags.toBitVec.getLsbD k <;> cases clearedBy x k <;> cases clearedBy y k <;> rfl
  simp only [clear] at h ⊢
  rw [h]

end Bank

end DmaOwnership
