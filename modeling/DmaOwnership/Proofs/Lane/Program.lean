import Mathlib
import DmaOwnership.Proofs.Spec.Transfer
import DmaOwnership.Proofs.Spec.Stream
import DmaOwnership.Proofs.Stream.Reader
/-!
# What a start leaves on its lane

A start programs its lane from scratch: a zero control word, the four flags cleared, both
addresses and the count written while the lane is disabled, then the transfer's control word
and the enable bit. The setters that build the word each write one field the earlier ones left
clear, so the word is the union of its fields (`Control.withEnable_transferWord`),
`Control.startWord`:
`EN | DIR·[from memory] | CIRC·[circular] | MINC | w<<8 | w<<10 | (p mod 4)<<12 | irq`.
Nothing the lane's registers held before survives (`start_programs_lane`).
-/

namespace DmaOwnership

namespace Control

/-- The control word a start leaves on its lane: enabled, the direction bit when the engine
reads memory, circular mode for a circular transfer, memory increment, both item sizes, the
two low bits of the priority level and the lane's interrupt enables. -/
def startWord (fromMemory circular : Bool) (width : Width) (p : Priority) (irq : UInt32) :
    UInt32 :=
  enableBit ||| (if fromMemory then fromMemoryBit else 0) ||| (if circular then circularBit else 0) |||
    memoryIncrementBit ||| (width.code <<< 8) ||| (width.code <<< 10) |||
    ((p.level % 4).toUInt32 <<< 12) ||| (irq &&& irqMask)

/-- The configuration a start hands to programming: direction, circular mode and item
sizes, on a zero word. -/
def configWord (fromMemory circular : Bool) (width : Width) : UInt32 :=
  withWidth (withCircular (withFromMemory 0 fromMemory) circular) width

/-- The fields of a configuration: direction, circular mode and both item sizes. -/
def configMask : UInt32 := 0xF30

/-! ## Words with disjoint fields -/

/-- A word with no bit of `m` keeps all its bits when `m` is cleared. -/
theorem and_not_of_and_eq_zero {w m : UInt32} (h : w &&& m = 0) : w &&& ~~~m = w := by
  apply UInt32.toBitVec_inj.mp
  apply BitVec.eq_of_getElem_eq
  intro i hi
  have hb := congrArg (fun x : UInt32 => x.toBitVec[i]) h
  simp only [UInt32.toBitVec_and, BitVec.getElem_and, UInt32.toBitVec_zero,
    BitVec.getElem_zero] at hb
  simp only [UInt32.toBitVec_and, UInt32.toBitVec_not, BitVec.getElem_and, BitVec.getElem_not]
  revert hb
  cases w.toBitVec[i] <;> cases m.toBitVec[i] <;> simp

/-- A word whose bits outside `m` are clear lies within `m`. -/
theorem and_of_and_not_eq_zero {w m : UInt32} (h : w &&& ~~~m = 0) : w &&& m = w := by
  apply UInt32.toBitVec_inj.mp
  apply BitVec.eq_of_getElem_eq
  intro i hi
  have hb := congrArg (fun x : UInt32 => x.toBitVec[i]) h
  simp only [UInt32.toBitVec_and, UInt32.toBitVec_not, BitVec.getElem_and, BitVec.getElem_not,
    UInt32.toBitVec_zero, BitVec.getElem_zero] at hb
  simp only [UInt32.toBitVec_and, BitVec.getElem_and]
  revert hb
  cases w.toBitVec[i] <;> cases m.toBitVec[i] <;> simp

/-- Two words that share no bit with `m` make a union that shares none. -/
theorem or_and_eq_zero {x y m : UInt32} (hx : x &&& m = 0) (hy : y &&& m = 0) :
    (x ||| y) &&& m = 0 := by
  apply UInt32.toBitVec_inj.mp
  apply BitVec.eq_of_getElem_eq
  intro i hi
  have hx' := congrArg (fun x : UInt32 => x.toBitVec[i]) hx
  have hy' := congrArg (fun x : UInt32 => x.toBitVec[i]) hy
  simp only [UInt32.toBitVec_and, BitVec.getElem_and, UInt32.toBitVec_zero,
    BitVec.getElem_zero] at hx' hy'
  simp only [UInt32.toBitVec_and, UInt32.toBitVec_or, BitVec.getElem_and, BitVec.getElem_or,
    UInt32.toBitVec_zero, BitVec.getElem_zero]
  revert hx' hy'
  cases x.toBitVec[i] <;> cases y.toBitVec[i] <;> cases m.toBitVec[i] <;> simp

/-- The bits of `x` inside a field `k` share none with a mask that `k` shares none with. -/
theorem and_and_eq_zero (x : UInt32) {k m : UInt32} (h : k &&& m = 0) : x &&& k &&& m = 0 := by
  rw [UInt32.and_assoc, h, UInt32.and_zero]

/-- A word that shares no bit with `m` shares none with a part `k` of `m`. -/
theorem and_eq_zero_of_part {x k m : UInt32} (h : x &&& m = 0) (hk : m &&& k = k) : x &&& k = 0 := by
  rw [← hk, ← UInt32.and_assoc, h, UInt32.zero_and]

theorem setBits_false {w b : UInt32} (h : w &&& b = 0) : setBits w b false = w :=
  and_not_of_and_eq_zero h

theorem setBits_true (w b : UInt32) : setBits w b true = w ||| b := rfl

/-! ## The fields of a start's word -/

/-- The priority field holds the level's two low bits, the level modulo four. -/
theorem priority_field (p : Priority) :
    (p.level.toUInt32 &&& 3) <<< 12 = (p.level % 4).toUInt32 <<< 12 := by
  congr 1
  apply UInt32.toNat_inj.mp
  simp only [UInt32.toNat_and, UInt8.toNat_toUInt32, UInt8.toNat_mod]
  exact Nat.and_two_pow_sub_one_eq_mod _ 2

/-- The priority field lies within the priority mask. -/
theorem priority_field_eq (p : Priority) :
    (p.level.toUInt32 &&& 3) <<< 12 = p.level.toUInt32 <<< 12 &&& priorityMask := by
  rw [UInt32.shiftLeft_and]
  rfl

theorem configWord_eq (fromMemory circular : Bool) (width : Width) :
    configWord fromMemory circular width =
      (if fromMemory then fromMemoryBit else 0) ||| (if circular then circularBit else 0) |||
        (width.code <<< 8) ||| (width.code <<< 10) := by
  cases fromMemory <;> cases circular <;> cases width <;> decide

theorem configWord_and_configMask (fromMemory circular : Bool) (width : Width) :
    configWord fromMemory circular width &&& configMask = configWord fromMemory circular width := by
  cases fromMemory <;> cases circular <;> cases width <;> decide

/-- A start's word is the union of its fields: configuration, priority, interrupt enables,
memory increment and enable. -/
theorem startWord_eq_fields (fromMemory circular : Bool) (width : Width) (p : Priority)
    (irq : UInt32) :
    startWord fromMemory circular width p irq =
      configWord fromMemory circular width ||| (p.level.toUInt32 <<< 12 &&& priorityMask) |||
        (irq &&& irqMask) ||| memoryIncrementBit ||| enableBit := by
  rw [configWord_eq, ← priority_field_eq, priority_field, startWord]
  ac_rfl

/-- The union of a configuration `c` with a priority, interrupt enables, memory increment and
enable shares no bit with a mask that none of these fields reaches. -/
theorem fields_and_eq_zero {c : UInt32} (hc : c &&& configMask = c) (q irq : UInt32) {m : UInt32}
    (hcm : configMask &&& m = 0) (hp : priorityMask &&& m = 0) (hi : irqMask &&& m = 0)
    (hmi : memoryIncrementBit &&& m = 0) (he : enableBit &&& m = 0) :
    (c ||| (q &&& priorityMask) ||| (irq &&& irqMask) ||| memoryIncrementBit ||| enableBit) &&&
      m = 0 := by
  have hc' : c &&& m = 0 := by
    rw [← hc]
    exact and_and_eq_zero c hcm
  exact or_and_eq_zero (or_and_eq_zero (or_and_eq_zero (or_and_eq_zero hc'
    (and_and_eq_zero q hp)) (and_and_eq_zero irq hi)) hmi) he

/-- Programming a configuration `c` and then enabling gives the union of `c` with the lane's
priority, its interrupt enables, memory increment and enable: each setter writes a field
that the word does not have yet, or clears one it does not have. -/
theorem withEnable_transferWord (st : LaneState) {c : UInt32} (hc : c &&& configMask = c) :
    withEnable (Lane.transferWord st c) true =
      c ||| (st.priority.level.toUInt32 <<< 12 &&& priorityMask) ||| (st.irq &&& irqMask) |||
        memoryIncrementBit ||| enableBit := by
  -- the word after the priority and the interrupt enables are written
  have hword : ∀ m, configMask &&& m = 0 → priorityMask &&& m = 0 → irqMask &&& m = 0 →
      (c ||| (st.priority.level.toUInt32 <<< 12 &&& priorityMask) ||| (st.irq &&& irqMask)) &&&
        m = 0 := fun m hcm hp hi => by
    have hc' : c &&& m = 0 := by
      rw [← hc]
      exact and_and_eq_zero c hcm
    exact or_and_eq_zero (or_and_eq_zero hc' (and_and_eq_zero _ hp)) (and_and_eq_zero _ hi)
  have hprio : withPriority c st.priority =
      c ||| (st.priority.level.toUInt32 <<< 12 &&& priorityMask) := by
    have hc' : c &&& priorityMask = 0 := by
      rw [← hc]
      exact and_and_eq_zero c (by decide)
    rw [withPriority, and_not_of_and_eq_zero hc', priority_field_eq]
  have hirq : withInterrupts (c ||| (st.priority.level.toUInt32 <<< 12 &&& priorityMask)) st.irq =
      c ||| (st.priority.level.toUInt32 <<< 12 &&& priorityMask) ||| (st.irq &&& irqMask) := by
    have hc' : c &&& irqMask = 0 := by
      rw [← hc]
      exact and_and_eq_zero c (by decide)
    rw [withInterrupts, and_not_of_and_eq_zero (or_and_eq_zero hc' (and_and_eq_zero _ (by decide)))]
  -- then peripheral increment is cleared, memory increment set, memory-to-memory mode
  -- cleared and the enable bit written twice, none of them a bit the word has
  show setBits (setBits (setBits (setBits (setBits (withInterrupts (withPriority c st.priority)
    st.irq) peripheralIncrementBit false) memoryIncrementBit true) memToMemBit false) enableBit
    false) enableBit true = _
  rw [hprio, hirq, setBits_false (hword _ (by decide) (by decide) (by decide)),
    setBits_true _ memoryIncrementBit,
    setBits_false (or_and_eq_zero (hword _ (by decide) (by decide) (by decide)) (by decide)),
    setBits_false (or_and_eq_zero (hword _ (by decide) (by decide) (by decide)) (by decide)),
    setBits_true]

/-- A start's word from the lane's settings is `startWord`. -/
theorem withEnable_transferWord_configWord (st : LaneState) (fromMemory circular : Bool)
    (width : Width) :
    withEnable (Lane.transferWord st (configWord fromMemory circular width)) true =
      startWord fromMemory circular width st.priority st.irq := by
  rw [withEnable_transferWord st (configWord_and_configMask fromMemory circular width),
    startWord_eq_fields]

/-- The bits a start's word may have: bits 0 to 13, less peripheral increment. -/
def startBits : UInt32 := 0x3FBF

/-- A start's word has no bit outside `startBits`. -/
theorem startWord_and_not_startBits (fromMemory circular : Bool) (width : Width) (p : Priority)
    (irq : UInt32) : startWord fromMemory circular width p irq &&& ~~~startBits = 0 := by
  rw [startWord_eq_fields]
  exact fields_and_eq_zero (configWord_and_configMask fromMemory circular width) _ irq
    (by decide) (by decide) (by decide) (by decide) (by decide)

/-- A start's word leaves peripheral increment, memory-to-memory mode and every bit above 13
clear. -/
theorem startWord_clear (fromMemory circular : Bool) (width : Width) (p : Priority)
    (irq : UInt32) :
    startWord fromMemory circular width p irq &&& (peripheralIncrementBit ||| memToMemBit) = 0 ∧
      (startWord fromMemory circular width p irq).toNat < 2 ^ 14 := by
  have h := startWord_and_not_startBits fromMemory circular width p irq
  refine ⟨and_eq_zero_of_part h (by decide), ?_⟩
  -- the word lies within `startBits`, which is below `2 ^ 14`
  rw [← and_of_and_not_eq_zero h, UInt32.toNat_and]
  exact Nat.lt_of_le_of_lt Nat.and_le_right (by decide)

end Control

namespace Bank

variable (b : Bank) (l : Lane) (p : UInt64) (m : MemRef) (n w v : UInt32)

@[simp] theorem lane_clear (mask : UInt32) : (b.clear mask).lane l = b.lane l := rfl

theorem lane_setControl_self : (b.setControl l v).lane l = { b.lane l with control := v } :=
  lane_modifyLane_self _ _ _

theorem lane_setPeripheral_self : (b.setPeripheral l p).lane l = { b.lane l with peripheral := p } :=
  lane_modifyLane_self _ _ _

theorem lane_setMemory_self : (b.setMemory l m).lane l = { b.lane l with memory := m } :=
  lane_modifyLane_self _ _ _

/-- A count written to a disabled lane is its count and its reload value. -/
theorem setCount_of_disabled (h : Control.enabled (b.control l) = false) :
    (b.setCount l n).lane l = { b.lane l with count := n } ∧ l.entry (b.setCount l n).reload = n := by
  rw [setCount, if_neg (by rw [h]; decide)]
  exact ⟨lane_modifyLane_self b l fun r => { r with count := n }, Lane.entry_setEntry _ _ _⟩

/-- Programming leaves the lane disabled until its last write, so the count is written. -/
theorem control_before_count :
    Control.enabled ((((b.setControl l 0).clear l.flags).setPeripheral l p).setMemory l m |>.control l) =
      false := by
  rw [control, lane_setMemory_self, lane_setPeripheral_self, lane_clear, lane_setControl_self]
  dsimp only
  decide

/-- A lane programmed and then given control word `v` holds `v`, the count and both
addresses. -/
theorem lane_program_setControl :
    ((b.program l p m n w).setControl l v).lane l = ⟨v, n, p, m⟩ := by
  rw [lane_setControl_self, program]
  dsimp only
  rw [lane_setControl_self, (setCount_of_disabled _ l n (control_before_count b l p m)).1,
    lane_setMemory_self, lane_setPeripheral_self, lane_clear, lane_setControl_self]

/-- The count written while the lane is disabled is also its reload value. -/
theorem reload_program_setControl :
    l.entry ((b.program l p m n w).setControl l v).reload = n :=
  (setCount_of_disabled _ l n (control_before_count b l p m)).2

/-- A lane programmed and then given a control word shows none of its four flags. -/
theorem flags_program_setControl_and :
    ((b.program l p m n w).setControl l v).flags &&& l.flags = 0 := by
  show (b.program l p m n w).flags &&& l.flags = 0
  rw [flags_program]
  apply UInt32.toBitVec_inj.mp
  apply BitVec.eq_of_getLsbD_eq
  intro k _
  simp only [UInt32.toBitVec_and, BitVec.getLsbD_and, clear_flags_getLsbD, clearedBy_flags,
    Lane.flags_getLsbD, UInt32.toBitVec_zero, BitVec.getLsbD_zero]
  by_cases hk : k / 4 = l.index.val
  · simp [hk]
  · simp only [hk, decide_false, Bool.not_false, Bool.and_true, Bool.and_eq_false_iff]
    right
    simp only [decide_eq_false_iff_not]
    omega

end Bank

/-- What a start leaves on lane `l`: control word `word`, `items` in the count register and
as the reload value, the peripheral's address `address` and the memory's first item `ref` in
the address registers, none of the lane's four flags up, and the lane held. -/
structure Machine.Programmed (s : Machine) (l : Lane) (word : UInt32) (items : Nat)
    (address : UInt64) (ref : MemRef) : Prop where
  /-- The control word. -/
  control : s.bank.control l = word
  /-- The count register holds the item count. -/
  count : (s.bank.count l).toNat = items
  /-- So does the reload value. -/
  reload : (l.entry s.bank.reload).toNat = items
  /-- The peripheral-address register. -/
  peripheral : (s.bank.lane l).peripheral = address
  /-- The memory-address register. -/
  memory : (s.bank.lane l).memory = ref
  /-- None of the lane's four flags is up. -/
  flags : s.bank.flags &&& l.flags = 0
  /-- A transfer holds the lane. -/
  owned : (s.laneState l).owned = true

/-- A machine whose bank is programmed on lane `l` and then enabled, and whose lane is marked
held, is programmed with what was written; a count a register can hold reads back. -/
theorem Machine.Programmed.of_start {s s' : Machine} {l : Lane} {a : UInt64} {ref : MemRef}
    {n : Nat} {w : UInt32} (hn : n ≤ maxCount)
    (hb : s'.bank = (s.bank.program l a ref n.toUInt32 w).setControl l (Control.withEnable w true))
    (hl : s'.lanes = l.setEntry s.lanes { s.laneState l with owned := true }) :
    s'.Programmed l (Control.withEnable w true) n a ref := by
  have hlane := Bank.lane_program_setControl s.bank l a ref n.toUInt32 w (Control.withEnable w true)
  have hcount : n.toUInt32.toNat = n :=
    UInt32.toNat_ofNat_of_lt' (by unfold maxCount at hn; simp only [UInt32.size]; omega)
  refine ⟨?_, ?_, ?_, ?_, ?_, ?_, ?_⟩
  · rw [Bank.control, hb, hlane]
  · rw [Bank.count, hb, hlane, hcount]
  · rw [hb, Bank.reload_program_setControl, hcount]
  · rw [hb, hlane]
  · rw [hb, hlane]
  · rw [hb]
    exact Bank.flags_program_setControl_and _ _ _ _ _ _ _
  · rw [Machine.laneState, hl, Lane.entry_setEntry]

/-- A one-shot start that begins a transfer found its buffer, with a length a count can say
and a lock for its direction, and its peripheral; it programs the lane with them, enables it,
marks it held, tells the peripheral to raise requests and counts the start. -/
theorem Transfer.start_begins {dir : Direction} {l : Lane} {buf periph id : Nat} {s s' : Machine}
    (h : (Transfer.start dir l buf periph).run s = .ok (.ok id) s') :
    ∃ b b' p, s.buffers[buf]? = some b ∧ b.length ≤ maxCount ∧ dir.lock b = some b' ∧
      s.peripherals[periph]? = some p ∧
      s'.bank = (s.bank.program l p.address (.buffer buf) b.length.toUInt32
          (Lane.transferWord (s.laneState l) (Control.configWord dir.fromMemory false b.width))).setControl l
        (Control.withEnable (Lane.transferWord (s.laneState l)
          (Control.configWord dir.fromMemory false b.width)) true) ∧
      s'.lanes = l.setEntry s.lanes { s.laneState l with owned := true } ∧
      s'.peripherals = s.peripherals.modify periph Peripheral.enable ∧
      s'.counters = { s.counters with starts := s.counters.starts + 1 } := by
  rw [Transfer.run_start] at h
  split at h
  · cases h
  split at h
  · cases h
  rename_i b hb
  split at h
  · cases h
  rename_i hlen
  split at h
  · cases h
  rename_i b' hlock
  split at h
  · cases h
  rename_i p hp
  cases h
  exact ⟨b, b', p, hb, by omega, hlock, hp, rfl, rfl, rfl, rfl⟩

/-- A circular start that begins a transfer found its ring, with a length a count can say
and free, and its peripheral; it programs the lane with them, enables it, marks it held,
tells the peripheral to raise requests and counts the start. -/
theorem Stream.start_begins {l : Lane} {ring periph id : Nat} {s s' : Machine}
    (h : (Stream.start l ring periph).run s = .ok (.ok id) s') :
    ∃ r p, s.rings[ring]? = some r ∧ r.items.size ≤ maxCount ∧ r.phase = .free ∧
      s.peripherals[periph]? = some p ∧
      s'.bank = (s.bank.program l p.address (.ring ring) r.items.size.toUInt32
          (Lane.transferWord (s.laneState l) (Control.configWord false true r.width))).setControl l
        (Control.withEnable (Lane.transferWord (s.laneState l)
          (Control.configWord false true r.width)) true) ∧
      s'.lanes = l.setEntry s.lanes { s.laneState l with owned := true } ∧
      s'.peripherals = s.peripherals.modify periph Peripheral.enable ∧
      s'.counters = { s.counters with starts := s.counters.starts + 1 } := by
  rw [Stream.run_start] at h
  split at h
  · cases h
  split at h
  · cases h
  rename_i r hr
  split at h
  · cases h
  rename_i hlen
  split at h
  · cases h
  rename_i hfree
  split at h
  · cases h
  rename_i p hp
  cases h
  exact ⟨r, p, hr, by omega, by simpa using hfree, hp, rfl, rfl, rfl, rfl⟩

/-- Every start that begins a transfer, one-shot or circular, leaves its lane as a fresh
start would, whatever it held before: the control word `startWord`, the item count in the
count and reload registers, the peripheral's and the memory's addresses, the four flags
clear and the lane held; such a word has peripheral increment, no memory-to-memory mode
and every bit above 13 clear. -/
theorem start_programs_lane :
    (∀ (dir : Direction) (l : Lane) (buf periph id : Nat) (s s' : Machine),
      (Transfer.start dir l buf periph).run s = .ok (.ok id) s' →
      ∃ b p, s.buffers[buf]? = some b ∧ s.peripherals[periph]? = some p ∧
        s'.Programmed l (Control.startWord dir.fromMemory false b.width (s.laneState l).priority
          (s.laneState l).irq) b.length p.address (.buffer buf) ∧
        s'.peripherals[periph]? = some { p with enabled := true, enables := p.enables + 1 } ∧
        s'.counters.starts = s.counters.starts + 1) ∧
    (∀ (l : Lane) (ring periph id : Nat) (s s' : Machine),
      (Stream.start l ring periph).run s = .ok (.ok id) s' →
      ∃ r p, s.rings[ring]? = some r ∧ s.peripherals[periph]? = some p ∧
        s'.Programmed l (Control.startWord false true r.width (s.laneState l).priority
          (s.laneState l).irq) r.items.size p.address (.ring ring) ∧
        s'.peripherals[periph]? = some { p with enabled := true, enables := p.enables + 1 } ∧
        s'.counters.starts = s.counters.starts + 1) ∧
    (∀ (fromMemory circular : Bool) (width : Width) (p : Priority) (irq : UInt32),
      Control.startWord fromMemory circular width p irq &&&
          (Control.peripheralIncrementBit ||| Control.memToMemBit) = 0 ∧
        (Control.startWord fromMemory circular width p irq).toNat < 2 ^ 14) := by
  refine ⟨fun dir l buf periph id s s' h => ?_, fun l ring periph id s s' h => ?_,
    Control.startWord_clear⟩
  · obtain ⟨b, -, p, hb, hlen, -, hp, hbank, hlanes, hperiph, hcount⟩ := Transfer.start_begins h
    refine ⟨b, p, hb, hp, ?_, by rw [hperiph, Array.getElem?_modify, if_pos rfl, hp]; rfl,
      by rw [hcount]⟩
    rw [← Control.withEnable_transferWord_configWord]
    exact Machine.Programmed.of_start hlen hbank hlanes
  · obtain ⟨r, p, hr, hlen, -, hp, hbank, hlanes, hperiph, hcount⟩ := Stream.start_begins h
    refine ⟨r, p, hr, hp, ?_, by rw [hperiph, Array.getElem?_modify, if_pos rfl, hp]; rfl,
      by rw [hcount]⟩
    rw [← Control.withEnable_transferWord_configWord]
    exact Machine.Programmed.of_start hlen hbank hlanes

/-- Lane 4 with priority high, disabled but with every other bit of its control word left
set by an earlier transfer, a four-byte buffer and a peripheral. -/
def staleLaneMachine : Machine where
  bank := { regs := (Vector.replicate 7 ({} : LaneRegs)).set 3 { control := 0x7FFE, count := 9 } }
  lanes := (Vector.replicate 7 ({} : LaneState)).set 3 { priority := ⟨2⟩ }
  buffers := #[{ width := .w8, items := #[0xde, 0xad, 0xbe, 0xef] }]
  peripherals := #[{ address := 0x40013804 }]

/-- A write started there leaves lane 4 enabled, reading memory, incrementing it, with 8-bit
items and priority high, `0x2091`, and a count of four: none of the stale bits survives. -/
theorem write_start_programs_lane_four :
    ∃ s', (Transfer.start .toPeripheral ⟨3⟩ 0 0).run staleLaneMachine = .ok (.ok 0) s' ∧
      Control.startWord true false .w8 ⟨2⟩ 0 = 0x2091 ∧
      ∃ b p, staleLaneMachine.buffers[0]? = some b ∧ staleLaneMachine.peripherals[0]? = some p ∧
        s'.Programmed ⟨3⟩ (Control.startWord Direction.toPeripheral.fromMemory false b.width
          (staleLaneMachine.laneState ⟨3⟩).priority (staleLaneMachine.laneState ⟨3⟩).irq)
          b.length p.address (.buffer 0) ∧
        s'.peripherals[0]? = some { p with enabled := true, enables := p.enables + 1 } ∧
        s'.counters.starts = staleLaneMachine.counters.starts + 1 :=
  ⟨_, rfl, by decide, start_programs_lane.1 .toPeripheral ⟨3⟩ 0 0 0 staleLaneMachine _ rfl⟩

end DmaOwnership
