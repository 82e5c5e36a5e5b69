import Mathlib
import DmaOwnership.Proofs.Lane.Program
/-!
# The fields of a control word

A control word is built by setters, each of which owns one field: the enable bit, the
three interrupt enables (bits 1-3), direction, circular mode, the two increments, both
item sizes (bits 8-11), the priority level (bits 12-13) and memory-to-memory mode
(bit 14). Every setter is a write of its field: the bits of the field are replaced by a
value that lies within them, and no other bit changes (`Setter.apply_eq_writeField`).

The laws of such writes (`writeField_and_not`, `writeField_and`, `writeField_writeField`,
`writeField_comm`) then give the rules of the setters at once: a setter changes only its
own field and leaves its value there, setters of different fields commute, and of two
writes of one field only the last one counts (`setter_writes_its_field`). An item size
is a size code of two bits; a larger code would spill into the priority field.
-/

namespace DmaOwnership.Control

/-! ## Writing one field -/

/-- The word with the bits of `field` replaced by `v`. -/
def writeField (w field v : UInt32) : UInt32 := (w &&& ~~~field) ||| v

section Laws

variable {w field v u : UInt32}

/-- A value that lies within its field has no bit outside it. -/
theorem getElem_of_within (hv : v &&& ~~~field = 0) {i : Nat} (hi : i < 32)
    (hb : v.toBitVec[i] = true) : field.toBitVec[i] = true := by
  have h := congrArg (fun x : UInt32 => x.toBitVec[i]) hv
  simp only [UInt32.toBitVec_and, UInt32.toBitVec_not, BitVec.getElem_and, BitVec.getElem_not,
    UInt32.toBitVec_zero, BitVec.getElem_zero, hb, Bool.true_and, Bool.not_eq_false'] at h
  exact h

/-- Each bit of a written word: the value's bit inside the field, the old bit outside. -/
theorem getElem_writeField (hv : v &&& ~~~field = 0) {i : Nat} (hi : i < 32) :
    (writeField w field v).toBitVec[i] = if field.toBitVec[i] then v.toBitVec[i] else w.toBitVec[i] := by
  have hin := getElem_of_within hv hi
  simp only [writeField, UInt32.toBitVec_or, UInt32.toBitVec_and, UInt32.toBitVec_not,
    BitVec.getElem_or, BitVec.getElem_and, BitVec.getElem_not]
  revert hin
  cases w.toBitVec[i] <;> cases field.toBitVec[i] <;> cases v.toBitVec[i] <;> simp

/-- A write changes no bit outside its field. -/
theorem writeField_and_not (hv : v &&& ~~~field = 0) :
    writeField w field v &&& ~~~field = w &&& ~~~field := by
  apply UInt32.toBitVec_inj.mp
  apply BitVec.eq_of_getElem_eq
  intro i hi
  simp only [UInt32.toBitVec_and, UInt32.toBitVec_not, BitVec.getElem_and, BitVec.getElem_not,
    getElem_writeField hv hi]
  cases field.toBitVec[i] <;> simp

/-- A write leaves its value in its field. -/
theorem writeField_and (hv : v &&& ~~~field = 0) : writeField w field v &&& field = v := by
  apply UInt32.toBitVec_inj.mp
  apply BitVec.eq_of_getElem_eq
  intro i hi
  have hin := getElem_of_within hv hi
  simp only [UInt32.toBitVec_and, BitVec.getElem_and, getElem_writeField hv hi]
  revert hin
  cases field.toBitVec[i] <;> cases v.toBitVec[i] <;> simp

/-- Of two writes of one field, only the last one counts. -/
theorem writeField_writeField (hu : u &&& ~~~field = 0) (hv : v &&& ~~~field = 0) :
    writeField (writeField w field u) field v = writeField w field v := by
  apply UInt32.toBitVec_inj.mp
  apply BitVec.eq_of_getElem_eq
  intro i hi
  rw [getElem_writeField hv hi, getElem_writeField hv hi, getElem_writeField hu hi]
  cases field.toBitVec[i] <;> simp

/-- Writes of two fields that share no bit commute. -/
theorem writeField_comm {f g : UInt32} (hfg : f &&& g = 0) (hv : v &&& ~~~f = 0)
    (hu : u &&& ~~~g = 0) :
    writeField (writeField w g u) f v = writeField (writeField w f v) g u := by
  apply UInt32.toBitVec_inj.mp
  apply BitVec.eq_of_getElem_eq
  intro i hi
  -- no bit lies in both fields
  have hboth : (f.toBitVec[i] && g.toBitVec[i]) = false := by
    have h := congrArg (fun x : UInt32 => x.toBitVec[i]) hfg
    simpa only [UInt32.toBitVec_and, BitVec.getElem_and, UInt32.toBitVec_zero,
      BitVec.getElem_zero] using h
  rw [getElem_writeField hv hi, getElem_writeField hu hi, getElem_writeField hu hi,
    getElem_writeField hv hi]
  revert hboth
  cases f.toBitVec[i] <;> cases g.toBitVec[i] <;> simp

end Laws

/-- Setting or clearing bits writes them as a field. -/
theorem setBits_eq_writeField (w bits : UInt32) (on : Bool) :
    setBits w bits on = writeField w bits (if on then bits else 0) := by
  cases on with
  | false => simp [setBits, writeField]
  | true =>
    apply UInt32.toBitVec_inj.mp
    apply BitVec.eq_of_getElem_eq
    intro i hi
    simp only [setBits, writeField, if_true, UInt32.toBitVec_or, UInt32.toBitVec_and,
      UInt32.toBitVec_not, BitVec.getElem_or, BitVec.getElem_and, BitVec.getElem_not]
    cases w.toBitVec[i] <;> cases bits.toBitVec[i] <;> simp

/-- A word no larger than three is one of the four two-bit codes. -/
theorem eq_of_le_three {s : UInt32} (h : s ≤ 3) : s = 0 ∨ s = 1 ∨ s = 2 ∨ s = 3 := by
  have hs : s.toNat ≤ 3 := UInt32.le_iff_toNat_le.mp h
  rw [← UInt32.toNat_inj, ← UInt32.toNat_inj, ← UInt32.toNat_inj, ← UInt32.toNat_inj]
  simp only [UInt32.reduceToNat]
  omega

/-! ## The fields and their setters -/

/-- The fields of a control word, one for each setter. -/
inductive Field where
  | enable
  | interrupts
  | fromMemory
  | circular
  | peripheralIncrement
  | memoryIncrement
  | itemSize
  | priority
  | memToMem
deriving DecidableEq, Repr

/-- The bits of a field, by their positions in the word. -/
def Field.bits : Field → UInt32
  | .enable => (1 : UInt32) <<< 0
  | .interrupts => (0b111 : UInt32) <<< 1
  | .fromMemory => (1 : UInt32) <<< 4
  | .circular => (1 : UInt32) <<< 5
  | .peripheralIncrement => (1 : UInt32) <<< 6
  | .memoryIncrement => (1 : UInt32) <<< 7
  | .itemSize => (0b1111 : UInt32) <<< 8
  | .priority => (0b11 : UInt32) <<< 12
  | .memToMem => (1 : UInt32) <<< 14

/-- Different fields share no bit. -/
theorem Field.bits_and_bits {f g : Field} (h : f ≠ g) : f.bits &&& g.bits = 0 := by
  revert h
  cases f <;> cases g <;> decide

/-- One setter of a control word with the value it is given. An item size is a two-bit size
code. -/
inductive Setter where
  | enable (on : Bool)
  | fromMemory (on : Bool)
  | circular (on : Bool)
  | peripheralIncrement (on : Bool)
  | memoryIncrement (on : Bool)
  | memToMem (on : Bool)
  | itemSize (size : UInt32) (fits : size ≤ 3)
  | priority (p : Priority)
  | interrupts (mask : UInt32)

namespace Setter

/-- The word after the setter. -/
def apply : Setter → UInt32 → UInt32
  | enable on, w => withEnable w on
  | fromMemory on, w => withFromMemory w on
  | circular on, w => withCircular w on
  | peripheralIncrement on, w => withPeripheralIncrement w on
  | memoryIncrement on, w => withMemoryIncrement w on
  | memToMem on, w => withMemToMem w on
  | itemSize s _, w => withItemSize w s
  | priority p, w => withPriority w p
  | interrupts m, w => withInterrupts w m

/-- The field the setter writes. -/
def field : Setter → Field
  | enable _ => .enable
  | fromMemory _ => .fromMemory
  | circular _ => .circular
  | peripheralIncrement _ => .peripheralIncrement
  | memoryIncrement _ => .memoryIncrement
  | memToMem _ => .memToMem
  | itemSize _ _ => .itemSize
  | priority _ => .priority
  | interrupts _ => .interrupts

/-- What the setter leaves in its field: a flag's bit exactly when it is set, the size code
in both size fields, the two low bits of the level, the interrupt enables of the mask. -/
def value (σ : Setter) : UInt32 :=
  match σ with
  | enable on | fromMemory on | circular on | peripheralIncrement on | memoryIncrement on
  | memToMem on => if on then σ.field.bits else 0
  | itemSize s _ => s <<< 8 ||| s <<< 10
  | priority p => (p.level % 4).toUInt32 <<< 12
  | interrupts m => m &&& 0b1110

/-- The value of a setter lies within its field. -/
theorem value_and_not_bits (σ : Setter) : σ.value &&& ~~~σ.field.bits = 0 := by
  cases σ with
  | enable on | fromMemory on | circular on | peripheralIncrement on | memoryIncrement on
  | memToMem on => cases on <;> decide
  | itemSize s hs =>
    simp only [value, field]
    rcases eq_of_le_three hs with rfl | rfl | rfl | rfl <;> decide
  | priority p =>
    -- the level modulo four is one of the four two-bit codes
    have hp : (p.level % 4).toUInt32 ≤ 3 := by
      rw [UInt32.le_iff_toNat_le, UInt8.toNat_toUInt32, UInt8.toNat_mod]
      exact Nat.le_of_lt_succ (Nat.mod_lt _ (by decide))
    simp only [value, field]
    rcases eq_of_le_three hp with h | h | h | h <;> rw [h] <;> decide
  | interrupts m =>
    simp only [value, field, Field.bits]
    rw [UInt32.and_assoc]
    exact UInt32.and_zero

/-- Every setter writes its field with its value. -/
theorem apply_eq_writeField (σ : Setter) (w : UInt32) :
    σ.apply w = writeField w σ.field.bits σ.value := by
  cases σ with
  | enable on | fromMemory on | circular on | peripheralIncrement on | memoryIncrement on
  | memToMem on => exact setBits_eq_writeField w _ on
  | itemSize s hs => simp only [apply, withItemSize, writeField, UInt32.or_assoc]; rfl
  | priority p => simp only [apply, withPriority, writeField, priority_field]; rfl
  | interrupts m => rfl

end Setter

/-- A setter of a control word changes only its own field and leaves its value there: a
flag's bit set exactly when it is given `true`, both item sizes set to the size code, the
priority field to the level modulo four, the interrupt enables to the mask's bits 1-3.
Setters of different fields commute, and of two setters of one field only the last one
counts. -/
theorem setter_writes_its_field (σ τ : Setter) (w : UInt32) :
    σ.apply w &&& ~~~σ.field.bits = w &&& ~~~σ.field.bits ∧
      σ.apply w &&& σ.field.bits = σ.value ∧
      (σ.field ≠ τ.field → σ.apply (τ.apply w) = τ.apply (σ.apply w)) ∧
      (σ.field = τ.field → σ.apply (τ.apply w) = σ.apply w) := by
  simp only [Setter.apply_eq_writeField]
  refine ⟨writeField_and_not σ.value_and_not_bits, writeField_and σ.value_and_not_bits,
    fun hne => writeField_comm (Field.bits_and_bits hne) σ.value_and_not_bits
      τ.value_and_not_bits, fun heq => ?_⟩
  -- both write the same bits
  have hτ := τ.value_and_not_bits
  rw [← heq] at hτ ⊢
  exact writeField_writeField hτ σ.value_and_not_bits

/-- Setting the priority to high and the enable bit commute, and of two priorities set one
after the other the last one stays. -/
theorem priority_and_enable_commute :
    (Setter.priority ⟨2⟩).apply ((Setter.enable true).apply 0x0A51) =
      (Setter.enable true).apply ((Setter.priority ⟨2⟩).apply 0x0A51) ∧
    (Setter.priority ⟨2⟩).apply ((Setter.priority ⟨3⟩).apply 0x0A51) =
      (Setter.priority ⟨2⟩).apply 0x0A51 :=
  ⟨(setter_writes_its_field (.priority ⟨2⟩) (.enable true) 0x0A51).2.2.1 (by decide),
    (setter_writes_its_field (.priority ⟨2⟩) (.priority ⟨3⟩) 0x0A51).2.2.2 rfl⟩


/-- A word built from zero by six setters, and cleared back by four of them. -/
example : [Setter.enable true, .circular true, .memoryIncrement true, .itemSize 1 (by decide),
    .priority ⟨3⟩, .interrupts 0b110].foldl (fun w σ => σ.apply w) 0 = 0x35A7 ∧
    [Setter.enable false, .itemSize 0 (by decide), .priority ⟨0⟩, .interrupts 0].foldl
      (fun w σ => σ.apply w) 0x35A7 = 0xA0 := by
  decide

end DmaOwnership.Control
