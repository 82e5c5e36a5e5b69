/-!
# Lanes of the controller

The controller has seven lanes. Outside they are numbered `1 … 7`; inside a lane is
its index `0 … 6`. All lanes share one status word in which lane `i` owns the nibble
at bit `4 * i`: the global flag, then transfer complete, half transfer and transfer
error. Writing a lane's global flag to the clear register clears its whole nibble.
-/

namespace DmaOwnership

/-- One of the seven lanes of the controller, by its index. -/
structure Lane where
  /-- The index of the lane, `0 … 6`. -/
  index : Fin 7
deriving DecidableEq, Repr

namespace Lane

/-- The lane's number as written outside, `1 … 7`. -/
def number (l : Lane) : Nat := l.index.val + 1

/-- The lane with the given outside number, if it is one of `1 … 7`. -/
def ofNumber? (n : Int) : Option Lane :=
  if h : 1 ≤ n ∧ n ≤ 7 then some ⟨⟨(n - 1).toNat, by omega⟩⟩ else none

/-- All seven lanes, in order of their numbers. -/
def all : List Lane := (List.finRange 7).map Lane.mk

/-- The lane's entry in a table with one entry per lane. -/
def entry {α : Type _} (l : Lane) (t : Vector α 7) : α := t[l.index]

/-- A table with one entry per lane, with the lane's entry replaced by `x`. -/
def setEntry {α : Type _} (l : Lane) (t : Vector α 7) (x : α) : Vector α 7 :=
  t.set l.index.val x l.index.isLt

/-- The position of the lane's nibble in the status word. -/
def shift (l : Lane) : UInt32 := 4 * l.index.val.toUInt32

/-- The global flag of the lane: set with every other flag of the lane. -/
def globalFlag (l : Lane) : UInt32 := 1 <<< l.shift

/-- The transfer-complete flag of the lane. -/
def completeFlag (l : Lane) : UInt32 := 2 <<< l.shift

/-- The half-transfer flag of the lane. -/
def halfFlag (l : Lane) : UInt32 := 4 <<< l.shift

/-- The transfer-error flag of the lane. -/
def errorFlag (l : Lane) : UInt32 := 8 <<< l.shift

/-- The whole nibble of the lane. -/
def flags (l : Lane) : UInt32 := 0xF <<< l.shift

theorem number_pos (l : Lane) : 0 < l.number := Nat.succ_pos _

theorem number_le (l : Lane) : l.number ≤ 7 := l.index.isLt

theorem ofNumber?_number (l : Lane) : ofNumber? (l.number : Int) = some l := by
  obtain ⟨⟨i, hi⟩⟩ := l
  unfold ofNumber? number
  split
  · simp only [Option.some.injEq, Lane.mk.injEq, Fin.mk.injEq]
    omega
  · omega

theorem length_all : all.length = 7 := by simp [all]

theorem entry_setEntry {α : Type _} (l : Lane) (t : Vector α 7) (x : α) :
    l.entry (l.setEntry t x) = x := by
  simp only [entry, setEntry, Fin.getElem_fin]
  exact Vector.getElem_set_self _

theorem entry_setEntry_of_ne {α : Type _} (l m : Lane) (t : Vector α 7) (x : α) (h : l ≠ m) :
    m.entry (l.setEntry t x) = m.entry t := by
  have hi : l.index.val ≠ m.index.val := fun e => h (congrArg Lane.mk (Fin.ext e))
  simp only [entry, setEntry, Fin.getElem_fin]
  exact Vector.getElem_set_ne _ _ hi

theorem nodup_all : all.Nodup := by
  unfold all
  exact List.Pairwise.map Lane.mk (fun a b h heq => h (by cases heq; rfl)) (List.nodup_finRange 7)

/-- The low nibble of a word has bits `0 … 3`. -/
theorem nibble_getLsbD (j : Nat) : (15#32).getLsbD j = decide (j < 4) := by
  rw [BitVec.getLsbD_ofNat]
  have : (15 : Nat) = 2 ^ 4 - 1 := rfl
  rw [this, Nat.testBit_two_pow_sub_one]
  by_cases h : j < 4
  · simp [h]
    omega
  · simp [h]

/-- The nibble of a lane has bits `4i … 4i+3`. -/
theorem flags_getLsbD (l : Lane) (k : Nat) :
    l.flags.toBitVec.getLsbD k = (decide (4 * l.index.val ≤ k) && decide (k < 4 * l.index.val + 4)) := by
  obtain ⟨⟨i, hi⟩⟩ := l
  simp [flags, shift, nibble_getLsbD]
  rw [Bool.eq_iff_iff]
  simp only [Bool.and_eq_true, decide_eq_true_eq, Bool.not_eq_true', decide_eq_false_iff_not]
  omega

/-- The global flag of a lane is bit `4i`. -/
theorem globalFlag_getLsbD (l : Lane) (k : Nat) :
    l.globalFlag.toBitVec.getLsbD k = decide (k = 4 * l.index.val) := by
  obtain ⟨⟨i, hi⟩⟩ := l
  simp [globalFlag, shift, BitVec.getLsbD_one]
  rw [Bool.eq_iff_iff]
  simp only [Bool.and_eq_true, decide_eq_true_eq, Bool.not_eq_true', decide_eq_false_iff_not]
  omega

/-- A word has a lane's global flag exactly when its bit `4i` is set. -/
theorem and_globalFlag_ne_zero (m : UInt32) (l : Lane) :
    (m &&& l.globalFlag != 0) = m.toBitVec.getLsbD (4 * l.index.val) := by
  obtain ⟨⟨i, hi⟩⟩ := l
  rw [Bool.eq_iff_iff, bne_iff_ne, ne_eq]
  constructor
  · intro h
    cases hb : m.toBitVec.getLsbD (4 * i) with
    | true => rfl
    | false =>
      exfalso
      apply h
      apply UInt32.toBitVec_inj.mp
      apply BitVec.eq_of_getLsbD_eq
      intro k hk
      simp only [UInt32.toBitVec_and, BitVec.getLsbD_and, globalFlag_getLsbD, UInt32.toBitVec_zero,
        BitVec.getLsbD_zero]
      by_cases hki : k = 4 * i
      · subst hki; simpa using hb
      · simp [hki]
  · intro hb heq
    have := congrArg (fun x : UInt32 => x.toBitVec.getLsbD (4 * i)) heq
    simp [BitVec.getLsbD_and, globalFlag_getLsbD, hb] at this

end Lane

end DmaOwnership
