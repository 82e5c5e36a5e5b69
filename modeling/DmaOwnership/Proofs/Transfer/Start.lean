import DmaOwnership.Proofs.Spec.Transfer
import DmaOwnership.Proofs.Spec.Stream
import DmaOwnership.Proofs.Buffer.Marks
/-!
# The checks of a start, in order

A start checks, before it changes anything, that the lane is free (no holder, enable bit
clear), that the memory's length is one a count can say, and that the memory can be taken (a
buffer locked as the direction needs, a free ring). The first check that fails is the answer,
and the machine is then exactly as it was; a start that passes all three begins a transfer.
`Machine.startRefusal` and `Machine.streamRefusal` state the checks as the chain they are, and
the lock check reads through a buffer's marks as the borrows it waits for (`Buffer.Marks`).
-/

namespace DmaOwnership

namespace Direction

/-- Whether a buffer cannot be locked for a transfer in this direction: a transfer holds it
or a writer does; for a transfer that writes the buffer, also a reader. -/
def blocked : Direction → Buffer → Bool
  | .toPeripheral, b => b.access != .unlocked || b.writing
  | .fromPeripheral, b => b.access != .unlocked || b.writing || b.readers != 0

/-- A buffer cannot be locked exactly when it is blocked. -/
theorem lock_eq_none_iff (dir : Direction) (b : Buffer) :
    dir.lock b = none ↔ dir.blocked b = true := by
  obtain ⟨w, items, readers, writing, access⟩ := b
  cases dir with
  | toPeripheral => cases access <;> cases writing <;> simp [lock, Buffer.lockShared?, blocked]
  | fromPeripheral =>
    cases access <;> cases writing <;> simp [lock, Buffer.lockExclusive?, Buffer.canWrite, blocked]

variable {b : Buffer} {B M : Nat}

/-- With the marks of `B` shared and `M` exclusive borrows, a transfer to the peripheral
cannot lock the buffer while a transfer holds it or an exclusive borrow runs. -/
theorem toPeripheral_blocked_iff (h : b.Marks B M) :
    toPeripheral.blocked b = true ↔ b.access ≠ .unlocked ∨ 0 < M := by
  obtain ⟨w, items, readers, writing, access⟩ := b
  obtain ⟨-, hw, -, -, -⟩ := h
  dsimp only at hw
  cases access <;> simp [blocked, hw]

/-- With the marks of `B` shared and `M` exclusive borrows, a transfer from the peripheral
cannot lock the buffer while a transfer holds it or any borrow runs. -/
theorem fromPeripheral_blocked_iff (h : b.Marks B M) :
    fromPeripheral.blocked b = true ↔
      b.access ≠ .unlocked ∨ 0 < M ∨ b.access = .locked ∨ 0 < B := by
  obtain ⟨w, items, readers, writing, access⟩ := b
  obtain ⟨hr, hw, -, -, -⟩ := h
  dsimp only at hr hw
  -- a transfer that reads the buffer is one of its readers
  cases access with
  | unlocked =>
    simp [blocked, hr, hw]
    omega
  | locked => simp [blocked, hr, hw]
  | mutLocked => simp [blocked, hr, hw]

end Direction

/-- A ring as `Ring.make` builds it: an even, non-zero number of items. -/
def Ring.Shaped (r : Ring) : Prop := r.items.size ≠ 0 ∧ r.items.size % 2 = 0

theorem Ring.make_shaped {w : Width} {items : Array UInt32} {r : Ring}
    (h : Ring.make w items = .ok r) : r.Shaped := by
  unfold Ring.make at h
  split at h
  · cases h
  · rename_i hsize
    cases h
    simp only [not_or, ne_eq, Decidable.not_not] at hsize
    exact hsize

/-- Both halves of a shaped ring together are the whole ring. -/
theorem Ring.Shaped.two_halves {r : Ring} (h : r.Shaped) : 2 * r.halfLength = r.items.size := by
  obtain ⟨-, heven⟩ := h
  unfold Ring.halfLength
  omega

namespace Machine

/-- Why a start of a one-shot transfer of buffer `b` on lane `l` in direction `dir` is
refused: the first of its checks that fails, or nothing when it begins the transfer. -/
def startRefusal (s : Machine) (dir : Direction) (l : Lane) (b : Buffer) : Option Refusal :=
  if (s.laneState l).owned || Control.enabled (s.bank.control l) then some .inUse
  else if b.length = 0 ∨ maxCount < b.length then some .badLength
  else if dir.blocked b then some .inUse
  else none

/-- Why a start of a circular transfer of ring `r` on lane `l` is refused: the first of its
checks that fails, or nothing when it begins the transfer. The length checked is that of
both halves. -/
def streamRefusal (s : Machine) (l : Lane) (r : Ring) : Option Refusal :=
  if (s.laneState l).owned || Control.enabled (s.bank.control l) then some .inUse
  else if 2 * r.halfLength = 0 ∨ maxCount < 2 * r.halfLength then some .badLength
  else if r.phase ≠ .free then some .inUse
  else none

end Machine

namespace Transfer

variable {dir : Direction} {l : Lane} {id periph : Nat} {s : Machine} {b : Buffer}

/-- A start answers the first check it fails and leaves the machine as it was. -/
theorem run_start_of_refusal (hb : s.buffers[id]? = some b) {r : Refusal}
    (hr : s.startRefusal dir l b = some r) :
    (start dir l id periph).run s = .ok (.error r) s := by
  rw [run_start, hb]
  unfold Machine.startRefusal at hr
  split at hr
  · rename_i hu
    cases hr
    rw [if_pos (show s.inUse l = true from hu)]
  rename_i hu
  rw [if_neg (show ¬ s.inUse l = true from hu)]
  dsimp only
  split at hr
  · rename_i hl
    cases hr
    rw [if_pos hl]
  rename_i hl
  rw [if_neg hl]
  split at hr
  · rename_i hk
    cases hr
    rw [(Direction.lock_eq_none_iff dir b).2 hk]
  · cases hr

/-- A start that passes its checks begins a transfer, with the next handle. -/
theorem run_start_of_no_refusal (hb : s.buffers[id]? = some b) {p : Peripheral}
    (hp : s.peripherals[periph]? = some p) (hr : s.startRefusal dir l b = none) :
    ∃ s', (start dir l id periph).run s = .ok (.ok s.transfers.size) s' := by
  rw [run_start, hb]
  unfold Machine.startRefusal at hr
  split at hr
  · cases hr
  rename_i hu
  rw [if_neg (show ¬ s.inUse l = true from hu)]
  dsimp only
  split at hr
  · cases hr
  rename_i hl
  rw [if_neg hl]
  split at hr
  · cases hr
  rename_i hk
  cases hlk : dir.lock b with
  | none => exact absurd ((Direction.lock_eq_none_iff dir b).1 hlk) hk
  | some b' =>
    dsimp only
    rw [hp]
    exact ⟨_, rfl⟩

end Transfer

namespace Stream

variable {l : Lane} {ring periph : Nat} {s : Machine} {r : Ring}

/-- A circular start answers the first check it fails and leaves the machine as it was. -/
theorem run_start_of_refusal (hr : s.rings[ring]? = some r) (hshape : r.Shaped) {e : Refusal}
    (he : s.streamRefusal l r = some e) :
    (start l ring periph).run s = .ok (.error e) s := by
  rw [run_start, hr]
  unfold Machine.streamRefusal at he
  rw [hshape.two_halves] at he
  split at he
  · rename_i hu
    cases he
    rw [if_pos (show s.inUse l = true from hu)]
  rename_i hu
  rw [if_neg (show ¬ s.inUse l = true from hu)]
  dsimp only
  split at he
  · rename_i hl
    cases he
    -- a shaped ring is never empty, so only its length beyond a count is refused
    rw [if_pos (show maxCount < r.items.size by have := hshape.1; omega)]
  rename_i hl
  rw [if_neg (show ¬ maxCount < r.items.size by omega)]
  split at he
  · rename_i hph
    cases he
    rw [if_pos hph]
  · cases he

/-- A circular start that passes its checks begins a transfer, with the next handle. -/
theorem run_start_of_no_refusal (hr : s.rings[ring]? = some r) (hshape : r.Shaped)
    {p : Peripheral} (hp : s.peripherals[periph]? = some p) (he : s.streamRefusal l r = none) :
    ∃ s', (start l ring periph).run s = .ok (.ok s.streams.size) s' := by
  rw [run_start, hr]
  unfold Machine.streamRefusal at he
  rw [hshape.two_halves] at he
  split at he
  · cases he
  rename_i hu
  rw [if_neg (show ¬ s.inUse l = true from hu)]
  dsimp only
  split at he
  · cases he
  rename_i hl
  rw [if_neg (show ¬ maxCount < r.items.size by omega)]
  split at he
  · cases he
  rename_i hph
  rw [if_neg hph, hp]
  exact ⟨_, rfl⟩

end Stream

/-- Every start, in any machine, answers by its checks in order (`startRefusal`,
`streamRefusal`): lane held or enabled, then length, then memory that cannot be taken, read
through the buffer's borrow marks; a refused start leaves the machine exactly as it was, and
one that passes all checks begins the transfer with the next handle. -/
theorem starts_refuse_in_order :
    (∀ (dir : Direction) (l : Lane) (id periph : Nat) (s : Machine) (b : Buffer) (p : Peripheral),
      s.buffers[id]? = some b → s.peripherals[periph]? = some p →
      (∀ r, s.startRefusal dir l b = some r →
        (Transfer.start dir l id periph).run s = .ok (.error r) s) ∧
      (s.startRefusal dir l b = none →
        ∃ s', (Transfer.start dir l id periph).run s = .ok (.ok s.transfers.size) s')) ∧
    (∀ (b : Buffer) (B M : Nat), b.Marks B M →
      (Direction.toPeripheral.blocked b = true ↔ b.access ≠ .unlocked ∨ 0 < M) ∧
      (Direction.fromPeripheral.blocked b = true ↔
        b.access ≠ .unlocked ∨ 0 < M ∨ b.access = .locked ∨ 0 < B)) ∧
    (∀ (l : Lane) (ring periph : Nat) (s : Machine) (r : Ring) (p : Peripheral),
      s.rings[ring]? = some r → r.Shaped → s.peripherals[periph]? = some p →
      (∀ e, s.streamRefusal l r = some e → (Stream.start l ring periph).run s = .ok (.error e) s) ∧
      (s.streamRefusal l r = none →
        ∃ s', (Stream.start l ring periph).run s = .ok (.ok s.streams.size) s')) :=
  ⟨fun _ _ _ _ _ _ _ hb hp => ⟨fun _ hr => Transfer.run_start_of_refusal hb hr,
      Transfer.run_start_of_no_refusal hb hp⟩,
    fun _ _ _ h => ⟨Direction.toPeripheral_blocked_iff h, Direction.fromPeripheral_blocked_iff h⟩,
    fun _ _ _ _ _ _ hr hshape hp => ⟨fun _ he => Stream.run_start_of_refusal hr hshape he,
      Stream.run_start_of_no_refusal hr hshape hp⟩⟩

/-- A machine whose lane 1 was enabled by a direct write of its control word, with an empty
buffer and a peripheral. -/
def enabledLaneMachine : Machine where
  bank := { regs := (Vector.replicate 7 ({} : LaneRegs)).set 0 { control := 1 } }
  buffers := #[{ width := .w8, items := #[] }]
  peripherals := #[{ address := 1 }]

/-- A lane enabled behind the library's back refuses a start as in use before the empty
buffer's length is looked at, and the machine stays as it was. -/
theorem enabled_lane_refuses_before_length :
    enabledLaneMachine.buffers[0]? = some { width := .w8, items := #[] } ∧
    enabledLaneMachine.peripherals[0]? = some { address := 1 } ∧
    enabledLaneMachine.startRefusal .toPeripheral ⟨0⟩ { width := .w8, items := #[] } = some .inUse ∧
    (Transfer.start .toPeripheral ⟨0⟩ 0 0).run enabledLaneMachine =
      .ok (.error .inUse) enabledLaneMachine :=
  ⟨rfl, rfl, rfl,
    (starts_refuse_in_order.1 .toPeripheral ⟨0⟩ 0 0 enabledLaneMachine _ _ rfl rfl).1 .inUse rfl⟩

end DmaOwnership
