import DmaOwnership.Proofs.Ownership.Kept
import DmaOwnership.Proofs.Buffer.Marks
import Mathlib.Tactic.SplitIfs
/-!
# A machine at rest, and the operations that return from one

Between two client programs a machine is at rest: its ownership rules hold and no borrow
runs. From such a machine the library's operations on a live transfer return rather than
break off: a poll, a count, a wait that finishes, a pause, a resume, a stop, a read whose
callback only answers (its ring is never free), a borrow of a buffer no writer holds, and a
start on recorded memory and a recorded peripheral, which is refused or begins on a lane
that was not held.

`Machine.ledger` is what a table kept beside the machine can check: the transfers of both
kinds, each with the parts it holds and whether it has ended. Each lemma here says how the
operation changes it.
-/

namespace DmaOwnership

/-! ## The machine at rest, and what the lists are checked against -/

/-- The parts a one-shot transfer holds, as its wait hands them back. -/
def Transfer.parts (t : Transfer) : Handback := ⟨t.lane, t.buffer, t.peripheral⟩

/-- The parts a circular transfer holds, as its stop hands them back. -/
def Stream.parts (t : Stream) : Handback := ⟨t.lane, t.ring, t.peripheral⟩

namespace Machine

/-- A machine between two client programs: its ownership rules hold and no borrow runs. -/
structure AtRest (m : Machine) : Prop where
  /-- The ownership rules. -/
  ownership : m.Ownership
  /-- No borrow runs. -/
  marks : ∀ id, m.MarksAt id 0 0

/-- A client program that returns leaves the machine at rest. -/
theorem AtRest.of_client {α : Type} {x : Act α} (hx : Client x) {m m' : Machine} {a : α}
    (hm : m.AtRest) (hr : x.run m = .ok a m') : m'.AtRest where
  ownership := hx.keeps_ownership.of_ok hm.ownership hr
  marks id := (hx.keeps_marksAt id 0 0).of_ok (hm.marks id) hr

/-- What the simulator's lists are checked against: the transfers of both kinds, each with
the parts it holds and whether it has ended. -/
def ledger (m : Machine) : Array (Handback × Bool) × Array (Handback × Bool) :=
  (m.transfers.map fun t => (t.parts, t.released), m.streams.map fun t => (t.parts, t.stopped))

end Machine

/-! ## Machine operations that return -/

namespace Machine

variable {s : Machine}

/-- A change that leaves every transfer leaves the ledger. -/
theorem ledger_eq {m : Machine} (ht : m.transfers = s.transfers) (hs : m.streams = s.streams) :
    m.ledger = s.ledger := by
  rw [ledger, ledger, ht, hs]

/-- A change of a circular transfer's record that keeps its parts and whether it stopped
leaves the ledger. -/
theorem ledger_modifyStream {m : Machine} (ht : m.transfers = s.transfers) {id : Nat}
    {f : Stream → Stream} (hs : m.streams = s.streams.modify id f)
    (hf : ∀ t, (f t).parts = t.parts ∧ (f t).stopped = t.stopped) : m.ledger = s.ledger := by
  rw [ledger, ledger, ht, hs, map_modify_eq]
  intro t
  rw [(hf t).1, (hf t).2]

/-- A circular transfer holds a lane, in the rules' view, exactly when it is live on it. -/
theorem holds_stream_iff (s : Machine) (i : Nat) (l : Lane) :
    s.owners.Holds (.stream i) l ↔ ∃ t, Live s.streams Stream.stopped i t ∧ t.lane = l := by
  constructor
  · rintro ⟨h, ⟨hi, hst⟩, hl⟩
    have hi' : (s.streams.map Stream.hold)[i]? = some h := hi
    rw [Array.getElem?_map] at hi'
    obtain ⟨t, ht, rfl⟩ := Option.map_eq_some_iff.1 hi'
    exact ⟨t, ⟨ht, hst⟩, hl⟩
  · rintro ⟨t, ⟨ht, hst⟩, hl⟩
    exact ⟨t.hold, live_hold ht hst, hl⟩

/-- A client program run on a recorded peripheral is the program itself. -/
theorem run_peripheral_bind {α : Type} {periph : Nat} {p : Peripheral}
    (hp : s.peripherals[periph]? = some p) (x : Act α) :
    (peripheral periph >>= fun _ => x).run s = x.run s := by
  rw [EStateM.run_bind, run_peripheral, hp]

end Machine

namespace Transfer

open Machine

variable {s : Machine}

/-- A start on a recorded buffer and peripheral returns: refused, with the machine as it
was, or begun on a lane that was not held, as one more transfer, the others unchanged. -/
theorem start_returns (dir : Direction) (l : Lane) {buf periph : Nat} {b : Buffer}
    {p : Peripheral} (hb : s.buffers[buf]? = some b) (hp : s.peripherals[periph]? = some p) :
    (∃ r, (start dir l buf periph).run s = .ok (.error r) s) ∨
      ∃ s', (start dir l buf periph).run s = .ok (.ok s.transfers.size) s' ∧
        (s.laneState l).owned = false ∧
        s'.transfers = s.transfers.push ⟨l, buf, periph, dir, false⟩ ∧ s'.streams = s.streams := by
  rw [run_start, hb]
  split
  · exact Or.inl ⟨_, rfl⟩
  rename_i hu
  dsimp only
  split
  · exact Or.inl ⟨_, rfl⟩
  cases dir.lock b with
  | none => exact Or.inl ⟨_, rfl⟩
  | some b' =>
    dsimp only
    rw [hp]
    exact Or.inr ⟨_, rfl, (inUse_eq_false (Bool.not_eq_true _ ▸ hu)).1, rfl, rfl⟩

/-- A poll of a live transfer returns after one status read. -/
theorem poll_returns {id : Nat} {t : Transfer} (ht : s.transfers[id]? = some t)
    (hr : t.released = false) : ∃ r, (poll id).run s = .ok r s.afterRead := by
  rw [run_poll, ht]
  simp only [hr, Bool.false_eq_true, if_false]
  exact ⟨_, rfl⟩

/-- The count left of a live transfer is read off without a change. -/
theorem remaining_returns {id : Nat} {t : Transfer} (ht : s.transfers[id]? = some t)
    (hr : t.released = false) : ∃ n, (remaining id).run s = .ok n s := by
  rw [run_remaining, ht]
  simp only [hr, Bool.false_eq_true, if_false]
  exact ⟨_, rfl⟩

/-- A wait that returns hands back the parts of its transfer: the transfer is released, its
buffer unlocked, and no circular transfer changes. -/
theorem wait_hands_back {id : Nat} {t : Transfer} (ht : s.transfers[id]? = some t)
    {r : Handback × Option Refusal} {m : Machine} (h : (wait id).run s = .ok r m) :
    r.1 = t.parts ∧ m.transfers = s.transfers.modify id (fun t => { t with released := true }) ∧
      m.streams = s.streams ∧ m.buffers = s.buffers.modify t.buffer Buffer.unlock := by
  rw [run_wait, ht] at h
  dsimp only at h
  split at h
  · cases h
  obtain ⟨k, p, hk⟩ := spin_final t.lane (s.bank.schedule.length + 1) s
  split at h
  · rename_i s' heq
    cases h
    rw [heq, finalState_ok] at hk
    subst hk
    exact ⟨rfl, rfl, rfl, rfl⟩
  · rename_i r' s' heq
    cases h
    rw [heq, finalState_ok] at hk
    subst hk
    exact ⟨rfl, rfl, rfl, rfl⟩
  · cases h

end Transfer

namespace Stream

open Machine

variable {s : Machine}

/-- A start on a recorded ring and peripheral returns: refused, with the machine as it
was, or begun on a lane that was not held, as one more circular transfer. -/
theorem start_returns (l : Lane) {ring periph : Nat} {r : Ring} {p : Peripheral}
    (hr : s.rings[ring]? = some r) (hp : s.peripherals[periph]? = some p) :
    (∃ e, (start l ring periph).run s = .ok (.error e) s) ∨
      ∃ s', (start l ring periph).run s = .ok (.ok s.streams.size) s' ∧
        (s.laneState l).owned = false ∧ s'.transfers = s.transfers ∧
        s'.streams = s.streams.push ⟨l, ring, periph, 0, false, false⟩ := by
  rw [run_start, hr]
  split
  · exact Or.inl ⟨_, rfl⟩
  rename_i hu
  dsimp only
  split
  · exact Or.inl ⟨_, rfl⟩
  split
  · exact Or.inl ⟨_, rfl⟩
  rw [hp]
  exact Or.inr ⟨_, rfl, (inUse_eq_false (Bool.not_eq_true _ ▸ hu)).1, rfl, rfl⟩

variable {id : Nat} {t : Stream} (ht : s.streams[id]? = some t) (hst : t.stopped = false)
include ht hst

theorem pause_returns : ∃ m, (pause id).run s = .ok () m ∧ m.ledger = s.ledger := by
  rw [run_pause, ht]
  simp only [hst, Bool.false_eq_true, if_false]
  exact ⟨_, rfl, ledger_modifyStream (f := fun t => { t with paused := true }) rfl rfl
    fun _ => ⟨rfl, rfl⟩⟩

theorem resume_returns : ∃ m, (resume id).run s = .ok () m ∧ m.ledger = s.ledger := by
  rw [run_resume, ht]
  simp only [hst, Bool.false_eq_true, if_false]
  exact ⟨_, rfl, ledger_modifyStream (f := fun t => { t with paused := false }) rfl rfl
    fun _ => ⟨rfl, rfl⟩⟩

/-- A stop of a live circular transfer hands back its parts and stops it. -/
theorem stop_returns : ∃ m, (stop id).run s = .ok t.parts m ∧ m.transfers = s.transfers ∧
    m.streams = s.streams.modify id fun t => { t with stopped := true } := by
  rw [run_stop, ht]
  simp only [hst, Bool.false_eq_true, if_false]
  exact ⟨_, rfl, rfl, rfl⟩

/-- A read of a live circular transfer, with a callback that only answers, returns: its
ring is never free under the rules, and the callback cannot stop the transfer. -/
theorem peek_returns (h : s.Ownership) {β : Type} (g : Array UInt32 → Half → β) :
    ∃ o m, (peek id fun items h => (pure (g items h) : Act β)).run s = .ok o m ∧
      m.ledger = s.ledger := by
  obtain ⟨r, x, hr, hw⟩ := h.ring_of_live ht hst
  -- the checks before the callback read the status word and move the ring on
  have htake : ∃ v m, (takeHalf id).run s = .ok v m ∧ m.transfers = s.transfers ∧
      m.streams = s.streams := by
    rw [run_takeHalf, ht]
    simp only [hst, Bool.false_eq_true, if_false, hr, hw]
    repeat' split
    all_goals exact ⟨_, _, rfl, rfl, rfl⟩
  obtain ⟨v, m, hv, hmt, hms⟩ := htake
  rw [run_peek, hv]
  rcases v with e | ⟨hh, data, start⟩
  · exact ⟨_, m, rfl, ledger_eq hmt hms⟩
  · -- the checks after it find the transfer as live as before
    dsimp only
    rw [EStateM.run_pure]
    dsimp only
    rw [run_giveBack, hms, ht]
    simp only [hst, Bool.false_eq_true, if_false]
    split_ifs
    all_goals exact ⟨_, _, rfl, ledger_eq hmt hms⟩

end Stream

namespace Buffer

/-- A shared borrow of a recorded buffer that no writer holds, with a callback that only
answers, returns the callback's answer and leaves every transfer. -/
theorem borrow_returns {s : Machine} {id : Nat} {b : Buffer} (hb : s.buffers[id]? = some b)
    (hw : b.writing = false) {β : Type} (g : Array UInt32 → β) :
    ∃ m, (borrow id fun items => (pure (g items) : Act β)).run s = .ok (g b.items) m ∧
      m.ledger = s.ledger := by
  rw [run_borrow, hb]
  simp only [hw, Bool.false_eq_true, if_false]
  exact ⟨_, rfl, rfl⟩

end Buffer

/-- A buffer with no borrow and no transfer writing it has no writer. -/
theorem Machine.MarksAt.writing_false {id : Nat} {s : Machine} {b : Buffer}
    (h : Machine.MarksAt id 0 0 s) (hb : s.buffers[id]? = some b) (ha : b.access ≠ .mutLocked) :
    b.writing = false := by
  unfold Machine.MarksAt at h
  rw [hb] at h
  rw [h.writing_eq]
  simp [ha]

end DmaOwnership
