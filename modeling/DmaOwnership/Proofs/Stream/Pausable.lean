import DmaOwnership.Proofs.Bank.Enabled
import DmaOwnership.Proofs.Calls.Logged
import DmaOwnership.Proofs.Ownership.Kept
/-!
# A circular transfer that may be paused

Pausing clears the lane's enable bit and marks the transfer paused; resuming undoes both.
`Machine.withPause s id l p` is `s` with the mark set to `p` and the enable bit written to
match. `Machine.Pausable id l` holds along a run of transfer `id` on lane `l` until it is
stopped: the transfer holds the lane alone, enabled exactly when not paused; a start begins
it (`Pausable.of_start`). `Mirrors id l p x y` says that `y` from the machine with the mark
`p` does what `x` does from the machine as it is; it is closed under the ways programs are
put together.
-/

namespace DmaOwnership

/-! ## Changing entries of a table -/

section Table

variable {β : Type} (xs : Array β)

/-- Changes to two entries of a table, or two changes to one entry that do not interfere,
can be made in either order. -/
theorem Array.modify_comm {i j : Nat} {f g : β → β} (h : i = j → ∀ x, f (g x) = g (f x)) :
    (xs.modify i f).modify j g = (xs.modify j g).modify i f := by
  apply Array.ext_getElem?
  intro k
  by_cases hi : i = k <;> by_cases hj : j = k
  · subst hj hi
    rcases hx : xs[i]? with _ | x <;> simp [Array.getElem?_modify, hx, h rfl]
  all_goals simp [Array.getElem?_modify, hi, hj]

theorem Array.modify_modify (i : Nat) (f g : β → β) :
    (xs.modify i f).modify i g = xs.modify i fun x => g (f x) := by
  apply Array.ext_getElem?
  intro k
  simp only [Array.getElem?_modify]
  split <;> simp [Option.map_map, Function.comp_def]

theorem Array.modify_push {i : Nat} (hi : i < xs.size) (f : β → β) (a : β) :
    (xs.push a).modify i f = (xs.modify i f).push a := by
  apply Array.ext_getElem?
  intro k
  simp only [Array.getElem?_modify, Array.getElem?_push, Array.size_modify]
  by_cases hk : k = xs.size
  · subst hk
    simp [Nat.ne_of_lt hi]
  · simp [hk]

/-- An entry of a table after a push is an entry before it or the pushed one. -/
theorem Array.getElem?_push_eq_some {j : Nat} {a b : β} (h : (xs.push a)[j]? = some b) :
    xs[j]? = some b ∨ b = a := by
  rw [Array.getElem?_push] at h
  split at h
  · exact Or.inr (Option.some.inj h).symm
  · exact Or.inl h

end Table

/-- The circular transfer's record, marked paused or not as `p` says. -/
def Stream.markPaused (p : Bool) (t : Stream) : Stream := { t with paused := p }

namespace Machine

/-- The machine with circular transfer `id`, on lane `l`, marked paused or not as `p` says
and the lane's enable bit written to match, all else as it is. -/
def withPause (s : Machine) (id : Nat) (l : Lane) (p : Bool) : Machine :=
  { s with
    bank := s.bank.setEnable l (!p)
    streams := s.streams.modify id (Stream.markPaused p) }

section WithPause

variable (s : Machine) (id : Nat) (l : Lane) (p : Bool)

@[simp] theorem bank_withPause : (s.withPause id l p).bank = s.bank.setEnable l (!p) := rfl
@[simp] theorem streams_withPause :
    (s.withPause id l p).streams = s.streams.modify id (Stream.markPaused p) := rfl

theorem stream_withPause_self :
    (s.withPause id l p).streams[id]? = s.streams[id]?.map (Stream.markPaused p) := by
  rw [streams_withPause, Array.getElem?_modify, if_pos rfl]

theorem stream_withPause_of_ne {j : Nat} (h : j ≠ id) :
    (s.withPause id l p).streams[j]? = s.streams[j]? := by
  rw [streams_withPause, Array.getElem?_modify, if_neg (Ne.symm h)]

/-- A circular transfer's record reads the same whatever the pause mark of `id`, the mark
apart. -/
theorem stream_withPause_some {j : Nat} {t : Stream} (ht : s.streams[j]? = some t) :
    ∃ t' : Stream, (s.withPause id l p).streams[j]? = some t' ∧ t'.lane = t.lane ∧
      t'.ring = t.ring ∧ t'.peripheral = t.peripheral ∧ t'.maxRead = t.maxRead ∧
      t'.stopped = t.stopped := by
  rw [streams_withPause, Array.getElem?_modify, ht]
  split
  · exact ⟨t.markPaused p, rfl, rfl, rfl, rfl, rfl, rfl⟩
  · exact ⟨t, rfl, rfl, rfl, rfl, rfl, rfl⟩

theorem stream_withPause_none {j : Nat} (ht : s.streams[j]? = none) :
    (s.withPause id l p).streams[j]? = none := by
  rw [streams_withPause, Array.getElem?_modify, ht]
  split <;> rfl

@[simp] theorem laneState_withPause (m : Lane) :
    (s.withPause id l p).laneState m = s.laneState m := rfl
@[simp] theorem counters_withPause : (s.withPause id l p).counters = s.counters := rfl
@[simp] theorem buffers_withPause : (s.withPause id l p).buffers = s.buffers := rfl
@[simp] theorem rings_withPause : (s.withPause id l p).rings = s.rings := rfl
@[simp] theorem peripherals_withPause : (s.withPause id l p).peripherals = s.peripherals := rfl
@[simp] theorem transfers_withPause : (s.withPause id l p).transfers = s.transfers := rfl
@[simp] theorem clock_withPause : (s.withPause id l p).clock = s.clock := rfl

/-- A read of the status word and a write of the pause state can be made in either order. -/
theorem afterRead_withPause : (s.withPause id l p).afterRead = s.afterRead.withPause id l p := by
  simp only [afterRead, withPause, Bank.status_setEnable]

end WithPause

/-- What holds all along a run of circular transfer `id` on lane `l` that does not stop it:
the transfer runs on the lane and holds it, no other transfer in flight runs there, and the
lane is enabled exactly when the transfer is not paused. -/
structure Pausable (id : Nat) (l : Lane) (s : Machine) : Prop where
  /-- The transfer runs on the lane. -/
  running : ∃ t : Stream, s.streams[id]? = some t ∧ t.lane = l ∧ t.stopped = false
  /-- The lane is held. -/
  owned : (s.laneState l).owned = true
  /-- No one-shot transfer in flight runs on the lane. -/
  transfers : ∀ (j : Nat) (t : Transfer), s.transfers[j]? = some t → t.released = false →
    t.lane ≠ l
  /-- No other running circular transfer runs on the lane. -/
  streams : ∀ (j : Nat) (t : Stream), j ≠ id → s.streams[j]? = some t → t.stopped = false →
    t.lane ≠ l
  /-- The lane's enable bit is clear exactly when the transfer is paused. -/
  enabled : ∀ t : Stream, s.streams[id]? = some t →
    Control.enabled (s.bank.control l) = !t.paused

namespace Pausable

variable {id : Nat} {l : Lane} {p : Bool} {s s' : Machine}

/-- A change that keeps the transfers of both kinds, whether the lane is held and its
enable bit keeps the rule. -/
theorem of_frame (h : s.Pausable id l) (hs : s'.streams = s.streams)
    (ht : s'.transfers = s.transfers) (ho : (s'.laneState l).owned = (s.laneState l).owned)
    (he : Control.enabled (s'.bank.control l) = Control.enabled (s.bank.control l)) :
    s'.Pausable id l where
  running := hs ▸ h.running
  owned := ho ▸ h.owned
  transfers := ht ▸ h.transfers
  streams := hs ▸ h.streams
  enabled := hs ▸ he ▸ h.enabled

/-- The lane is in use. -/
theorem inUse (h : s.Pausable id l) : s.inUse l = true := by
  rw [Machine.inUse, h.owned, Bool.true_or]

/-- Whether a lane is in use reads the same whatever the pause mark: the transfer's lane is
held either way. -/
theorem inUse_withPause (h : s.Pausable id l) (m : Lane) :
    (s.withPause id l p).inUse m = s.inUse m := by
  by_cases hm : l = m
  · subst hm
    rw [Machine.inUse, laneState_withPause, h.owned, Bool.true_or, h.inUse]
  · rw [Machine.inUse, Machine.inUse, laneState_withPause, bank_withPause,
      Bank.control_setEnable_of_ne _ _ _ hm]

/-- A one-shot start on the lane is refused, and changes nothing. -/
theorem startTransfer_refused (h : s.Pausable id l) (dir : Direction) (buf periph : Nat) :
    (Transfer.start dir l buf periph).run s = .ok (.error .inUse) s := by
  rw [Transfer.run_start, h.inUse, if_pos rfl]

/-- A circular start on the lane is refused, and changes nothing. -/
theorem startStream_refused (h : s.Pausable id l) (ring periph : Nat) :
    (Stream.start l ring periph).run s = .ok (.error .inUse) s := by
  rw [Stream.run_start, h.inUse, if_pos rfl]

/-- Under the ownership rules, a running circular transfer whose lane's enable bit is clear
exactly when it is marked paused is all the invariant asks: the rules give one holder per
lane, and the transfer is the lane's. -/
theorem of_ownership (h : s.Ownership) {t : Stream} (ht : s.streams[id]? = some t)
    (hl : t.lane = l) (hst : t.stopped = false)
    (he : Control.enabled (s.bank.control l) = !t.paused) : s.Pausable id l := by
  have hholds : s.owners.Holds (.stream id) l := ⟨t.hold, live_hold ht hst, hl⟩
  refine ⟨⟨t, ht, hl, hst⟩, (h.lanes.owned_iff l).mpr ⟨_, hholds⟩, ?_, ?_, ?_⟩
  · intro j t' hj hr hl'
    have htr : s.owners.Holds (.transfer j) l := ⟨t', ⟨hj, hr⟩, hl'⟩
    nomatch h.lanes.unique htr hholds
  · intro j t' hj ht' hst' hl'
    have hst'' : s.owners.Holds (.stream j) l := ⟨t'.hold, live_hold ht' hst', hl'⟩
    exact hj (Holder.stream.inj (h.lanes.unique hst'' hholds))
  · intro t' ht'
    rw [ht] at ht'
    cases ht'
    exact he

/-- The machine is the one with its own pause mark and enable bit. -/
theorem withPause_self (h : s.Pausable id l) {t : Stream} (ht : s.streams[id]? = some t) :
    s.withPause id l t.paused = s := by
  have hb : s.bank.setEnable l (!t.paused) = s.bank := by
    rw [← h.enabled t ht, Bank.setEnable_enabled]
  have hs : s.streams.modify id (Stream.markPaused t.paused) = s.streams := by
    apply Array.ext_getElem?
    intro k
    rw [Array.getElem?_modify]
    split
    · subst k
      rw [ht]
      rfl
    · rfl
  show { s with bank := _, streams := _ } = s
  rw [hb, hs]

/-- A circular transfer that a start begins, from a machine that follows the ownership
rules, runs unpaused on its lane, and the machine is the one with the transfer unpaused. -/
theorem of_start (h : s.Ownership) {ring periph : Nat} {s' : Machine}
    (hstart : (Stream.start l ring periph).run s = .ok (.ok id) s') :
    s'.Pausable id l ∧ s'.withPause id l false = s' := by
  rw [Stream.run_start] at hstart
  split at hstart
  · cases hstart
  rename_i hu
  split at hstart
  · cases hstart
  rename_i r hr
  split at hstart
  · cases hstart
  split at hstart
  · cases hstart
  rename_i hfree
  split at hstart
  · cases hstart
  cases hstart
  refine (fun hp => ⟨hp, hp.withPause_self Array.getElem?_push_size⟩) ?_
  refine of_ownership
    (h.startStream (Bool.eq_false_iff.mpr hu) hr (by simpa using hfree) _ _ _ _ _ _)
    Array.getElem?_push_size rfl rfl ?_
  rw [Bank.control_setControl_self, Control.enabled_withEnable]
  rfl

end Pausable

end Machine

/-! ## What one change of the machine keeps -/

namespace Machine.Pausable

variable {id : Nat} {l : Lane} {s : Machine}

/-- New settings for a lane that keep whether it is held keep whether every lane is held. -/
theorem owned_entry_setEntry {lanes : Vector LaneState 7} {m : Lane} {st : LaneState}
    (h : st.owned = (m.entry lanes).owned) (l : Lane) :
    (l.entry (m.setEntry lanes st)).owned = (l.entry lanes).owned := by
  by_cases hm : m = l
  · subst hm
    rw [Lane.entry_setEntry, h]
  · rw [Lane.entry_setEntry_of_ne _ _ _ _ hm]

theorem afterRead (h : s.Pausable id l) : s.afterRead.Pausable id l :=
  h.of_frame rfl rfl rfl (by rw [afterRead_bank, Bank.control_status])

theorem recorded (h : s.Pausable id l) (r : Refusal) : (s.recorded r).Pausable id l :=
  h.of_frame rfl rfl rfl rfl

/-- Changing a record of a circular transfer without moving it or restarting it, and, for
transfer `id`, without stopping, pausing or resuming it. -/
theorem modifyStream (h : s.Pausable id l) (j : Nat) {f : Stream → Stream}
    (hlane : ∀ t, (f t).lane = t.lane) (hstop : ∀ t, (f t).stopped = false → t.stopped = false)
    (hid : j = id → ∀ t, (f t).stopped = t.stopped ∧ (f t).paused = t.paused) :
    ({ s with streams := s.streams.modify j f } : Machine).Pausable id l := by
  -- every entry after the change comes from one before it, on the same lane
  have hback : ∀ (i : Nat) (t : Stream), (s.streams.modify j f)[i]? = some t →
      ∃ t₀ : Stream, s.streams[i]? = some t₀ ∧ t.lane = t₀.lane ∧
        (t.stopped = false → t₀.stopped = false) ∧ (i = id → t.paused = t₀.paused) := by
    intro i t ht
    rw [Array.getElem?_modify] at ht
    split at ht
    · rename_i hji
      obtain ⟨t₀, ht₀, rfl⟩ := Option.map_eq_some_iff.mp ht
      exact ⟨t₀, ht₀, hlane t₀, hstop t₀, fun hi => (hid (hji.trans hi) t₀).2⟩
    · exact ⟨t, ht, rfl, fun hs => hs, fun _ => rfl⟩
  obtain ⟨t, ht, hl, hst⟩ := h.running
  refine ⟨?_, h.owned, h.transfers, ?_, ?_⟩
  · rw [Array.getElem?_modify, ht]
    split
    · rename_i hj
      exact ⟨f t, rfl, (hlane t).trans hl, ((hid hj t).1).trans hst⟩
    · exact ⟨t, rfl, hl, hst⟩
  · intro i t' hi ht' hst'
    obtain ⟨t₀, ht₀, hl₀, hs₀, -⟩ := hback i t' ht'
    rw [hl₀]
    exact h.streams i t₀ hi ht₀ (hs₀ hst')
  · intro t' ht'
    obtain ⟨t₀, ht₀, -, -, hp₀⟩ := hback id t' ht'
    rw [hp₀ rfl]
    exact h.enabled t₀ ht₀

/-- A change that keeps the lane's control word, whether it is held and the record of the
transfer, and adds transfers of either kind only on other lanes, keeps the invariant: a
start on another lane is one. -/
theorem of_added_elsewhere {s' : Machine} (h : s.Pausable id l)
    (hctl : s'.bank.control l = s.bank.control l)
    (ho : (s'.laneState l).owned = (s.laneState l).owned)
    (hid : s'.streams[id]? = s.streams[id]?)
    (ht : ∀ (j : Nat) (t : Transfer), s'.transfers[j]? = some t →
      s.transfers[j]? = some t ∨ t.lane ≠ l)
    (hs : ∀ (j : Nat) (t : Stream), s'.streams[j]? = some t →
      s.streams[j]? = some t ∨ t.lane ≠ l) :
    s'.Pausable id l where
  running := hid ▸ h.running
  owned := ho ▸ h.owned
  transfers j t hj hr := (ht j t hj).elim (fun hj => h.transfers j t hj hr) fun hl => hl
  streams j t hne hj hst := (hs j t hj).elim (fun hj => h.streams j t hne hj hst) fun hl => hl
  enabled t ht' := hctl ▸ h.enabled t (hid ▸ ht')

/-- Handing back a transfer on another lane: it frees that lane and ends the transfer. -/
theorem handBack (h : s.Pausable id l) (j : Nat) {t : Transfer} (ht : t.lane ≠ l) (mask : UInt32)
    (c : Counters) : (s.handBack j t mask c).Pausable id l where
  running := h.running
  owned := (congrArg LaneState.owned (Lane.entry_setEntry_of_ne _ _ _ _ ht)).trans h.owned
  transfers := by
    intro i t' hi hr
    simp only [Machine.handBack, Array.getElem?_modify] at hi
    split at hi
    · obtain ⟨t₀, _, rfl⟩ := Option.map_eq_some_iff.mp hi
      cases hr
    · exact h.transfers i t' hi hr
  streams := h.streams
  enabled := fun t' ht' => by
    simp only [Machine.handBack, Bank.control_setControl_of_ne _ _ ht, Bank.control_clear]
    exact h.enabled t' ht'

end Machine.Pausable

/-! ## Two runs in lockstep -/

/-- From every machine where the invariant of transfer `id` on lane `l` holds, `x` keeps it,
and `y`, run from the machine with the pause mark of `id` set to `p`, does what `x` does:
it returns or breaks off alike, with the same value, and leaves the machine `x` leaves with
the mark set to `p`. -/
def Mirrors (id : Nat) (l : Lane) (p : Bool) {α : Type} (x y : Act α) : Prop :=
  ∀ s, s.Pausable id l → (finalState (x.run s)).Pausable id l ∧
    y.run (s.withPause id l p) = mapMachine (·.withPause id l p) (x.run s)

namespace Mirrors

variable {id : Nat} {l : Lane} {p : Bool} {α β : Type}

theorem pure (a : α) : Mirrors id l p (pure a : Act α) (pure a) := fun _ hs => ⟨hs, rfl⟩

theorem throw (e : Fault) : Mirrors id l p (throw e : Act α) (throw e) := fun _ hs => ⟨hs, rfl⟩

theorem bind {x y : Act α} {k k' : α → Act β} (hx : Mirrors id l p x y)
    (hk : ∀ a, Mirrors id l p (k a) (k' a)) : Mirrors id l p (x >>= k) (y >>= k') := by
  intro s hs
  obtain ⟨hp, hr⟩ := hx s hs
  rw [EStateM.run_bind, EStateM.run_bind, hr]
  cases hxs : x.run s with
  | ok a s₁ =>
    rw [hxs] at hp
    exact hk a s₁ hp
  | error e s₁ =>
    rw [hxs] at hp
    exact ⟨hp, rfl⟩

theorem tryCatch {x y : Act α} {handle handle' : Fault → Act α} (hx : Mirrors id l p x y)
    (hh : ∀ e, Mirrors id l p (handle e) (handle' e)) :
    Mirrors id l p (tryCatch x handle) (tryCatch y handle') := by
  intro s hs
  obtain ⟨hp, hr⟩ := hx s hs
  rw [run_tryCatch, run_tryCatch, hr]
  cases hxs : x.run s with
  | ok a s₁ =>
    rw [hxs] at hp
    exact ⟨hp, rfl⟩
  | error e s₁ =>
    rw [hxs] at hp
    exact hh e s₁ hp

/-- A callback run with the buffers' marks changed before it and after it, as a borrow runs
its callback, mirrors as the callback alone does. -/
theorem around_buffers {x y : Act α} (h : Mirrors id l p x y) {s : Machine}
    (hs : s.Pausable id l) (bufs : Array Buffer) (g : Array Buffer → Array Buffer) :
    let after : EStateM.Result Fault Machine α → EStateM.Result Fault Machine α := fun r =>
      match r with
      | .ok a s' => .ok a { s' with buffers := g s'.buffers }
      | .error e s' => .error e { s' with buffers := g s'.buffers }
    (finalState (after (x.run { s with buffers := bufs }))).Pausable id l ∧
      after (y.run { s.withPause id l p with buffers := bufs }) =
        mapMachine (·.withPause id l p) (after (x.run { s with buffers := bufs })) := by
  obtain ⟨hp, hr⟩ := h { s with buffers := bufs } (hs.of_frame rfl rfl rfl rfl)
  dsimp only
  rw [show ({ s.withPause id l p with buffers := bufs } : Machine) =
    Machine.withPause { s with buffers := bufs } id l p from rfl, hr]
  generalize x.run { s with buffers := bufs } = r at hp ⊢
  cases r with
  | ok a s' => exact ⟨hp.of_frame rfl rfl rfl rfl, rfl⟩
  | error e s' => exact ⟨hp.of_frame rfl rfl rfl rfl, rfl⟩

end Mirrors

end DmaOwnership
