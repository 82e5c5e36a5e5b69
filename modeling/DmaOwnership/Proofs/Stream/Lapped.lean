import DmaOwnership.Proofs.Lane.Flags
import DmaOwnership.Proofs.Lane.Within
import DmaOwnership.Proofs.Ownership.Kept
import DmaOwnership.Proofs.Calls.Logged
/-!
# An overrun found before the callback sticks

A read refuses with an overrun before it calls back when the lane shows the flag of the half
after the one its reader waits for: the engine has filled both halves since the reader last
took one. The reader clears only the flag of a half it hands out and hands nothing out while
that flag is up, and the ownership rules keep every other transfer off the lane and the ring.
So the transfer stays lapped (`Stream.Lapped`) under every client program until it is stopped
(`Client.keeps_lappedOrStopped`), each operation checked once as a step that follows the
transfer (`Stream.Follows`). An overrun found after the callback is another matter: the
reader has moved on by then.
-/

namespace DmaOwnership

open Machine

/-! ## What the ownership rules say about a running circular transfer -/

namespace Machine.Ownership

variable {s : Machine} {id : Nat} {t : Stream}

/-- The lane of a running circular transfer is in use. -/
theorem inUse_of_live (h : Ownership s) (ht : s.streams[id]? = some t) (hst : t.stopped = false) :
    s.inUse t.lane = true := by
  rw [h.inUse_eq]
  exact (h.lanes.owned_iff t.lane).2 ⟨.stream id, t.hold, live_hold ht hst, rfl⟩

/-- A lane free for a start is not the lane of a running circular transfer. -/
theorem lane_ne_of_free (h : Ownership s) (ht : s.streams[id]? = some t)
    (hst : t.stopped = false) {l : Lane} (hu : s.inUse l = false) : l ≠ t.lane := by
  rintro rfl
  rw [h.inUse_of_live ht hst] at hu
  cases hu

/-- A running one-shot transfer runs on another lane than a running circular transfer. -/
theorem transfer_lane_ne (h : Ownership s) (ht : s.streams[id]? = some t)
    (hst : t.stopped = false) {id' : Nat} {t' : Transfer} (ht' : s.transfers[id']? = some t')
    (hr : t'.released = false) : t'.lane ≠ t.lane := by
  intro he
  have hh : Holder.transfer id' = .stream id :=
    h.lanes.unique ⟨t', ⟨ht', hr⟩, he⟩ ⟨t.hold, live_hold ht hst, rfl⟩
  cases hh

/-- Two running circular transfers have different lanes and different rings. -/
theorem stream_ne (h : Ownership s) (ht : s.streams[id]? = some t) (hst : t.stopped = false)
    {id' : Nat} {t' : Stream} (ht' : s.streams[id']? = some t') (hst' : t'.stopped = false)
    (hne : id' ≠ id) : t'.lane ≠ t.lane ∧ t'.ring ≠ t.ring := by
  constructor
  · intro he
    have hh : Holder.stream id' = .stream id :=
      h.lanes.unique ⟨t'.hold, live_hold ht' hst', he⟩ ⟨t.hold, live_hold ht hst, rfl⟩
    cases hh
    exact hne rfl
  · intro he
    exact hne (h.rings.unique (live_hold ht' hst') (live_hold ht hst) he)

end Machine.Ownership

namespace Stream

/-- The engine has lapped the reader of circular transfer `id`: the transfer runs, its ring
waits for half `h`, and its lane shows an error or the flag of the half after `h`. -/
def Lapped (id : Nat) (s : Machine) : Prop :=
  ∃ t r h, s.streams[id]? = some t ∧ t.stopped = false ∧ s.rings[t.ring]? = some r ∧
    r.phase.waiting = some h ∧
    ((LaneStatus.ofWord t.lane s.bank.flags).error = true ∨
      (LaneStatus.ofWord t.lane s.bank.flags).filled h.other = true)

/-- Circular transfer `id` is lapped, or it has been stopped. -/
def LappedOrStopped (id : Nat) (s : Machine) : Prop :=
  Lapped id s ∨ ∃ t, s.streams[id]? = some t ∧ t.stopped = true

/-- From `s` to `s'`, circular transfer `id` keeps its lane and its ring, and a stop is never
undone; while it runs in `s`, its ring keeps its phase and its lane's flags only rise. -/
structure Follows (id : Nat) (s s' : Machine) : Prop where
  /-- The transfer keeps its lane and ring, and stays stopped once stopped. -/
  stream : ∀ t, s.streams[id]? = some t → ∃ t', s'.streams[id]? = some t' ∧
    t'.lane = t.lane ∧ t'.ring = t.ring ∧ (t.stopped = true → t'.stopped = true)
  /-- The ring of a running transfer keeps its phase. -/
  phase : ∀ t r, s.streams[id]? = some t → t.stopped = false → s.rings[t.ring]? = some r →
    ∃ r', s'.rings[t.ring]? = some r' ∧ r'.phase = r.phase
  /-- The flags of a running transfer's lane only rise. -/
  flags : ∀ t, s.streams[id]? = some t → t.stopped = false → Bank.Rises t.lane s.bank s'.bank

variable {id : Nat} {s s' : Machine}

/-- A step that follows the transfer keeps it lapped or stopped. -/
theorem LappedOrStopped.follow (h : LappedOrStopped id s) (hf : Follows id s s') :
    LappedOrStopped id s' := by
  rcases h with ⟨t, r, x, ht, hst, hr, hw, hflag⟩ | ⟨t, ht, hst⟩
  · obtain ⟨t', ht', hl, hg, -⟩ := hf.stream t ht
    cases hst' : t'.stopped
    · obtain ⟨r', hr', hph⟩ := hf.phase t r ht hst hr
      refine Or.inl ⟨t', r', x, ht', hst', hg ▸ hr', hph ▸ hw, ?_⟩
      rw [hl]
      exact hflag.imp (hf.flags t ht hst).error (hf.flags t ht hst).filled
    · exact Or.inr ⟨t', ht', hst'⟩
  · obtain ⟨t', ht', -, -, hs'⟩ := hf.stream t ht
    exact Or.inr ⟨t', ht', hs' hst⟩

namespace Follows

/-- A step that leaves the circular transfers and the rings, and only raises flags on the
lane of the transfer while it runs. -/
theorem of_rises (hs : s'.streams = s.streams) (hr : s'.rings = s.rings)
    (hb : ∀ t, s.streams[id]? = some t → t.stopped = false → Bank.Rises t.lane s.bank s'.bank) :
    Follows id s s' where
  stream t ht := ⟨t, by rw [hs]; exact ht, rfl, rfl, fun h => h⟩
  phase t r _ _ hr' := ⟨r, by rw [hr]; exact hr', rfl⟩
  flags := hb

theorem of_flags (hs : s'.streams = s.streams) (hr : s'.rings = s.rings)
    (hb : s'.bank.flags = s.bank.flags) : Follows id s s' :=
  of_rises hs hr fun _ _ _ => Bank.Rises.of_flags hb

theorem refl (s : Machine) : Follows id s s := of_flags rfl rfl rfl

/-- A status read, and a counted refusal after it, raise what falls due and nothing else. -/
theorem afterRead (s : Machine) : Follows id s s.afterRead :=
  of_rises rfl rfl fun t _ _ => Bank.rises_status t.lane s.bank

theorem recorded (s : Machine) (r : Refusal) : Follows id s (s.afterRead.recorded r) :=
  of_rises rfl rfl fun t _ _ => Bank.rises_status t.lane s.bank

/-- Changing the record of a circular transfer, without moving it or undoing a stop. -/
theorem stream_modify (j : Nat) {f : Stream → Stream}
    (hf : ∀ t, (f t).lane = t.lane ∧ (f t).ring = t.ring ∧ (t.stopped = true → (f t).stopped = true))
    {t : Stream} (ht : s.streams[id]? = some t) :
    ∃ t', (s.streams.modify j f)[id]? = some t' ∧ t'.lane = t.lane ∧ t'.ring = t.ring ∧
      (t.stopped = true → t'.stopped = true) := by
  rw [Array.getElem?_modify, ht]
  split
  · exact ⟨f t, rfl, hf t⟩
  · exact ⟨t, rfl, rfl, rfl, fun h => h⟩

/-- A new entry of a table leaves the entries there were. -/
theorem getElem?_push_of_some {α : Type} {xs : Array α} {i : Nat} {a x : α}
    (h : xs[i]? = some a) : (xs.push x)[i]? = some a := by
  rw [Array.getElem?_push, if_neg]
  · exact h
  · rintro rfl
    rw [Array.getElem?_eq_none (Nat.le_refl _)] at h
    cases h

/-- A change of another ring, or of a ring's items, leaves a ring's phase. -/
theorem ring_modify {g j : Nat} {f : Ring → Ring} (hf : j = g → ∀ r, (f r).phase = r.phase)
    {r : Ring} (hr : s.rings[g]? = some r) :
    ∃ r', (s.rings.modify j f)[g]? = some r' ∧ r'.phase = r.phase := by
  rw [Array.getElem?_modify, hr]
  split
  · rename_i hj
    exact ⟨f r, rfl, hf hj r⟩
  · exact ⟨r, rfl, rfl⟩

end Follows

/-! ## Each operation follows the transfer -/

section Steps

variable (id)

theorem follows_configure (l : Lane) (p : Priority) :
    Follows id s (finalState ((l.configure p).run s)) := by
  rw [Lane.run_configure]
  exact Follows.of_flags rfl rfl rfl

theorem follows_listen (l : Lane) (e : Event) : Follows id s (finalState ((l.listen e).run s)) := by
  rw [Lane.run_listen]
  exact Follows.of_flags rfl rfl rfl

theorem follows_unlisten (l : Lane) (e : Event) :
    Follows id s (finalState ((l.unlisten e).run s)) := by
  rw [Lane.run_unlisten]
  exact Follows.of_flags rfl rfl rfl

/-- A new ring leaves the rings there were. -/
theorem follows_addRing (r : Ring) : Follows id s (finalState ((addRing r).run s)) where
  stream t ht := ⟨t, ht, rfl, rfl, fun h => h⟩
  phase _ r' _ _ hr := ⟨r', Follows.getElem?_push_of_some hr, rfl⟩
  flags _ _ _ := Bank.Rises.refl _

/-- A one-shot transfer starts only on a lane no running transfer holds. -/
theorem follows_startTransfer (ho : Ownership s) (dir : Direction) (l : Lane) (buf periph : Nat) :
    Follows id s (finalState ((Machine.peripheral periph >>= fun _ => Transfer.start dir l buf periph).run s)) := by
  rw [EStateM.run_bind, run_peripheral]
  cases hp : s.peripherals[periph]? with
  | none => exact Follows.refl s
  | some p =>
    dsimp only
    rw [Transfer.run_start]
    cases hu : s.inUse l
    case true => exact Follows.refl s
    simp only [Bool.false_eq_true, if_false]
    cases hb : s.buffers[buf]? with
    | none => exact Follows.refl s
    | some b =>
      dsimp only
      split
      · exact Follows.refl s
      cases hl : dir.lock b with
      | none => exact Follows.refl s
      | some b' =>
        simp only [hp]
        refine Follows.of_rises rfl rfl fun t ht hst => Bank.Rises.of_agreeOff (m := l) ?_ ?_
        · exact ((Bank.agreeOff_setControl _ l _).trans (Bank.agreeOff_program _ l _ _ _ _)).symm
        · exact ho.lane_ne_of_free ht hst hu

theorem follows_isDone (id' : Nat) : Follows id s (finalState ((Transfer.isDone id').run s)) := by
  rw [Transfer.run_isDone]
  cases s.transfers[id']? with
  | none => exact Follows.refl s
  | some t =>
    dsimp only
    split
    · exact Follows.refl s
    · rw [Transfer.run_check]
      exact Follows.afterRead s

theorem follows_poll (id' : Nat) : Follows id s (finalState ((Transfer.poll id').run s)) := by
  rw [Transfer.run_poll]
  cases s.transfers[id']? with
  | none => exact Follows.refl s
  | some t =>
    dsimp only
    split
    · exact Follows.refl s
    · exact Follows.afterRead s

theorem follows_transferRemaining (id' : Nat) :
    Follows id s (finalState ((Transfer.remaining id').run s)) := by
  rw [Transfer.run_remaining]
  cases s.transfers[id']? with
  | none => exact Follows.refl s
  | some t =>
    dsimp only
    split <;> exact Follows.refl s

/-- A wait reads the status word and clears flags of its own transfer's lane only, which no
running circular transfer holds. -/
theorem follows_wait (ho : Ownership s) (id' : Nat) :
    Follows id s (finalState ((Transfer.wait id').run s)) := by
  rcases Transfer.wait_final id' s with heq | ⟨t', k, c, ht', hr, hend⟩
  · rw [heq]
    exact Follows.refl s
  rcases hend with heq | ⟨mask, c', hmask, heq⟩ <;> rw [heq]
  · exact Follows.of_rises rfl rfl fun t _ _ => Bank.rises_readN t.lane s.bank k
  · -- the flags of every other lane only rise across the reads and the hand-back
    refine Follows.of_rises rfl rfl fun t ht hst => (Bank.rises_readN t.lane s.bank k).trans ?_
    refine Bank.Rises.of_agreeOff ((Bank.agreeOff_setControl _ t'.lane _).trans
      (Transfer.agreeOff_clear_handBack hmask _)).symm ?_
    exact ho.transfer_lane_ne ht hst ht' hr

/-- A circular transfer starts only on a lane no running transfer holds, with a free ring. -/
theorem follows_startStream (ho : Ownership s) (l : Lane) (ring periph : Nat) :
    Follows id s (finalState ((Machine.peripheral periph >>= fun _ => Stream.start l ring periph).run s)) := by
  rw [EStateM.run_bind, run_peripheral]
  cases hp : s.peripherals[periph]? with
  | none => exact Follows.refl s
  | some p =>
    dsimp only
    rw [Stream.run_start]
    cases hu : s.inUse l
    case true => exact Follows.refl s
    simp only [Bool.false_eq_true, if_false]
    cases hg : s.rings[ring]? with
    | none => exact Follows.refl s
    | some g =>
      dsimp only
      split
      · exact Follows.refl s
      by_cases hph : g.phase = .free
      case neg =>
        simp only [ne_eq, hph, not_false_eq_true, if_true]
        exact Follows.refl s
      simp only [ne_eq, hph, not_true_eq_false, if_false, hp]
      -- the started ring was free, so it is not the ring of a running transfer
      have hring : ∀ t r, s.streams[id]? = some t → t.stopped = false →
          s.rings[t.ring]? = some r → ring = t.ring → r.phase = .free := by
        intro t r _ _ hr he
        rw [← he, hg] at hr
        cases hr
        exact hph
      refine ⟨fun t ht => ⟨t, Follows.getElem?_push_of_some ht, rfl, rfl, fun h => h⟩,
        fun t r ht hst hr => Follows.ring_modify (fun he _ => ?_) hr,
        fun t ht hst => Bank.Rises.of_agreeOff (m := l) ?_ ?_⟩
      · -- a running transfer's ring is never free
        obtain ⟨x, hx, hfill⟩ := ho.rings.held_state (live_hold ht hst)
        have hx' : (s.rings.map Ring.phase)[t.ring]? = some x := hx
        rw [Array.getElem?_map, hr] at hx'
        cases hx'
        exact absurd (hring t r ht hst hr he) hfill
      · exact ((Bank.agreeOff_setControl _ l _).trans (Bank.agreeOff_program _ l _ _ _ _)).symm
      · exact ho.lane_ne_of_free ht hst hu

/-- Filling a ring writes its items and leaves its phase. -/
theorem follows_fillRing (id' offset : Nat) (data : List UInt32) :
    Follows id s (finalState ((modifyRing id' (·.fill offset data)).run s)) where
  stream t ht := ⟨t, ht, rfl, rfl, fun h => h⟩
  phase _ _ _ _ hr := Follows.ring_modify (f := (·.fill offset data)) (fun _ _ => rfl) hr
  flags _ _ _ := Bank.Rises.refl _

theorem follows_configureStream (id' : Nat) (maxRead : Int) :
    Follows id s (finalState ((Stream.configure id' maxRead).run s)) := by
  rw [Stream.run_configure, finalState_ok]
  exact ⟨fun t ht => Follows.stream_modify id' (f := fun t => { t with maxRead })
      (fun _ => ⟨rfl, rfl, fun h => h⟩) ht,
    fun _ r _ _ hr => ⟨r, hr, rfl⟩, fun _ _ _ => Bank.Rises.refl _⟩

/-- Pausing or resuming writes a control word and marks the transfer; no flag moves. -/
theorem follows_setEnable {f : Stream → Stream} (hf : ∀ t, (f t).hold = t.hold) (id' : Nat)
    (l : Lane) (on : Bool) :
    Follows id s { s with
      bank := s.bank.setControl l (Control.withEnable (s.bank.control l) on)
      streams := s.streams.modify id' f } := by
  refine ⟨fun t ht => Follows.stream_modify id' (fun t => ?_) ht, fun _ r _ _ hr => ⟨r, hr, rfl⟩,
    fun _ _ _ => Bank.Rises.of_flags rfl⟩
  have h := hf t
  simp only [Stream.hold, StreamHold.mk.injEq] at h
  exact ⟨h.1, h.2.1, fun hs => h.2.2.trans hs⟩

theorem follows_pause (id' : Nat) : Follows id s (finalState ((Stream.pause id').run s)) := by
  rw [Stream.run_pause]
  cases s.streams[id']? with
  | none => exact Follows.refl s
  | some t' =>
    dsimp only
    split
    · exact Follows.refl s
    · exact follows_setEnable id (f := fun t => { t with paused := true }) (fun _ => rfl) id' _ _

theorem follows_resume (id' : Nat) : Follows id s (finalState ((Stream.resume id').run s)) := by
  rw [Stream.run_resume]
  cases s.streams[id']? with
  | none => exact Follows.refl s
  | some t' =>
    dsimp only
    split
    · exact Follows.refl s
    · exact follows_setEnable id (f := fun t => { t with paused := false }) (fun _ => rfl) id' _ _

theorem follows_streamRemaining (id' : Nat) :
    Follows id s (finalState ((Stream.remaining id').run s)) := by
  rw [Stream.run_remaining]
  cases s.streams[id']? with
  | none => exact Follows.refl s
  | some t' =>
    dsimp only
    split <;> exact Follows.refl s

/-- Stopping another running circular transfer clears its own lane and frees its own ring. -/
theorem follows_stop_of_ne (ho : Ownership s) {id' : Nat} (hne : id' ≠ id) :
    Follows id s (finalState ((Stream.stop id').run s)) := by
  rw [Stream.run_stop]
  cases ht' : s.streams[id']? with
  | none => exact Follows.refl s
  | some t' =>
    dsimp only
    cases hst' : t'.stopped
    case true => exact Follows.refl s
    simp only [Bool.false_eq_true, if_false]
    refine ⟨fun t ht => Follows.stream_modify id' (f := fun t => { t with stopped := true })
        (fun _ => ⟨rfl, rfl, fun _ => rfl⟩) ht,
      fun t r ht hst hr => Follows.ring_modify (fun he => absurd he ?_) hr,
      fun t ht hst => Bank.Rises.of_agreeOff ?_ (ho.stream_ne ht hst ht' hst' hne).1⟩
    · exact (ho.stream_ne ht hst ht' hst' hne).2
    · exact ((Bank.agreeOff_clear_flags _ t'.lane).trans (Bank.agreeOff_setControl _ t'.lane _)).symm

/-- The checks after a read's callback make a status read and count. -/
theorem follows_giveBack (id' : Nat) (h : Half) (start : Option Nat) :
    Follows id s (finalState ((Stream.giveBack id' h start).run s)) := by
  rw [Stream.run_giveBack]
  cases s.streams[id']? with
  | none => exact Follows.refl s
  | some t' =>
    dsimp only
    split
    · exact Follows.refl s
    split
    · exact Follows.recorded s _
    split
    · exact Follows.recorded s _
    · exact Follows.of_rises rfl rfl fun t _ _ => Bank.rises_status t.lane s.bank

/-- A read of another running circular transfer clears a flag of its own lane and moves its
own ring on. -/
theorem follows_takeHalf_of_ne (ho : Ownership s) {id' : Nat} (hne : id' ≠ id) :
    Follows id s (finalState ((Stream.takeHalf id').run s)) := by
  rw [Stream.run_takeHalf]
  cases ht' : s.streams[id']? with
  | none => exact Follows.refl s
  | some t' =>
    dsimp only
    cases hst' : t'.stopped
    case true => exact Follows.refl s
    simp only [Bool.false_eq_true, if_false]
    cases s.rings[t'.ring]? with
    | none => exact Follows.refl s
    | some r' =>
      dsimp only
      cases r'.phase.waiting with
      | none => exact Follows.refl s
      | some h' =>
        dsimp only
        split
        · exact Follows.recorded s _
        split
        · exact Follows.recorded s _
        split
        · exact Follows.recorded s _
        refine ⟨fun t ht => ⟨t, ht, rfl, rfl, fun h => h⟩,
          fun t r ht hst hr => Follows.ring_modify (fun he => absurd he ?_) hr,
          fun t ht hst => (Bank.rises_status t.lane s.bank).trans
            (Bank.Rises.of_agreeOff ?_ (ho.stream_ne ht hst ht' hst' hne).1)⟩
        · exact (ho.stream_ne ht hst ht' hst' hne).2
        · exact (agreeOff_clear_filledFlag _ t'.lane h').symm

end Steps

/-! ## The lapped transfer's own operations -/

/-- The status a read of a lapped transfer finds still shows the error or the other half's
flag, so the read refuses before it calls back and changes nothing but the read and the
count of the refusal. -/
theorem run_takeHalf_of_lapped (h : Lapped id s) :
    ∃ r, (r = .overrun ∨ r = .transferError) ∧
      (takeHalf id).run s = .ok (.error r) (s.afterRead.recorded r) := by
  obtain ⟨t, g, x, ht, hst, hg, hw, hflag⟩ := h
  -- the flags the read finds are those of the bank after it, which only rose
  have hrise := Bank.rises_status t.lane s.bank
  have hw' : LaneStatus.ofWord t.lane s.bank.status.1 =
      LaneStatus.ofWord t.lane s.bank.status.2.flags := rfl
  rw [run_takeHalf, ht]
  simp only [hst, Bool.false_eq_true, if_false, hg, hw, hw']
  cases he : (LaneStatus.ofWord t.lane s.bank.status.2.flags).error
  · have hl : (LaneStatus.ofWord t.lane s.bank.status.2.flags).filled x.other = true := by
      rcases hflag with he' | hf
      · rw [hrise.error he'] at he
        cases he
      · exact hrise.filled hf
    exact ⟨.overrun, Or.inl rfl, by simp [hl]⟩
  · exact ⟨.transferError, Or.inr rfl, by simp⟩

/-- A property that steps following circular transfer `id` keep, and that holds once the
transfer is stopped, is kept by every stop: a stop of the transfer itself stops it, and a
stop of another one follows it. -/
theorem stop_of_follows {P : Machine → Prop} (hP : ∀ {s s'}, P s → Follows id s s' → P s')
    (hstopped : ∀ s t, s.streams[id]? = some t → t.stopped = true → P s) (ho : Ownership s)
    (id' : Nat) (h : P s) : P (finalState ((stop id').run s)) := by
  by_cases hne : id' = id
  · subst hne
    rw [run_stop]
    cases ht : s.streams[id']? with
    | none => exact h
    | some t =>
      dsimp only
      cases hst : t.stopped
      case true => exact h
      simp only [Bool.false_eq_true, if_false, finalState_ok]
      exact hstopped _ { t with stopped := true } (by simp [Array.getElem?_modify, ht]) rfl
  · exact hP h (follows_stop_of_ne id ho hne)

/-- Stopping the transfer ends it for good; stopping another one follows it. -/
theorem lappedOrStopped_stop (ho : Ownership s) (id' : Nat) (h : LappedOrStopped id s) :
    LappedOrStopped id (finalState ((stop id').run s)) :=
  stop_of_follows (P := LappedOrStopped id) (fun h hf => h.follow hf)
    (fun _ t ht hst => Or.inr ⟨t, ht, hst⟩) ho id' h

/-- A read of the transfer itself refuses while it is lapped, and faults once it is
stopped; a read of another transfer follows it. -/
theorem lappedOrStopped_takeHalf (ho : Ownership s) (id' : Nat) (h : LappedOrStopped id s) :
    LappedOrStopped id (finalState ((takeHalf id').run s)) := by
  by_cases hne : id' = id
  · subst hne
    rcases h with hl | ⟨t, ht, hst⟩
    · obtain ⟨r, -, hrun⟩ := run_takeHalf_of_lapped hl
      rw [hrun, finalState_ok]
      exact LappedOrStopped.follow (Or.inl hl) (Follows.recorded s r)
    · have hrun : (takeHalf id').run s = .error .streamStopped s := by
        rw [run_takeHalf, ht]
        simp [hst]
      rw [hrun, finalState_error]
      exact Or.inr ⟨t, ht, hst⟩
  · exact h.follow (follows_takeHalf_of_ne id ho hne)

/-- A refusal before the callback that is an overrun leaves the transfer lapped: the status
read found the flag of the half after the reader's, and nothing cleared it. -/
theorem lapped_of_peek_overrun {α : Type} {f : Array UInt32 → Half → Act α}
    (h : (peek id f).run s = .ok ⟨none, some .overrun⟩ s') : Lapped id s' := by
  rw [run_peek] at h
  cases htake : (takeHalf id).run s with
  | error e s₁ =>
    rw [htake] at h
    cases h
  | ok v s₁ =>
    rw [htake] at h
    rcases v with r | ⟨x, data, start⟩
    · -- the refusal of the checks before the callback
      simp only [EStateM.Result.ok.injEq, Outcome.mk.injEq, Option.some.injEq, true_and] at h
      obtain ⟨rfl, rfl⟩ := h
      rw [run_takeHalf] at htake
      cases ht : s.streams[id]? with
      | none => simp [ht] at htake
      | some t =>
        cases hst : t.stopped
        case true => simp [ht, hst] at htake
        cases hg : s.rings[t.ring]? with
        | none => simp [ht, hst, hg] at htake
        | some g =>
          cases hw : g.phase.waiting with
          | none => simp [ht, hst, hg, hw] at htake
          | some x =>
            -- the read saw no error and the other half's flag
            have hw' : LaneStatus.ofWord t.lane s.bank.status.1 =
                LaneStatus.ofWord t.lane s.bank.status.2.flags := rfl
            simp only [ht, hst, hg, hw, hw', Bool.false_eq_true, if_false] at htake
            by_cases he : (LaneStatus.ofWord t.lane s.bank.status.2.flags).error = true
            · simp [he] at htake
            by_cases hl : (LaneStatus.ofWord t.lane s.bank.status.2.flags).filled x.other = true
            · simp only [he, hl, if_true] at htake
              obtain ⟨-, rfl⟩ := htake
              exact ⟨t, g, x, ht, hst, hg, hw, Or.inr hl⟩
            · simp only [he, hl, Bool.false_eq_true, if_false] at htake
              split at htake <;> simp at htake
    · -- after a callback the outcome carries its result
      simp only at h
      split at h
      · cases h
      · split at h
        · cases h
        · simp only [EStateM.Result.ok.injEq, Outcome.mk.injEq, reduceCtorEq, false_and] at h

/-- A read from a lapped machine refuses before it calls back, with an overrun or a transfer
error, and changes nothing but the status read and the count of the refusal. -/
theorem peek_of_lapped {α : Type} (f : Array UInt32 → Half → Act α) (h : Lapped id s) :
    ∃ r, (r = .overrun ∨ r = .transferError) ∧
      (peek id f).run s = .ok ⟨none, some r⟩ (s.afterRead.recorded r) := by
  obtain ⟨r, hr, hrun⟩ := run_takeHalf_of_lapped h
  exact ⟨r, hr, by rw [run_peek, hrun]⟩

end Stream

/-! ## Every client program keeps the transfer lapped until it is stopped -/

section Keeps

variable (id : Nat) {P : Machine → Prop}

/-- An operation that keeps the ownership rules and follows transfer `id` keeps, with the
rules, every property that steps following the transfer keep. -/
theorem keeps_with_of_follows (hP : ∀ {s s'}, P s → Stream.Follows id s s' → P s')
    {α : Type} {x : Act α} (hx : Keeps Ownership x)
    (hf : ∀ s, Ownership s → Stream.Follows id s (finalState (x.run s))) :
    Keeps (fun s => Ownership s ∧ P s) x :=
  fun s h => ⟨hx s h.1, hP h.2 (hf s h.1)⟩

/-- Marking a buffer's borrowers follows every circular transfer. -/
theorem with_modifyBuffer (hP : ∀ {s s'}, P s → Stream.Follows id s s' → P s') {s : Machine}
    (j : Nat) {f : Buffer → Buffer} (hf : ∀ b, (f b).access = b.access) (h : Ownership s ∧ P s) :
    Ownership { s with buffers := s.buffers.modify j f } ∧
      P { s with buffers := s.buffers.modify j f } :=
  ⟨h.1.modifyBuffer j hf, hP h.2 (Stream.Follows.of_flags rfl rfl rfl)⟩

theorem keeps_with_borrow (hP : ∀ {s s'}, P s → Stream.Follows id s s' → P s') {α : Type}
    (id' : Nat) {f : Array UInt32 → Act α} (hf : ∀ items, Keeps (fun s => Ownership s ∧ P s) (f items)) :
    Keeps (fun s => Ownership s ∧ P s) (Buffer.borrow id' f) :=
  Buffer.keeps_borrow_of id' f (fun _ _ hg h => with_modifyBuffer id hP id' hg h) hf

theorem keeps_with_borrowMut (hP : ∀ {s s'}, P s → Stream.Follows id s s' → P s') {α : Type}
    (id' : Nat) {f : Array UInt32 → Act α} (hf : ∀ items, Keeps (fun s => Ownership s ∧ P s) (f items)) :
    Keeps (fun s => Ownership s ∧ P s) (Buffer.borrowMut id' f) :=
  Buffer.keeps_borrowMut_of id' f (fun _ _ hg h => with_modifyBuffer id hP id' hg h) hf

/-- An operation that calls nothing back keeps, with the ownership rules, every property that
steps following circular transfer `id` keep and that stops keep under the rules: each such
operation but a stop follows the transfer. -/
theorem Leaf.keeps_of_follows (hP : ∀ {s s'}, P s → Stream.Follows id s s' → P s')
    (hstop : ∀ id' s, Ownership s → P s → P (finalState ((Stream.stop id').run s)))
    {α : Type} {x : Act α} (hx : Leaf x) : Keeps (fun s => Ownership s ∧ P s) x := by
  cases hx with
  | silent hs =>
    cases hs with
    | configure l p =>
      exact keeps_with_of_follows id hP (Client.configure l p).keeps_ownership
        fun _ _ => Stream.follows_configure id l p
    | inUse l =>
      exact keeps_with_of_follows id hP (Client.inUse l).keeps_ownership
        fun s _ => Stream.Follows.refl s
    | laneRemaining l =>
      exact keeps_with_of_follows id hP (Client.laneRemaining l).keeps_ownership
        fun s _ => Stream.Follows.refl s
    | newBuffer w items =>
      exact keeps_with_of_follows id hP (Client.newBuffer w items).keeps_ownership
        fun _ _ => Stream.Follows.of_flags rfl rfl rfl
    | newRing w items =>
      exact keeps_with_of_follows id hP (Client.newRing w items).keeps_ownership
        fun _ _ => Stream.follows_addRing id _
    | newPeripheral p =>
      exact keeps_with_of_follows id hP (Client.newPeripheral p).keeps_ownership
        fun _ _ => Stream.Follows.of_flags rfl rfl rfl
    | isDone id' =>
      exact keeps_with_of_follows id hP (Client.isDone id').keeps_ownership
        fun _ _ => Stream.follows_isDone id id'
    | poll id' =>
      exact keeps_with_of_follows id hP (Client.poll id').keeps_ownership
        fun _ _ => Stream.follows_poll id id'
    | transferRemaining id' =>
      exact keeps_with_of_follows id hP (Client.transferRemaining id').keeps_ownership
        fun _ _ => Stream.follows_transferRemaining id id'
    | configureStream id' maxRead =>
      exact keeps_with_of_follows id hP (Client.configureStream id' maxRead).keeps_ownership
        fun _ _ => Stream.follows_configureStream id id' maxRead
    | pause id' =>
      exact keeps_with_of_follows id hP (Client.pause id').keeps_ownership
        fun _ _ => Stream.follows_pause id id'
    | resume id' =>
      exact keeps_with_of_follows id hP (Client.resume id').keeps_ownership
        fun _ _ => Stream.follows_resume id id'
    | streamRemaining id' =>
      exact keeps_with_of_follows id hP (Client.streamRemaining id').keeps_ownership
        fun _ _ => Stream.follows_streamRemaining id id'
    | stop id' => exact fun s h => ⟨keeps_stop id' s h.1, hstop id' s h.1 h.2⟩
    | raise l e =>
      exact keeps_with_of_follows id hP (Client.raise l e).keeps_ownership
        fun s _ => Stream.Follows.of_rises rfl rfl fun t _ _ => Bank.rises_raise t.lane l e s.bank
    | after polls l e =>
      exact keeps_with_of_follows id hP (Client.after polls l e).keeps_ownership
        fun _ _ => Stream.Follows.of_flags rfl rfl rfl
    | status l =>
      exact keeps_with_of_follows id hP (Client.status l).keeps_ownership
        fun s _ => Stream.Follows.afterRead s
    | fillBuffer id' offset data =>
      exact keeps_with_of_follows id hP (Client.fillBuffer id' offset data).keeps_ownership
        fun _ _ => Stream.Follows.of_flags rfl rfl rfl
    | fillRing id' offset data =>
      exact keeps_with_of_follows id hP (Client.fillRing id' offset data).keeps_ownership
        fun _ _ => Stream.follows_fillRing id id' offset data
    | sleep us =>
      exact keeps_with_of_follows id hP (Client.sleep us).keeps_ownership
        fun _ _ => Stream.Follows.of_flags rfl rfl rfl
  | listen l e =>
    exact keeps_with_of_follows id hP (Client.listen l e).keeps_ownership
      fun _ _ => Stream.follows_listen id l e
  | unlisten l e =>
    exact keeps_with_of_follows id hP (Client.unlisten l e).keeps_ownership
      fun _ _ => Stream.follows_unlisten id l e
  | startTransfer dir l buf periph =>
    exact keeps_with_of_follows id hP (Client.startTransfer dir l buf periph).keeps_ownership
      fun _ ho => Stream.follows_startTransfer id ho dir l buf periph
  | startStream l ring periph =>
    exact keeps_with_of_follows id hP (Client.startStream l ring periph).keeps_ownership
      fun _ ho => Stream.follows_startStream id ho l ring periph
  | wait id' =>
    exact keeps_with_of_follows id hP (Client.wait id').keeps_ownership
      fun _ ho => Stream.follows_wait id ho id'

/-- A property that steps following circular transfer `id` keep, and that stops and the checks
before a read keep under the ownership rules, is kept by every client program together with
the rules: every other operation of a client follows the transfer. -/
theorem Client.keeps_of_follows (hP : ∀ {s s'}, P s → Stream.Follows id s s' → P s')
    (hstop : ∀ id' s, Ownership s → P s → P (finalState ((Stream.stop id').run s)))
    (htake : ∀ id' s, Ownership s → P s → P (finalState ((Stream.takeHalf id').run s)))
    {α : Type} {x : Act α} (hx : Client x) : Keeps (fun s => Ownership s ∧ P s) x := by
  have hleaf := fun {β : Type} {y : Act β} (hy : Leaf y) => Leaf.keeps_of_follows id hP hstop hy
  induction hx with
  | pure a => exact keeps_pure a
  | get => exact keeps_get
  | throw e => exact keeps_throw e
  | bind _ _ ihx ihk => exact keeps_bind ihx ihk
  | tryCatch _ _ ihx ihh => exact keeps_tryCatch ihx ihh
  | borrow id' _ ih => exact keeps_with_borrow id hP id' ih
  | borrowMut id' _ ih => exact keeps_with_borrowMut id hP id' ih
  | peek id' _ ih =>
    refine Stream.keeps_peek id' (fun s h => ⟨keeps_takeHalf id' s h.1, htake id' s h.1 h.2⟩)
      (fun x start => ?_) ih
    exact keeps_with_of_follows id hP (keeps_of_owners (owners_giveBack id' x start))
      fun _ _ => Stream.follows_giveBack id id' x start
  -- every other client program calls nothing back
  | configure l p => exact hleaf (.silent (.configure l p))
  | listen l e => exact hleaf (.listen l e)
  | unlisten l e => exact hleaf (.unlisten l e)
  | inUse l => exact hleaf (.silent (.inUse l))
  | laneRemaining l => exact hleaf (.silent (.laneRemaining l))
  | newBuffer w items => exact hleaf (.silent (.newBuffer w items))
  | newRing w items => exact hleaf (.silent (.newRing w items))
  | newPeripheral p => exact hleaf (.silent (.newPeripheral p))
  | startTransfer dir l buf periph => exact hleaf (.startTransfer dir l buf periph)
  | isDone id' => exact hleaf (.silent (.isDone id'))
  | poll id' => exact hleaf (.silent (.poll id'))
  | transferRemaining id' => exact hleaf (.silent (.transferRemaining id'))
  | wait id' => exact hleaf (.wait id')
  | startStream l ring periph => exact hleaf (.startStream l ring periph)
  | configureStream id' maxRead => exact hleaf (.silent (.configureStream id' maxRead))
  | pause id' => exact hleaf (.silent (.pause id'))
  | resume id' => exact hleaf (.silent (.resume id'))
  | streamRemaining id' => exact hleaf (.silent (.streamRemaining id'))
  | stop id' => exact hleaf (.silent (.stop id'))
  | raise l e => exact hleaf (.silent (.raise l e))
  | after polls l e => exact hleaf (.silent (.after polls l e))
  | status l => exact hleaf (.silent (.status l))
  | fillBuffer id' offset data => exact hleaf (.silent (.fillBuffer id' offset data))
  | fillRing id' offset data => exact hleaf (.silent (.fillRing id' offset data))
  | sleep us => exact hleaf (.silent (.sleep us))

/-- Every client program keeps circular transfer `id` lapped or stopped, with the ownership
rules: nothing a client does, on any lane, takes a lapped transfer's flag down or moves its
ring, short of stopping it. -/
theorem Client.keeps_lappedOrStopped {α : Type} {x : Act α} (hx : Client x) :
    Keeps (fun s => Ownership s ∧ Stream.LappedOrStopped id s) x :=
  Client.keeps_of_follows id (fun h hf => h.follow hf)
    (fun id' _ ho h => Stream.lappedOrStopped_stop ho id' h)
    (fun id' _ ho h => Stream.lappedOrStopped_takeHalf ho id' h) hx

end Keeps

/-- An overrun that a read of circular transfer `id` finds before it calls back sticks until
the transfer is stopped: the read leaves the transfer lapped, every client program keeps it
lapped or stopped (with the ownership rules, nested to any depth in callbacks), and a read
of a lapped transfer refuses before it calls back, changing only the status read and the
count of the refusal. -/
theorem overrun_before_callback_sticks (id : Nat) :
    (∀ {α : Type} (f : Array UInt32 → Half → Act α) (s s' : Machine),
      (Stream.peek id f).run s = .ok ⟨none, some .overrun⟩ s' → Stream.Lapped id s') ∧
    (∀ {α : Type} (x : Act α), Client x →
      Keeps (fun s => Ownership s ∧ Stream.LappedOrStopped id s) x) ∧
    (∀ id' s s₁ s₂, Ownership s → Stream.LappedOrStopped id s →
      (Buffer.borrow id' fun _ => get).run s = .ok s₁ s₂ → Stream.LappedOrStopped id s₁) ∧
    (∀ id' s s₁ s₂, Ownership s → Stream.LappedOrStopped id s →
      (Buffer.borrowMut id' fun _ => get).run s = .ok s₁ s₂ → Stream.LappedOrStopped id s₁) ∧
    (∀ id' s s₁ o s₂, Ownership s → Stream.LappedOrStopped id s →
      (Stream.peek id' fun _ _ => get).run s = .ok ⟨some s₁, o⟩ s₂ →
        Stream.LappedOrStopped id s₁) ∧
    (∀ {α : Type} (f : Array UInt32 → Half → Act α) (s : Machine), Stream.Lapped id s →
      ∃ r, (r = .overrun ∨ r = .transferError) ∧
        (Stream.peek id f).run s = .ok ⟨none, some r⟩ (s.afterRead.recorded r)) := by
  refine ⟨fun f s s' h => Stream.lapped_of_peek_overrun h,
    fun x hx => Client.keeps_lappedOrStopped id hx, ?_, ?_, ?_,
    fun f s h => Stream.peek_of_lapped f h⟩
  · intro id' s s₁ s₂ _ hs hrun
    rw [Buffer.run_borrow] at hrun
    cases hb : s.buffers[id']? with
    | none => simp only [hb] at hrun; cases hrun
    | some b =>
      cases hw : b.writing
      · simp only [hb, hw, Bool.false_eq_true, if_false, EStateM.run_get] at hrun
        cases hrun
        exact hs.follow (Stream.Follows.of_flags rfl rfl rfl)
      · simp only [hb, hw, if_true] at hrun
        cases hrun
  · intro id' s s₁ s₂ _ hs hrun
    rw [Buffer.run_borrowMut] at hrun
    cases hb : s.buffers[id']? with
    | none => simp only [hb] at hrun; cases hrun
    | some b =>
      cases hw : b.canWrite
      · simp only [hb, hw, Bool.not_false, if_true] at hrun
        cases hrun
      · simp only [hb, hw, Bool.not_true, Bool.false_eq_true, if_false, EStateM.run_get] at hrun
        cases hrun
        exact hs.follow (Stream.Follows.of_flags rfl rfl rfl)
  · intro id' s s₁ o s₂ ho hs hrun
    -- the callback runs in the machine the checks before it leave
    have h₁ := Stream.lappedOrStopped_takeHalf ho id' hs
    rw [Stream.run_peek] at hrun
    cases ht : (Stream.takeHalf id').run s with
    | error e s₃ => rw [ht] at hrun; cases hrun
    | ok v s₃ =>
      rw [ht] at hrun h₁
      rcases v with r | ⟨h, data, start⟩
      · cases hrun
      · simp only [EStateM.run_get] at hrun
        split at hrun
        · cases hrun
        · cases hrun
          exact h₁


/-! ## A ring on a lane -/

/-- A four-item ring and a peripheral, made after the lanes are handed out. -/
def ringParts : Machine :=
  finalState ((Machine.addRing { width := .w8, items := #[1, 2, 3, 4] } >>= fun _ =>
    Machine.addPeripheral { address := 0x40004424 }).run (finalState (Machine.takeLanes.run {})))

/-- A circular read of the ring started on lane `l`. -/
def ringStarted (l : Lane) : Machine := finalState ((Stream.start l 0 0).run ringParts)

/-- The same after the engine filled the first half and raised half-transfer. -/
def ringHalfFilled (l : Lane) : Machine :=
  finalState ((Machine.modifyBank (·.raise l .half)).run (ringStarted l))

theorem ownership_ringStarted (l : Lane) : (ringStarted l).Ownership :=
  Client.keeps_ownership (.startStream l 0 0) ringParts
    (Client.keeps_ownership (.bind (.newRing _ _) fun _ => .newPeripheral _) _ ownership_takeLanes)

/-- With the ring on lane 5 and transfer-complete raised before half-transfer, a read finds
the overrun before it calls back; a half-transfer and another read leave the transfer lapped,
and a read refuses again. -/
theorem complete_before_half_overruns :
    let s := finalState ((modifyBank (·.raise ⟨4⟩ .complete)).run (ringStarted ⟨4⟩))
    let read : Act (Stream.Outcome Unit) := Stream.peek 0 fun _ _ => pure ()
    ∃ s', read.run s = .ok ⟨none, some .overrun⟩ s' ∧ Stream.Lapped 0 s' ∧
      (Ownership (finalState ((modifyBank (·.raise ⟨4⟩ .half) >>= fun _ => read).run s')) ∧
        Stream.LappedOrStopped 0
          (finalState ((modifyBank (·.raise ⟨4⟩ .half) >>= fun _ => read).run s'))) ∧
      ∃ r, (r = .overrun ∨ r = .transferError) ∧
        read.run s' = .ok ⟨none, some r⟩ (s'.afterRead.recorded r) := by
  dsimp only
  obtain ⟨hlap, hkeep, -, -, -, hrefuse⟩ := overrun_before_callback_sticks 0
  have hs := Client.keeps_ownership (.raise ⟨4⟩ .complete) _ (ownership_ringStarted ⟨4⟩)
  have hread : Client (Stream.peek 0 fun _ _ => (pure () : Act Unit)) := .peek _ fun _ _ => .pure _
  obtain ⟨s', hrun⟩ : ∃ s', (Stream.peek 0 fun _ _ => (pure () : Act Unit)).run
      (finalState ((modifyBank (·.raise ⟨4⟩ .complete)).run (ringStarted ⟨4⟩))) =
        .ok ⟨none, some .overrun⟩ s' := ⟨_, rfl⟩
  have hl := hlap _ _ _ hrun
  have hs' := hread.keeps_ownership _ hs
  rw [hrun] at hs'
  exact ⟨s', hrun, hl, hkeep _ (.bind (.raise _ _) fun _ => hread) _ ⟨hs', .inl hl⟩, hrefuse _ _ hl⟩

end DmaOwnership
