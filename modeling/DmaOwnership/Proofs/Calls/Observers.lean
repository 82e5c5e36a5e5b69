import DmaOwnership.Proofs.Spec.Transfer
import DmaOwnership.Proofs.Spec.Stream
import DmaOwnership.Proofs.Lane.Flags
/-!
# Operations that only look

Asking a one-shot transfer whether it is done, and polling it, make exactly one status read
and leave `Machine.afterRead`; the answer is read off the word that read leaves
(`Transfer.doneIn`, `Transfer.pollIn`), so a completion once seen is seen by every later
question. Asking how many items are left, whether a lane is in use, and looking up a buffer,
a ring or a circular transfer change nothing (`Observes`). A read of a circular transfer that
returns without calling back has made one status read, counted one refusal and changed
nothing else.
-/

namespace DmaOwnership

/-- Operation `x` only looks: returning or breaking off, it leaves the machine as it was. -/
def Observes {α : Type} (x : Act α) : Prop := ∀ s, finalState (x.run s) = s

namespace Machine

/-- A status read at which nothing falls due only counts itself. -/
theorem afterRead_of_quiet {s : Machine} (hq : s.bank.fallingDue = []) :
    s.afterRead = { s with bank := { s.bank with reads := s.bank.reads + 1 } } := by
  have hnone : ∀ x ∈ s.bank.schedule, (s.bank.reads + 1 : Int) < x.due := by
    intro x hx
    have hx' : x ∉ s.bank.fallingDue := by
      rw [hq]
      exact List.not_mem_nil
    simp only [Bank.fallingDue, List.mem_filter, decide_eq_true_eq, not_and, Int.not_le] at hx'
    have := hx' hx
    omega
  simp only [afterRead, Bank.status_of_none_due _ hnone]

end Machine

namespace Transfer

open Machine

/-- What status word `w` says of a one-shot transfer on lane `l`: it failed, or whether it
is complete. -/
def doneIn (l : Lane) (w : UInt32) : Except Refusal Bool :=
  if (LaneStatus.ofWord l w).error then .error .transferError
  else .ok (LaneStatus.ofWord l w).complete

/-- What a poll answers by status word `w`: nothing when the transfer is complete, else why
not. -/
def pollIn (l : Lane) (w : UInt32) : Option Refusal :=
  match doneIn l w with
  | .error r => some r
  | .ok true => none
  | .ok false => some .wouldBlock

section Live

variable {s : Machine} {id : Nat} {t : Transfer}

/-- Asking a live transfer whether it is done is one status read, answered by the word read. -/
theorem isDone_live (ht : s.transfers[id]? = some t) (hr : t.released = false) :
    (isDone id).run s = .ok (doneIn t.lane s.afterRead.bank.flags) s.afterRead := by
  rw [run_isDone, ht]
  simp only [hr, Bool.false_eq_true, if_false]
  rfl

/-- Polling a live transfer is one status read, answered by the word read. -/
theorem poll_live (ht : s.transfers[id]? = some t) (hr : t.released = false) :
    (poll id).run s = .ok (pollIn t.lane s.afterRead.bank.flags) s.afterRead := by
  rw [run_poll, ht]
  simp only [hr, Bool.false_eq_true, if_false]
  unfold pollIn doneIn
  -- the word a read answers is the status word it leaves
  have hw : s.afterRead.bank.flags = s.bank.status.1 := rfl
  rw [hw]
  cases (LaneStatus.ofWord t.lane s.bank.status.1).error <;>
    cases (LaneStatus.ofWord t.lane s.bank.status.1).complete <;> rfl

/-- A handle that names no live transfer breaks both questions off before any read. -/
theorem isDone_poll_dead (hd : ∀ t, s.transfers[id]? = some t → t.released = true) :
    ∃ e, (isDone id).run s = .error e s ∧ (poll id).run s = .error e s := by
  rw [run_isDone, run_poll]
  cases ht : s.transfers[id]? with
  | none => exact ⟨_, rfl, rfl⟩
  | some t =>
    have hr := hd t ht
    simp only [hr, if_true]
    exact ⟨_, rfl, rfl⟩

/-- Every handle either names a live transfer, whose questions are one status read, or
breaks them off with the machine as it was. -/
theorem isDone_poll_cases (s : Machine) (id : Nat) :
    (∃ t, s.transfers[id]? = some t ∧ t.released = false ∧
      (isDone id).run s = .ok (doneIn t.lane s.afterRead.bank.flags) s.afterRead ∧
      (poll id).run s = .ok (pollIn t.lane s.afterRead.bank.flags) s.afterRead) ∨
    ∃ e, (isDone id).run s = .error e s ∧ (poll id).run s = .error e s := by
  by_cases hl : ∃ t, s.transfers[id]? = some t ∧ t.released = false
  · obtain ⟨t, ht, hr⟩ := hl
    exact Or.inl ⟨t, ht, hr, isDone_live ht hr, poll_live ht hr⟩
  · refine Or.inr (isDone_poll_dead fun t ht => ?_)
    simpa using fun hr => hl ⟨t, ht, hr⟩

end Live

/-- A question answered once is answered the same by a second one at whose read nothing
falls due, which then only counts its read. -/
theorem isDone_again {s s₁ : Machine} {id : Nat} {v : Except Refusal Bool}
    (h : (isDone id).run s = .ok v s₁) (hq : s₁.bank.fallingDue = []) :
    (isDone id).run s₁ = .ok v { s₁ with bank := { s₁.bank with reads := s₁.bank.reads + 1 } } := by
  rcases isDone_poll_cases s id with ⟨t, ht, hr, hdone, -⟩ | ⟨e, he, -⟩
  · rw [hdone] at h
    cases h
    -- the read changed no transfer, so the transfer is still live
    rw [isDone_live (s := s.afterRead) ht hr, afterRead_of_quiet hq]
  · rw [he] at h
    cases h

/-- A poll answered once is answered the same by a second one at whose read nothing falls
due. -/
theorem poll_again {s s₁ : Machine} {id : Nat} {v : Option Refusal}
    (h : (poll id).run s = .ok v s₁) (hq : s₁.bank.fallingDue = []) :
    (poll id).run s₁ = .ok v { s₁ with bank := { s₁.bank with reads := s₁.bank.reads + 1 } } := by
  rcases isDone_poll_cases s id with ⟨t, ht, hr, -, hpoll⟩ | ⟨e, -, he⟩
  · rw [hpoll] at h
    cases h
    rw [poll_live (s := s.afterRead) ht hr, afterRead_of_quiet hq]
  · rw [he] at h
    cases h

/-- A status word that shows the transfer complete is followed by words that never show it
not done: reads never take the complete flag down. -/
theorem doneIn_readN_ne {l : Lane} {b : Bank} (h : doneIn l b.flags = .ok true) (k : Nat) :
    doneIn l (b.readN k).flags ≠ .ok false := by
  have hc : (LaneStatus.ofWord l b.flags).complete = true := by
    unfold doneIn at h
    split at h
    · cases h
    · exact Except.ok.inj h
  have hc' := (Bank.rises_readN l b k).complete hc
  unfold doneIn
  split
  · simp
  · simp [hc']

/-- Seeing completion does not consume it: after a question answered complete, the question
asked again after any number of further status reads answers complete or a transfer error. -/
theorem isDone_complete_stays {s s₁ : Machine} {id : Nat}
    (h : (isDone id).run s = .ok (.ok true) s₁) (k : Nat) :
    ∃ v s₂, (isDone id).run { s₁ with bank := s₁.bank.readN k } = .ok v s₂ ∧ v ≠ .ok false := by
  rcases isDone_poll_cases s id with ⟨t, ht, hr, hdone, -⟩ | ⟨e, he, -⟩
  · rw [hdone] at h
    simp only [EStateM.Result.ok.injEq] at h
    obtain ⟨hv, rfl⟩ := h
    refine ⟨_, _, isDone_live (s := { s.afterRead with bank := s.afterRead.bank.readN k }) ht hr, ?_⟩
    -- one more read is the read after the `k` reads
    have hk : ({ s.afterRead with bank := s.afterRead.bank.readN k } : Machine).afterRead.bank =
        s.afterRead.bank.readN (k + 1) := rfl
    rw [hk]
    exact doneIn_readN_ne hv (k + 1)
  · rw [he] at h
    cases h

end Transfer

/-! ## Operations that change nothing -/

section Observes

theorem observes_laneRemaining (l : Lane) : Observes l.remaining := fun s => by
  rw [Lane.run_remaining]
  rfl

theorem observes_inUse (l : Lane) : Observes l.inUse := fun s => by
  rw [Lane.run_inUse]
  rfl

theorem observes_transferRemaining (id : Nat) : Observes (Transfer.remaining id) := fun s => by
  rw [Transfer.run_remaining]
  cases s.transfers[id]? with
  | none => rfl
  | some t =>
    dsimp only
    cases t.released <;> rfl

theorem observes_streamRemaining (id : Nat) : Observes (Stream.remaining id) := fun s => by
  rw [Stream.run_remaining]
  cases s.streams[id]? with
  | none => rfl
  | some t =>
    dsimp only
    cases t.stopped <;> rfl

theorem observes_buffer (id : Nat) : Observes (Machine.buffer id) := fun s => by
  rw [Machine.run_buffer]
  cases s.buffers[id]? <;> rfl

theorem observes_ring (id : Nat) : Observes (Machine.ring id) := fun s => by
  rw [Machine.run_ring]
  cases s.rings[id]? <;> rfl

theorem observes_stream (id : Nat) : Observes (Machine.stream id) := fun s => by
  rw [Machine.run_stream]
  cases s.streams[id]? <;> rfl

end Observes

/-! ## Reads that do not call back -/

namespace Stream

variable {s s' : Machine} {id : Nat}

/-- The checks of a read refuse only after their status read, with a transfer error, an
overrun or would block, and count the refusal. -/
theorem takeHalf_refused {r : Refusal} (h : (takeHalf id).run s = .ok (.error r) s') :
    s' = s.afterRead.recorded r ∧ (r = .transferError ∨ r = .overrun ∨ r = .wouldBlock) := by
  rw [run_takeHalf] at h
  split at h
  · cases h
  split at h
  · cases h
  split at h
  · cases h
  split at h
  · cases h
  -- past the lookups: the refusals of the status read, in the order the checks make them
  dsimp only at h
  split at h
  · cases h
    exact ⟨rfl, .inl rfl⟩
  split at h
  · cases h
    exact ⟨rfl, .inr (.inl rfl)⟩
  split at h
  · cases h
    exact ⟨rfl, .inr (.inr rfl)⟩
  · cases h

/-- A read that returns without calling back returns the refusal of its checks, in the
machine they left. -/
theorem peek_without_callback {α : Type} {f : Array UInt32 → Half → Act α} {o : Outcome α}
    (h : (peek id f).run s = .ok o s') (hn : o.result = none) :
    ∃ r, o.refusal = some r ∧ (takeHalf id).run s = .ok (.error r) s' := by
  rw [run_peek] at h
  rcases ht : (takeHalf id).run s with ⟨v, s₁⟩ | ⟨e, s₁⟩ <;> rw [ht] at h
  · rcases v with r | ⟨half, data, start⟩
    · cases h
      exact ⟨r, rfl, rfl⟩
    · -- a half was handed out: the callback ran, and a returning read answers its result
      dsimp only at h
      split at h
      · cases h
      · split at h
        · cases h
        · cases h
          cases hn
  · cases h

/-- A read that returns without calling back made one status read, counted one refusal
(a transfer error, an overrun or would block) and changed nothing else. -/
theorem peek_refusal_only_counts {α : Type} {f : Array UInt32 → Half → Act α} {o : Outcome α}
    (h : (peek id f).run s = .ok o s') (hn : o.result = none) :
    ∃ r, o.refusal = some r ∧ (r = .transferError ∨ r = .overrun ∨ r = .wouldBlock) ∧
      s' = s.afterRead.recorded r := by
  obtain ⟨r, hr, ht⟩ := peek_without_callback h hn
  obtain ⟨hs', hkind⟩ := takeHalf_refused ht
  exact ⟨r, hr, hkind, hs'⟩

end Stream

/-- Looking changes nothing but one status read. Asking a one-shot transfer whether it is
done and polling it make exactly one status read (or break off on a dead handle); asking
again answers the same until an event falls due; the other queries change nothing; and a
read of a circular transfer that returns without calling back made one status read and
counted one refusal. -/
theorem looking_makes_one_read :
    (∀ (s : Machine) (id : Nat),
      (∃ t, s.transfers[id]? = some t ∧ t.released = false ∧
        (Transfer.isDone id).run s = .ok (Transfer.doneIn t.lane s.afterRead.bank.flags) s.afterRead ∧
        (Transfer.poll id).run s = .ok (Transfer.pollIn t.lane s.afterRead.bank.flags) s.afterRead) ∨
      ∃ e, (Transfer.isDone id).run s = .error e s ∧ (Transfer.poll id).run s = .error e s) ∧
    (∀ s : Machine, s.bank.fallingDue = [] →
      s.afterRead = { s with bank := { s.bank with reads := s.bank.reads + 1 } }) ∧
    (∀ (s s₁ : Machine) (id : Nat) (v : Except Refusal Bool),
      (Transfer.isDone id).run s = .ok v s₁ → s₁.bank.fallingDue = [] →
      (Transfer.isDone id).run s₁ = .ok v { s₁ with bank := { s₁.bank with reads := s₁.bank.reads + 1 } }) ∧
    (∀ (s s₁ : Machine) (id : Nat) (v : Option Refusal),
      (Transfer.poll id).run s = .ok v s₁ → s₁.bank.fallingDue = [] →
      (Transfer.poll id).run s₁ = .ok v { s₁ with bank := { s₁.bank with reads := s₁.bank.reads + 1 } }) ∧
    (∀ (s s₁ : Machine) (id : Nat), (Transfer.isDone id).run s = .ok (.ok true) s₁ →
      ∀ k, ∃ v s₂, (Transfer.isDone id).run { s₁ with bank := s₁.bank.readN k } = .ok v s₂ ∧
        v ≠ .ok false) ∧
    (∀ (l : Lane) (id : Nat), Observes l.remaining ∧ Observes l.inUse ∧
      Observes (Transfer.remaining id) ∧ Observes (Stream.remaining id) ∧
      Observes (Machine.buffer id) ∧ Observes (Machine.ring id) ∧ Observes (Machine.stream id)) ∧
    (∀ {α : Type} (s s' : Machine) (id : Nat) (f : Array UInt32 → Half → Act α) (o : Stream.Outcome α),
      (Stream.peek id f).run s = .ok o s' → o.result = none →
      ∃ r, o.refusal = some r ∧ (r = .transferError ∨ r = .overrun ∨ r = .wouldBlock) ∧
        s' = s.afterRead.recorded r) ∧
    (∀ {α : Type} (s s' : Machine) (id : Nat) (f : Array UInt32 → Act α) (o : Stream.Outcome α),
      (Stream.read id f).run s = .ok o s' → o.result = none →
      ∃ r, o.refusal = some r ∧ (r = .transferError ∨ r = .overrun ∨ r = .wouldBlock) ∧
        s' = s.afterRead.recorded r) :=
  ⟨Transfer.isDone_poll_cases,
   fun _ hq => Machine.afterRead_of_quiet hq,
   fun _ _ _ _ h hq => Transfer.isDone_again h hq,
   fun _ _ _ _ h hq => Transfer.poll_again h hq,
   fun _ _ _ h k => Transfer.isDone_complete_stays h k,
   fun l id => ⟨observes_laneRemaining l, observes_inUse l, observes_transferRemaining id,
     observes_streamRemaining id, observes_buffer id, observes_ring id, observes_stream id⟩,
   fun _ _ _ _ _ h hn => Stream.peek_refusal_only_counts h hn,
   fun _ _ _ _ _ h hn => Stream.peek_refusal_only_counts h hn⟩

open Machine in
/-- With a write on lane 1 whose transfer-complete is up, asking whether it is done answers
yes, asking again answers the same after one more read, and no later read makes it answer no. -/
theorem complete_write_stays_done :
    let s := finalState ((addBuffer { width := .w8, items := #[1, 2] } >>= fun _ =>
      addPeripheral { address := 64 } >>= fun _ => Transfer.start .toPeripheral ⟨0⟩ 0 0 >>= fun _ =>
        modifyBank (·.raise ⟨0⟩ .complete)).run (finalState (takeLanes.run ({} : Machine))))
    ∃ s₁, (Transfer.isDone 0).run s = .ok (.ok true) s₁ ∧
      (Transfer.isDone 0).run s₁ =
        .ok (.ok true) { s₁ with bank := { s₁.bank with reads := s₁.bank.reads + 1 } } ∧
      ∀ k, ∃ v s₂, (Transfer.isDone 0).run { s₁ with bank := s₁.bank.readN k } = .ok v s₂ ∧
        v ≠ .ok false := by
  intro s
  obtain ⟨-, -, hagain, -, hstays, -⟩ := looking_makes_one_read
  obtain ⟨s₁, h₁, hdue⟩ : ∃ s₁, (Transfer.isDone 0).run s = .ok (.ok true) s₁ ∧
      s₁.bank.fallingDue = [] := by
    unfold s
    exact ⟨_, rfl, rfl⟩
  exact ⟨s₁, h₁, hagain s s₁ 0 _ h₁ hdue, hstays s s₁ 0 h₁⟩


end DmaOwnership
