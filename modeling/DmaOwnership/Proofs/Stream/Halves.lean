import Mathlib
import DmaOwnership.Proofs.Stream.Lapped
import DmaOwnership.Proofs.Transfer.Start
/-!
# The halves a circular transfer hands out alternate

A read hands its callback the half its ring's phase names and moves the phase on before the
callback runs; nothing puts it back, and nothing else moves it while the transfer runs. So
from the start the callbacks are handed the first half, the second, the first, … in the
order they are called (`Stream.Paced`). `Handed x s outs r` records a run of client program
`x` with the halves it hands out; every run has one (`Client.handed`), and `Handed.paced`
carries the invariant along it.
-/

namespace DmaOwnership

open Machine

/-! ## Alternating halves -/

namespace Reader

/-- The `k` halves a reader that has been handed `n` halves is handed next, in order. -/
def halves (n : Nat) : Nat → List Half
  | 0 => []
  | k + 1 => half n :: halves (n + 1) k

@[simp] theorem length_halves (n k : Nat) : (halves n k).length = k := by
  induction k generalizing n with
  | zero => rfl
  | succ k ih => rw [halves, List.length_cons, ih]

theorem halves_add (n j k : Nat) : halves n (j + k) = halves n j ++ halves (n + j) k := by
  induction j generalizing n with
  | zero => rw [Nat.zero_add, Nat.add_zero]; rfl
  | succ j ih =>
    rw [Nat.succ_add, halves, halves, ih, List.cons_append, show n + 1 + j = n + (j + 1) by omega]

/-- A ring whose reader has been handed `n` halves fills the first half exactly when `n` is
even. -/
theorem filling_half (n : Nat) :
    (half n).filling = if n % 2 = 0 then .fillingFirst else .fillingSecond := by
  unfold half
  split <;> rfl

end Reader

namespace Stream

/-- The halves handed to the readers of circular transfer `id` among the hand-outs `outs`,
in order. -/
def handedTo (id : Nat) (outs : List (Nat × Half)) : List Half :=
  outs.filterMap fun o => if o.1 = id then some o.2 else none

@[simp] theorem handedTo_nil (id : Nat) : handedTo id [] = [] := rfl

@[simp] theorem handedTo_append (id : Nat) (outs₁ outs₂ : List (Nat × Half)) :
    handedTo id (outs₁ ++ outs₂) = handedTo id outs₁ ++ handedTo id outs₂ :=
  List.filterMap_append

theorem handedTo_cons_self (id : Nat) (h : Half) (outs : List (Nat × Half)) :
    handedTo id ((id, h) :: outs) = h :: handedTo id outs := by
  simp [handedTo]

theorem handedTo_cons_of_ne {id id' : Nat} (hne : id' ≠ id) (h : Half) (outs : List (Nat × Half)) :
    handedTo id ((id', h) :: outs) = handedTo id outs := by
  simp [handedTo, hne]

/-- Circular transfer `id` has handed out `n` halves since it started: it runs with its ring
in the phase that many hand-outs leave, the engine filling the half its reader takes next,
or it has been stopped. -/
def Paced (id n : Nat) (s : Machine) : Prop :=
  ∃ t, s.streams[id]? = some t ∧
    (t.stopped = true ∨ ∃ r, s.rings[t.ring]? = some r ∧ r.phase = (Reader.half n).filling)

variable {id n : Nat} {s s' : Machine}

/-- Steps that follow the transfer keep its pace. -/
theorem Paced.follow (h : Paced id n s) (hf : Follows id s s') : Paced id n s' := by
  obtain ⟨t, ht, hrun⟩ := h
  obtain ⟨t', ht', -, hg, hstop⟩ := hf.stream t ht
  refine ⟨t', ht', ?_⟩
  cases hst' : t'.stopped
  case true => exact Or.inl rfl
  -- a transfer that still runs ran before, and its ring kept its phase
  have hst : t.stopped = false := by
    cases hst : t.stopped
    · rfl
    · rw [hstop hst] at hst'
      cases hst'
  rcases hrun with hst₀ | ⟨r, hr, hph⟩
  · rw [hst] at hst₀
    cases hst₀
  · obtain ⟨r', hr', hph'⟩ := hf.phase t r ht hst hr
    exact Or.inr ⟨r', hg ▸ hr', hph'.trans hph⟩

theorem Paced.of_stopped {t : Stream} (ht : s.streams[id]? = some t) (hst : t.stopped = true) :
    Paced id n s :=
  ⟨t, ht, Or.inl hst⟩

/-- A stop keeps every transfer's pace: it stops the transfer, or follows it. -/
theorem Paced.stop (ho : s.Ownership) (h : Paced id n s) (id' : Nat) :
    Paced id n (finalState ((stop id').run s)) :=
  stop_of_follows (fun h hf => h.follow hf) (fun _ _ ht hst => Paced.of_stopped ht hst) ho id' h

/-- A start that begins a circular transfer begins it at pace zero: its ring fills the first
half. -/
theorem paced_start {l : Lane} {ring periph : Nat}
    (h : (start l ring periph).run s = .ok (.ok id) s') : Paced id 0 s' := by
  rw [run_start] at h
  split at h
  · cases h
  split at h
  · cases h
  rename_i r hr
  split at h
  · cases h
  split at h
  · cases h
  split at h
  · cases h
  simp only [EStateM.Result.ok.injEq, Except.ok.injEq] at h
  obtain ⟨rfl, rfl⟩ := h
  refine ⟨_, Array.getElem?_push_size, Or.inr ⟨{ r with phase := .fillingFirst }, ?_, rfl⟩⟩
  rw [Array.getElem?_modify, if_pos rfl, hr]
  rfl

/-! ## The checks before a callback -/

variable {h : Half} {data : Array UInt32} {start : Option Nat}

/-- What the checks before a callback can do: break off where they began, refuse after a
status read with the refusal counted, or hand out the half the running transfer's ring waits
for, with its items, clearing that half's flag and moving the ring on to the other half. -/
theorem takeHalf_cases (id : Nat) (s : Machine) :
    (∃ e, (takeHalf id).run s = .error e s) ∨
    (∃ r, (takeHalf id).run s = .ok (.error r) (s.afterRead.recorded r)) ∨
    ∃ t r h start, s.streams[id]? = some t ∧ t.stopped = false ∧ s.rings[t.ring]? = some r ∧
      r.phase.waiting = some h ∧
      (takeHalf id).run s = .ok (.ok (h, r.half h, start)) { s.afterRead with
        bank := s.afterRead.bank.clear (t.lane.filledFlag h)
        rings := s.rings.modify t.ring fun r => { r with phase := h.other.filling } } := by
  rw [run_takeHalf]
  cases hs : s.streams[id]? with
  | none => exact Or.inl ⟨_, rfl⟩
  | some t =>
    dsimp only
    cases hst : t.stopped
    case true => exact Or.inl ⟨_, rfl⟩
    simp only [Bool.false_eq_true, if_false]
    cases hr : s.rings[t.ring]? with
    | none => exact Or.inl ⟨_, rfl⟩
    | some r =>
      dsimp only
      cases hw : r.phase.waiting with
      | none => exact Or.inl ⟨_, rfl⟩
      | some h =>
        dsimp only
        split
        · exact Or.inr (Or.inl ⟨_, rfl⟩)
        split
        · exact Or.inr (Or.inl ⟨_, rfl⟩)
        split
        · exact Or.inr (Or.inl ⟨_, rfl⟩)
        · exact Or.inr (Or.inr ⟨t, r, h, _, rfl, hst, hr, hw, rfl⟩)

/-- Checks that hand a half out found the transfer running and its ring waiting for that
half, handed out the half's items, and moved the ring on to the other half. -/
theorem takeHalf_handsOut (ht : (takeHalf id).run s = .ok (.ok (h, data, start)) s') :
    ∃ t r, s.streams[id]? = some t ∧ t.stopped = false ∧ s.rings[t.ring]? = some r ∧
      r.phase.waiting = some h ∧ data = r.half h ∧ s'.streams = s.streams ∧
      s'.rings = s.rings.modify t.ring fun r => { r with phase := h.other.filling } := by
  rcases takeHalf_cases id s with ⟨e, he⟩ | ⟨r, he⟩ | ⟨t, r, x, st, hs, hst, hr, hw, he⟩ <;>
    rw [he] at ht
  · cases ht
  · cases ht
  · simp only [EStateM.Result.ok.injEq, Except.ok.injEq, Prod.mk.injEq] at ht
    obtain ⟨⟨rfl, rfl, -⟩, rfl⟩ := ht
    exact ⟨t, r, hs, hst, hr, hw, rfl, rfl, rfl⟩

/-- Checks that hand nothing out break off where they began, or refuse after a status read
with the refusal counted. -/
theorem takeHalf_of_none
    (hn : ∀ h data start s₁, (takeHalf id).run s ≠ .ok (.ok (h, data, start)) s₁) :
    finalState ((takeHalf id).run s) = s ∨
      ∃ r, finalState ((takeHalf id).run s) = s.afterRead.recorded r := by
  rcases takeHalf_cases id s with ⟨e, he⟩ | ⟨r, he⟩ | ⟨t, r, x, st, -, -, -, -, he⟩
  · exact Or.inl (by rw [he]; rfl)
  · exact Or.inr ⟨r, by rw [he]; rfl⟩
  · exact absurd he (hn _ _ _ _)

/-- Whether a read of a ring in that phase hands its callback the half the pace says: the
engine fills the half the reader takes next. -/
theorem Paced.takeHalf (hp : Paced id n s)
    (ht : (takeHalf id).run s = .ok (.ok (h, data, start)) s') :
    h = Reader.half n ∧ Paced id (n + 1) s' := by
  obtain ⟨t, r, hs, hst, hr, hw, -, hs', hr'⟩ := takeHalf_handsOut ht
  obtain ⟨t₀, ht₀, hrun⟩ := hp
  rw [hs] at ht₀
  cases ht₀
  rcases hrun with hst₀ | ⟨r₀, hr₀, hph⟩
  · rw [hst] at hst₀
    cases hst₀
  rw [hr] at hr₀
  cases hr₀
  -- the ring waited for the pace's half, and now waits for the other one
  have hh : h = Reader.half n := by
    rw [hph, Half.waiting_filling] at hw
    exact (Option.some.inj hw).symm
  refine ⟨hh, t, by rw [hs']; exact hs, Or.inr ⟨{ r with phase := h.other.filling }, ?_, ?_⟩⟩
  · rw [hr', Array.getElem?_modify, if_pos rfl, hr]
    rfl
  · rw [Reader.half_succ, hh]

/-! ## The halves a run hands out -/

/-- How a read ends once its callback, which handed out half `h` at `start`, has ended in
`r`: a fault of the callback breaks the read off, an answer goes through the checks after
the callback. -/
def afterCallback {α : Type} (id : Nat) (h : Half) (start : Option Nat) :
    EStateM.Result Fault Machine α → EStateM.Result Fault Machine (Outcome α)
  | .error e s₂ => .error e s₂
  | .ok a s₂ => answer a ((giveBack id h start).run s₂)

/-- A read whose checks hand out a half runs the callback on it and ends after it. -/
theorem run_peek_of_handsOut {α : Type} {f : Array UInt32 → Half → Act α}
    (ht : (takeHalf id).run s = .ok (.ok (h, data, start)) s') :
    (peek id f).run s = afterCallback id h start ((f data h).run s') := by
  rw [run_peek, ht]
  dsimp only
  cases (f data h).run s' with
  | error e s₂ => rfl
  | ok a s₂ =>
    dsimp only [afterCallback, answer]
    cases (giveBack id h start).run s₂ <;> rfl

/-- A read whose checks hand nothing out ends where they end. -/
theorem finalState_peek_of_none {α : Type} (f : Array UInt32 → Half → Act α)
    (hn : ∀ h data start s₁, (takeHalf id).run s ≠ .ok (.ok (h, data, start)) s₁) :
    finalState ((peek id f).run s) = finalState ((takeHalf id).run s) := by
  rw [run_peek]
  rcases hrun : (takeHalf id).run s with ⟨v, s₁⟩ | ⟨e, s₁⟩
  · rcases v with r | ⟨h, data, start⟩
    · rfl
    · exact absurd hrun (hn h data start s₁)
  · rfl

/-- A read that calls nothing back leaves every ring as it was. -/
theorem rings_peek_of_none {α : Type} (f : Array UInt32 → Half → Act α)
    (hn : ∀ h data start s₁, (takeHalf id).run s ≠ .ok (.ok (h, data, start)) s₁) :
    (finalState ((peek id f).run s)).rings = s.rings := by
  rw [finalState_peek_of_none f hn]
  rcases takeHalf_of_none hn with he | ⟨r, he⟩
  · rw [he]
  · -- a refusal changes the bank and the counters only
    rw [he]
    rfl

end Stream

/-- The halves of a ring `Ring.make` builds are its first `halfLength` items and the next
`halfLength`. -/
theorem Ring.Shaped.half_eq {r : Ring} (hr : r.Shaped) (h : Half) :
    r.half h = match h with
      | .first => r.items.extract 0 r.halfLength
      | .second => r.items.extract r.halfLength (2 * r.halfLength) := by
  cases h
  · rfl
  · rw [hr.two_halves]
    rfl

/-- Client program `x`, run from `s`, ends in `r` and hands out the halves `outs` to the
callbacks of reads, in the order the callbacks are called, each with the handle of the
circular transfer it comes from. A read hands its half out before its callback runs, so the
callback's own hand-outs come after it. -/
inductive Handed : {α : Type} → Act α → Machine → List (Nat × Half) →
    EStateM.Result Fault Machine α → Prop where
  | pure {α : Type} (a : α) (s : Machine) : Handed (pure a) s [] (.ok a s)
  | get (s : Machine) : Handed get s [] (.ok s s)
  | throw {α : Type} (e : Fault) (s : Machine) : Handed (throw e : Act α) s [] (.error e s)
  | bind {α β : Type} {x : Act α} {k : α → Act β} {s s₁ : Machine} {a : α}
      {outs₁ outs₂ : List (Nat × Half)} {r : EStateM.Result Fault Machine β} :
      Handed x s outs₁ (.ok a s₁) → Handed (k a) s₁ outs₂ r →
      Handed (x >>= k) s (outs₁ ++ outs₂) r
  | bind_error {α β : Type} {x : Act α} {k : α → Act β} {s s₁ : Machine} {e : Fault}
      {outs : List (Nat × Half)} :
      Handed x s outs (.error e s₁) → Handed (x >>= k) s outs (.error e s₁)
  | tryCatch_ok {α : Type} {x : Act α} {handle : Fault → Act α} {s s₁ : Machine} {a : α}
      {outs : List (Nat × Half)} :
      Handed x s outs (.ok a s₁) → Handed (tryCatch x handle) s outs (.ok a s₁)
  | tryCatch_error {α : Type} {x : Act α} {handle : Fault → Act α} {s s₁ : Machine}
      {e : Fault} {outs₁ outs₂ : List (Nat × Half)} {r : EStateM.Result Fault Machine α} :
      Handed x s outs₁ (.error e s₁) → Handed (handle e) s₁ outs₂ r →
      Handed (tryCatch x handle) s (outs₁ ++ outs₂) r
  | leaf {α : Type} {x : Act α} (hx : Leaf x) (s : Machine) : Handed x s [] (x.run s)
  | borrow_refused {α : Type} (id : Nat) (f : Array UInt32 → Act α) {s : Machine}
      (h : ∀ b, s.buffers[id]? = some b → b.writing = true) :
      Handed (Buffer.borrow id f) s [] ((Buffer.borrow id f).run s)
  | borrow {α : Type} {id : Nat} {f : Array UInt32 → Act α} {s : Machine} {b : Buffer}
      {outs : List (Nat × Half)} {r : EStateM.Result Fault Machine α}
      (hb : s.buffers[id]? = some b) (hw : b.writing = false) :
      Handed (f b.items)
        { s with buffers := s.buffers.modify id fun b => { b with readers := b.readers + 1 } }
        outs r →
      Handed (Buffer.borrow id f) s outs
        (mapMachine (fun s => { s with
          buffers := s.buffers.modify id fun b => { b with readers := b.readers - 1 } }) r)
  | borrowMut_refused {α : Type} (id : Nat) (f : Array UInt32 → Act α) {s : Machine}
      (h : ∀ b, s.buffers[id]? = some b → b.canWrite = false) :
      Handed (Buffer.borrowMut id f) s [] ((Buffer.borrowMut id f).run s)
  | borrowMut {α : Type} {id : Nat} {f : Array UInt32 → Act α} {s : Machine} {b : Buffer}
      {outs : List (Nat × Half)} {r : EStateM.Result Fault Machine α}
      (hb : s.buffers[id]? = some b) (hw : b.canWrite = true) :
      Handed (f b.items)
        { s with buffers := s.buffers.modify id fun b => { b with writing := true } } outs r →
      Handed (Buffer.borrowMut id f) s outs
        (mapMachine (fun s => { s with
          buffers := s.buffers.modify id fun b => { b with writing := false } }) r)
  | peek_none {α : Type} {id : Nat} (f : Array UInt32 → Half → Act α) {s : Machine}
      (hn : ∀ h data start s₁, (Stream.takeHalf id).run s ≠ .ok (.ok (h, data, start)) s₁) :
      Handed (Stream.peek id f) s [] ((Stream.peek id f).run s)
  | peek {α : Type} {id : Nat} {f : Array UInt32 → Half → Act α} {s s₁ : Machine} {h : Half}
      {data : Array UInt32} {start : Option Nat} {outs : List (Nat × Half)}
      {r : EStateM.Result Fault Machine α}
      (ht : (Stream.takeHalf id).run s = .ok (.ok (h, data, start)) s₁) :
      Handed (f data h) s₁ outs r →
      Handed (Stream.peek id f) s ((id, h) :: outs) (Stream.afterCallback id h start r)

namespace Stream

variable {id n : Nat} {outs : List (Nat × Half)} {s₁ s₂ : Machine}

/-- From pace `n`, the hand-outs `outs` hand the readers of circular transfer `id` the
alternating halves from `half n` on, and leave machine `s'` under the ownership rules at the
pace of all of them. -/
def PacedRun (id n : Nat) (outs : List (Nat × Half)) (s' : Machine) : Prop :=
  s'.Ownership ∧ handedTo id outs = Reader.halves n (handedTo id outs).length ∧
    Paced id (n + (handedTo id outs).length) s'

theorem PacedRun.nil (ho : s₁.Ownership) (hp : Paced id n s₁) : PacedRun id n [] s₁ :=
  ⟨ho, rfl, hp⟩

/-- Two runs one after the other: the second starts at the pace the first ends at. -/
theorem PacedRun.append {outs₂ : List (Nat × Half)} (h₁ : PacedRun id n outs s₁)
    (h₂ : PacedRun id (n + (handedTo id outs).length) outs₂ s₂) :
    PacedRun id n (outs ++ outs₂) s₂ := by
  obtain ⟨-, hl₁, -⟩ := h₁
  obtain ⟨ho, hl₂, hp⟩ := h₂
  refine ⟨ho, ?_, ?_⟩
  · rw [handedTo_append, List.length_append, Reader.halves_add]
    exact (congrArg (· ++ _) hl₁).trans (congrArg (_ ++ ·) hl₂)
  · rw [handedTo_append, List.length_append, ← Nat.add_assoc]
    exact hp

/-- A run from where another ends, at the pace it ends at, continues it. -/
theorem PacedRun.seq {outs₂ : List (Nat × Half)} (h₁ : PacedRun id n outs s₁)
    (h₂ : s₁.Ownership → Paced id (n + (handedTo id outs).length) s₁ →
      PacedRun id (n + (handedTo id outs).length) outs₂ s₂) :
    PacedRun id n (outs ++ outs₂) s₂ :=
  h₁.append (h₂ h₁.1 h₁.2.2)

/-- A hand-out of the pace's half to a reader of the transfer, before a run from the next
pace. -/
theorem PacedRun.cons_self (h : PacedRun id (n + 1) outs s₁) :
    PacedRun id n ((id, Reader.half n) :: outs) s₁ := by
  obtain ⟨ho, hl, hp⟩ := h
  refine ⟨ho, ?_, ?_⟩
  · rw [handedTo_cons_self, List.length_cons, Reader.halves, ← hl]
  · rw [handedTo_cons_self, List.length_cons, ← Nat.add_assoc, Nat.add_right_comm]
    exact hp

/-- A hand-out to a reader of another transfer leaves the transfer's pace. -/
theorem PacedRun.cons_of_ne {id' : Nat} (hne : id' ≠ id) (h : Half) (hr : PacedRun id n outs s₁) :
    PacedRun id n ((id', h) :: outs) s₁ := by
  rw [PacedRun, handedTo_cons_of_ne hne]
  exact hr

theorem PacedRun.follow (h : PacedRun id n outs s₁) (ho : s₂.Ownership) (hf : Follows id s₁ s₂) :
    PacedRun id n outs s₂ :=
  ⟨ho, h.2.1, h.2.2.follow hf⟩

/-- The checks after a callback keep the rules and follow every transfer. -/
theorem PacedRun.afterCallback {α : Type} {r : EStateM.Result Fault Machine α}
    (h : PacedRun id n outs (finalState r)) (id' : Nat) (x : Half) (start : Option Nat) :
    PacedRun id n outs (finalState (afterCallback id' x start r)) := by
  cases r with
  | error e s₂ => exact h
  | ok a s₂ =>
    rw [Stream.afterCallback, finalState_answer]
    exact h.follow (keeps_of_owners (owners_giveBack id' x start) s₂ h.1)
      (follows_giveBack id id' x start)

/-- The marks a borrow sets around its callback and takes back after it are read neither by
the rules nor by any pace. -/
theorem PacedRun.between_marks {α : Type} {buf : Nat} {g g' : Buffer → Buffer}
    {r : EStateM.Result Fault Machine α}
    (h : Machine.Ownership { s with buffers := s.buffers.modify buf g } →
      Paced id n { s with buffers := s.buffers.modify buf g } → PacedRun id n outs (finalState r))
    (hg : ∀ b, (g b).access = b.access) (hg' : ∀ b, (g' b).access = b.access)
    (ho : s.Ownership) (hp : Paced id n s) :
    PacedRun id n outs
      (finalState (mapMachine (fun s => { s with buffers := s.buffers.modify buf g' }) r)) := by
  have hr := h (ho.modifyBuffer buf hg) (hp.follow (Follows.of_flags rfl rfl rfl))
  rw [finalState_mapMachine]
  exact hr.follow (hr.1.modifyBuffer buf hg') (Follows.of_flags rfl rfl rfl)

/-- A read whose checks hand nothing out keeps the rules and every transfer's pace. -/
theorem PacedRun.peek_none {α : Type} {id' : Nat} (f : Array UInt32 → Half → Act α)
    (hn : ∀ h data start s₁, (takeHalf id').run s ≠ .ok (.ok (h, data, start)) s₁)
    (ho : s.Ownership) (hp : Paced id n s) :
    PacedRun id n [] (finalState ((peek id' f).run s)) := by
  rw [finalState_peek_of_none f hn]
  refine .nil (keeps_takeHalf id' s ho) (hp.follow ?_)
  by_cases hne : id' = id
  · -- the transfer's own checks only read and count
    subst hne
    rcases takeHalf_of_none hn with he | ⟨r, he⟩ <;> rw [he]
    · exact Follows.refl s
    · exact Follows.recorded s r
  · exact follows_takeHalf_of_ne id ho hne

end Stream

namespace Buffer

variable {α : Type} {id : Nat} {f : Array UInt32 → Act α} {s : Machine}

/-- A refused shared borrow breaks off where it began. -/
theorem finalState_borrow_refused (h : ∀ b, s.buffers[id]? = some b → b.writing = true) :
    finalState ((borrow id f).run s) = s := by
  rw [run_borrow]
  cases hb : s.buffers[id]? with
  | none => rfl
  | some b =>
    dsimp only
    rw [if_pos (h b hb)]
    rfl

/-- A refused exclusive borrow breaks off where it began. -/
theorem finalState_borrowMut_refused (h : ∀ b, s.buffers[id]? = some b → b.canWrite = false) :
    finalState ((borrowMut id f).run s) = s := by
  rw [run_borrowMut]
  cases hb : s.buffers[id]? with
  | none => rfl
  | some b =>
    dsimp only
    rw [if_pos (by rw [h b hb]; rfl)]
    rfl

end Buffer

/-- Along every run a record describes, each circular transfer keeps its pace: from pace
`n`, the run hands the transfer's readers the alternating halves from `half n` on, and
leaves the transfer at the pace of all of them, with the ownership rules. The induction
follows the record; a read of the transfer itself moves the pace on by one before its
callback runs, everything else follows the transfer. -/
theorem Handed.paced {α : Type} {x : Act α} {s : Machine} {outs : List (Nat × Half)}
    {r : EStateM.Result Fault Machine α} (hx : Handed x s outs r) (id : Nat) :
    ∀ {n : Nat}, s.Ownership → Stream.Paced id n s → Stream.PacedRun id n outs (finalState r) := by
  induction hx with
  | pure a s => exact fun ho hp => .nil ho hp
  | get s => exact fun ho hp => .nil ho hp
  | throw e s => exact fun ho hp => .nil ho hp
  | bind _ _ ih₁ ih₂ => exact fun ho hp => (ih₁ ho hp).seq ih₂
  | bind_error _ ih => exact ih
  | tryCatch_ok _ ih => exact ih
  | tryCatch_error _ _ ih₁ ih₂ => exact fun ho hp => (ih₁ ho hp).seq ih₂
  | leaf hx s =>
    intro n ho hp
    obtain ⟨ho', hp'⟩ := Leaf.keeps_of_follows id (P := Stream.Paced id n)
      (fun h hf => h.follow hf) (fun id' _ ho h => h.stop ho id') hx s ⟨ho, hp⟩
    exact .nil ho' hp'
  | borrow_refused id' f h =>
    intro n ho hp
    rw [Buffer.finalState_borrow_refused h]
    exact .nil ho hp
  | borrow hb hw _ ih =>
    exact fun ho hp => Stream.PacedRun.between_marks ih (fun _ => rfl) (fun _ => rfl) ho hp
  | borrowMut_refused id' f h =>
    intro n ho hp
    rw [Buffer.finalState_borrowMut_refused h]
    exact .nil ho hp
  | borrowMut hb hw _ ih =>
    exact fun ho hp => Stream.PacedRun.between_marks ih (fun _ => rfl) (fun _ => rfl) ho hp
  | peek_none f hn => exact fun ho hp => Stream.PacedRun.peek_none f hn ho hp
  | @peek _ id' f s s₁ x data start outs r ht _ ih =>
    intro n ho hp
    have ho₁ : s₁.Ownership := by
      have h := keeps_takeHalf id' s ho
      rwa [ht] at h
    by_cases hne : id' = id
    · subst hne
      obtain ⟨rfl, hp₁⟩ := hp.takeHalf ht
      exact ((ih ho₁ hp₁).afterCallback id' _ start).cons_self
    · have hf := Stream.follows_takeHalf_of_ne id ho hne
      rw [ht] at hf
      exact ((ih ho₁ (hp.follow hf)).afterCallback id' x start).cons_of_ne hne x

namespace Handed

variable {α β : Type} {s s₁ : Machine} {outs outs₂ : List (Nat × Half)}

/-- A record of a sequence, from the records of its two parts' runs. -/
theorem bind_run {x : Act α} {k : α → Act β} {a : α} (hx : Handed x s outs (x.run s))
    (hrun : x.run s = .ok a s₁) (hk : Handed (k a) s₁ outs₂ ((k a).run s₁)) :
    Handed (x >>= k) s (outs ++ outs₂) ((x >>= k).run s) := by
  rw [hrun] at hx
  rw [EStateM.run_bind, hrun]
  exact .bind hx hk

/-- A record of a sequence whose first part breaks off. -/
theorem bind_run_error {x : Act α} {k : α → Act β} {e : Fault} (hx : Handed x s outs (x.run s))
    (hrun : x.run s = .error e s₁) : Handed (x >>= k) s outs ((x >>= k).run s) := by
  rw [hrun] at hx
  rw [EStateM.run_bind, hrun]
  exact .bind_error hx

/-- A record of a read that hands out a half, from the record of its callback's run. -/
theorem peek_run {id : Nat} {f : Array UInt32 → Half → Act α} {h : Half} {data : Array UInt32}
    {start : Option Nat} (ht : (Stream.takeHalf id).run s = .ok (.ok (h, data, start)) s₁)
    (hf : Handed (f data h) s₁ outs ((f data h).run s₁)) :
    Handed (Stream.peek id f) s ((id, h) :: outs) ((Stream.peek id f).run s) := by
  rw [Stream.run_peek_of_handsOut ht]
  exact .peek ht hf

end Handed

namespace Client

/-- Every run of a client program has a record of the halves it hands out. -/
theorem handed {α : Type} {x : Act α} (hx : Client x) (s : Machine) :
    ∃ outs, Handed x s outs (x.run s) := by
  induction hx generalizing s with
  | pure a => exact ⟨[], .pure a s⟩
  | get => exact ⟨[], .get s⟩
  | throw e => exact ⟨[], .throw e s⟩
  | @bind α β x k _ _ ihx ihk =>
    obtain ⟨outs₁, h₁⟩ := ihx s
    cases hr : x.run s with
    | ok a s₁ =>
      obtain ⟨outs₂, h₂⟩ := ihk a s₁
      exact ⟨outs₁ ++ outs₂, h₁.bind_run hr h₂⟩
    | error e s₁ => exact ⟨outs₁, h₁.bind_run_error hr⟩
  | @tryCatch α x handle _ _ ihx ihh =>
    obtain ⟨outs₁, h₁⟩ := ihx s
    rw [run_tryCatch]
    cases hr : x.run s with
    | ok a s₁ =>
      rw [hr] at h₁
      exact ⟨outs₁, .tryCatch_ok h₁⟩
    | error e s₁ =>
      rw [hr] at h₁
      obtain ⟨outs₂, h₂⟩ := ihh e s₁
      exact ⟨outs₁ ++ outs₂, .tryCatch_error h₁ h₂⟩
  | @borrow α id f _ ih =>
    cases hb : s.buffers[id]? with
    | none => exact ⟨[], .borrow_refused id f fun b h => by rw [hb] at h; cases h⟩
    | some b =>
      cases hw : b.writing
      case true => exact ⟨[], .borrow_refused id f fun b' h => by rw [hb] at h; cases h; exact hw⟩
      obtain ⟨outs, h⟩ := ih b.items
        { s with buffers := s.buffers.modify id fun b => { b with readers := b.readers + 1 } }
      refine ⟨outs, ?_⟩
      -- the run is the callback's, between the borrow's marks
      have hrun : (Buffer.borrow id f).run s = mapMachine (fun s => { s with
          buffers := s.buffers.modify id fun b => { b with readers := b.readers - 1 } })
          ((f b.items).run
            { s with buffers := s.buffers.modify id fun b => { b with readers := b.readers + 1 } }) := by
        rw [Buffer.run_borrow, hb]
        simp only [hw, Bool.false_eq_true, if_false]
        cases (f b.items).run _ <;> rfl
      rw [hrun]
      exact .borrow hb hw h
  | @borrowMut α id f _ ih =>
    cases hb : s.buffers[id]? with
    | none => exact ⟨[], .borrowMut_refused id f fun b h => by rw [hb] at h; cases h⟩
    | some b =>
      cases hw : b.canWrite
      case false =>
        exact ⟨[], .borrowMut_refused id f fun b' h => by rw [hb] at h; cases h; exact hw⟩
      obtain ⟨outs, h⟩ := ih b.items
        { s with buffers := s.buffers.modify id fun b => { b with writing := true } }
      refine ⟨outs, ?_⟩
      have hrun : (Buffer.borrowMut id f).run s = mapMachine (fun s => { s with
          buffers := s.buffers.modify id fun b => { b with writing := false } })
          ((f b.items).run { s with buffers := s.buffers.modify id fun b => { b with writing := true } }) := by
        rw [Buffer.run_borrowMut, hb]
        simp only [hw, Bool.not_true, Bool.false_eq_true, if_false]
        cases (f b.items).run _ <;> rfl
      rw [hrun]
      exact .borrowMut hb hw h
  | @peek α id f _ ih =>
    -- a read breaks off or refuses before its callback, or hands a half out
    rcases Stream.takeHalf_cases id s with ⟨e, he⟩ | ⟨r, he⟩ | ⟨t, r, h, start, -, -, -, -, ht⟩
    · exact ⟨[], .peek_none f fun _ _ _ _ h => by rw [he] at h; cases h⟩
    · exact ⟨[], .peek_none f fun _ _ _ _ h => by rw [he] at h; cases h⟩
    · obtain ⟨outs, hf⟩ := ih _ h _
      exact ⟨(id, h) :: outs, .peek_run ht hf⟩
  -- every other client program calls nothing back
  | configure l p => exact ⟨[], .leaf (.silent (.configure l p)) s⟩
  | listen l e => exact ⟨[], .leaf (.listen l e) s⟩
  | unlisten l e => exact ⟨[], .leaf (.unlisten l e) s⟩
  | inUse l => exact ⟨[], .leaf (.silent (.inUse l)) s⟩
  | laneRemaining l => exact ⟨[], .leaf (.silent (.laneRemaining l)) s⟩
  | newBuffer w items => exact ⟨[], .leaf (.silent (.newBuffer w items)) s⟩
  | newRing w items => exact ⟨[], .leaf (.silent (.newRing w items)) s⟩
  | newPeripheral p => exact ⟨[], .leaf (.silent (.newPeripheral p)) s⟩
  | startTransfer dir l buf periph => exact ⟨[], .leaf (.startTransfer dir l buf periph) s⟩
  | isDone id => exact ⟨[], .leaf (.silent (.isDone id)) s⟩
  | poll id => exact ⟨[], .leaf (.silent (.poll id)) s⟩
  | transferRemaining id => exact ⟨[], .leaf (.silent (.transferRemaining id)) s⟩
  | wait id => exact ⟨[], .leaf (.wait id) s⟩
  | startStream l ring periph => exact ⟨[], .leaf (.startStream l ring periph) s⟩
  | configureStream id maxRead => exact ⟨[], .leaf (.silent (.configureStream id maxRead)) s⟩
  | pause id => exact ⟨[], .leaf (.silent (.pause id)) s⟩
  | resume id => exact ⟨[], .leaf (.silent (.resume id)) s⟩
  | streamRemaining id => exact ⟨[], .leaf (.silent (.streamRemaining id)) s⟩
  | stop id => exact ⟨[], .leaf (.silent (.stop id)) s⟩
  | raise l e => exact ⟨[], .leaf (.silent (.raise l e)) s⟩
  | after polls l e => exact ⟨[], .leaf (.silent (.after polls l e)) s⟩
  | status l => exact ⟨[], .leaf (.silent (.status l)) s⟩
  | fillBuffer id offset data => exact ⟨[], .leaf (.silent (.fillBuffer id offset data)) s⟩
  | fillRing id offset data => exact ⟨[], .leaf (.silent (.fillRing id offset data)) s⟩
  | sleep us => exact ⟨[], .leaf (.silent (.sleep us)) s⟩

end Client

/-- Counted from its start, a circular transfer's readers are handed the first half, the
second, the first, …, in the order their callbacks are called, by every run of every client
program, whatever events fall due and however callbacks nest or break off. A read that calls
nothing back leaves every ring as it was. -/
theorem halves_alternate_from_start :
    (∀ (l : Lane) (ring periph id : Nat) (s s' : Machine),
      (Stream.start l ring periph).run s = .ok (.ok id) s' → Stream.Paced id 0 s') ∧
    (∀ {α : Type} (x : Act α), Client x → ∀ (s : Machine) (id n : Nat), s.Ownership →
      Stream.Paced id n s →
      (∃ outs, Handed x s outs (x.run s)) ∧
      ∀ outs, Handed x s outs (x.run s) →
        Stream.handedTo id outs = Reader.halves n (Stream.handedTo id outs).length ∧
        ∃ t, (finalState (x.run s)).streams[id]? = some t ∧ (t.stopped = true ∨
          ∃ r, (finalState (x.run s)).rings[t.ring]? = some r ∧
            r.phase = if (n + (Stream.handedTo id outs).length) % 2 = 0 then .fillingFirst
              else .fillingSecond)) ∧
    (∀ {α : Type} (f : Array UInt32 → Half → Act α) (id : Nat) (s : Machine),
      (∀ h data start s₁, (Stream.takeHalf id).run s ≠ .ok (.ok (h, data, start)) s₁) →
      (finalState ((Stream.peek id f).run s)).rings = s.rings) ∧
    (∀ (id : Nat) (s s' : Machine) (h : Half) (data : Array UInt32) (start : Option Nat),
      (Stream.takeHalf id).run s = .ok (.ok (h, data, start)) s' →
      ∃ t r, s.streams[id]? = some t ∧ s.rings[t.ring]? = some r ∧
        (r.Shaped → data = match h with
          | .first => r.items.extract 0 r.halfLength
          | .second => r.items.extract r.halfLength (2 * r.halfLength))) := by
  refine ⟨fun l ring periph id s s' h => Stream.paced_start h, ?_,
    fun f id s hn => Stream.rings_peek_of_none f hn, ?_⟩
  · intro α x hx s id n ho hp
    refine ⟨hx.handed s, fun outs h => ?_⟩
    obtain ⟨-, hl, t, ht, hrun⟩ := h.paced id ho hp
    rw [← Reader.filling_half]
    exact ⟨hl, t, ht, hrun⟩
  · intro id s s' h data start ht
    obtain ⟨t, r, hs, -, hr, -, rfl, -⟩ := Stream.takeHalf_handsOut ht
    exact ⟨t, r, hs, hr, fun hshape => hshape.half_eq h⟩

/-- A read whose callback has the engine fill the second half on lane `l` and reads the same
transfer again. -/
def nestedReads (l : Lane) : Act (Stream.Outcome (Stream.Outcome Unit)) :=
  Stream.peek 0 fun _ _ =>
    Machine.modifyBank (·.raise l .complete) >>= fun _ =>
      Stream.peek 0 fun _ _ => (pure () : Act Unit)

/-- With the ring on lane 5, the outer callback is handed the first half, items `1, 2`, the
nested one the second, and the ring then fills its first half again; a read before the engine
raised anything calls nothing back and leaves the rings. -/
theorem nested_reads_first_then_second :
    Handed (nestedReads ⟨4⟩) (ringHalfFilled ⟨4⟩) [(0, .first), (0, .second)]
      ((nestedReads ⟨4⟩).run (ringHalfFilled ⟨4⟩)) ∧
    Stream.handedTo 0 [(0, .first), (0, .second)] = Reader.halves 0 2 ∧
    (∃ t, (finalState ((nestedReads ⟨4⟩).run (ringHalfFilled ⟨4⟩))).streams[0]? = some t ∧
      (t.stopped = true ∨
        ∃ r, (finalState ((nestedReads ⟨4⟩).run (ringHalfFilled ⟨4⟩))).rings[t.ring]? = some r ∧
          r.phase = .fillingFirst)) ∧
    (finalState ((Stream.peek 0 fun _ _ => (pure () : Act Unit)).run (ringStarted ⟨4⟩))).rings =
      (ringStarted ⟨4⟩).rings ∧
    ∃ t r, (ringHalfFilled ⟨4⟩).streams[0]? = some t ∧
      (ringHalfFilled ⟨4⟩).rings[t.ring]? = some r ∧
      (r.Shaped → #[1, 2] = r.items.extract 0 r.halfLength) := by
  have hown : (ringHalfFilled ⟨4⟩).Ownership :=
    Client.keeps_ownership (.raise _ _) _ (ownership_ringStarted ⟨4⟩)
  obtain ⟨hstart, hrun, hnone, hslice⟩ := halves_alternate_from_start
  have hpaced : Stream.Paced 0 0 (ringHalfFilled ⟨4⟩) :=
    (hstart ⟨4⟩ 0 0 0 ringParts (ringStarted ⟨4⟩) rfl).follow
      (Stream.Follows.of_rises rfl rfl fun t _ _ => Bank.rises_raise t.lane _ _ _)
  -- the record of the run: the outer read hands out a half, then the nested one
  have hrec : Handed (nestedReads ⟨4⟩) (ringHalfFilled ⟨4⟩) [(0, .first), (0, .second)]
      ((nestedReads ⟨4⟩).run (ringHalfFilled ⟨4⟩)) := by
    show Handed _ _ ((0, .first) :: ([] ++ [(0, .second)])) _
    exact .peek_run rfl (.bind_run (.leaf (.silent (.raise _ _)) _) rfl (.peek_run rfl (.pure () _)))
  have hclient : Client (nestedReads ⟨4⟩) :=
    .peek _ fun _ _ => .bind (.raise _ _) fun _ => .peek _ fun _ _ => .pure _
  obtain ⟨hl, t, ht, hend⟩ :=
    (hrun (nestedReads ⟨4⟩) hclient (ringHalfFilled ⟨4⟩) 0 0 hown hpaced).2 _ hrec
  refine ⟨hrec, hl, ⟨t, ht, hend⟩, hnone _ 0 (ringStarted ⟨4⟩) fun _ _ _ _ he => ?_, ?_⟩
  · have hblock : (Stream.takeHalf 0).run (ringStarted ⟨4⟩) =
        .ok (.error .wouldBlock) ((ringStarted ⟨4⟩).afterRead.recorded .wouldBlock) := rfl
    rw [hblock] at he
    cases he
  · exact hslice 0 _ _ .first #[1, 2] none rfl

end DmaOwnership
