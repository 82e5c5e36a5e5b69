import DmaOwnership.Proofs.Spec.Stream
import DmaOwnership.Proofs.Bank.Frame
/-!
# A circular transfer read as an abstract reader

The engine fills a ring's halves in turn and raises half-transfer or transfer-complete on the
lane for each; a reader takes the halves in the same turn. Abstractly only `c`, the halves
filled, and `r`, the halves handed out, matter: a read finds a half ready when `c = r + 1`,
nothing when `c = r`, and an overrun when the engine is two halves ahead.
`Reader.Tracks id l g c r s` ties the machine to those counts through the lane's flags and the
ring's phase. It holds at zero after a start (`start_tracks`), and a read that finds it at
`(c, r)` behaves as the abstract reader there (`peek_of_tracks`).
-/

namespace DmaOwnership

namespace LaneStatus

/-- A word has a single-bit mask's bit exactly when the word and the mask have a bit in
common. -/
theorem and_ne_zero_of_single {w m : UInt32} {j : Nat}
    (hm : ∀ k, m.toBitVec.getLsbD k = decide (k = j)) :
    (w &&& m != 0) = w.toBitVec.getLsbD j := by
  rw [Bool.eq_iff_iff, bne_iff_ne, ne_eq]
  constructor
  · intro h
    cases hb : w.toBitVec.getLsbD j with
    | true => rfl
    | false =>
      exfalso
      apply h
      apply UInt32.toBitVec_inj.mp
      apply BitVec.eq_of_getLsbD_eq
      intro k _
      simp only [UInt32.toBitVec_and, BitVec.getLsbD_and, hm, UInt32.toBitVec_zero,
        BitVec.getLsbD_zero]
      by_cases hkj : k = j
      · subst hkj; simp [hb]
      · simp [hkj]
  · intro hb heq
    have := congrArg (fun x : UInt32 => x.toBitVec.getLsbD j) heq
    simp [BitVec.getLsbD_and, hm, hb] at this

/-- A lane's flags in a status word are its bits `4i + 3`, `4i + 2` and `4i + 1`. -/
theorem ofWord_eq (l : Lane) (w : UInt32) :
    ofWord l w = ⟨w.toBitVec.getLsbD (4 * l.index.val + 3),
      w.toBitVec.getLsbD (4 * l.index.val + 2), w.toBitVec.getLsbD (4 * l.index.val + 1)⟩ := by
  simp only [ofWord, and_ne_zero_of_single (Lane.errorFlag_getLsbD l),
    and_ne_zero_of_single (Lane.halfFlag_getLsbD l),
    and_ne_zero_of_single (Lane.completeFlag_getLsbD l)]

/-- Raising half-transfer on a lane sets its half flag and leaves its error and complete
flags. -/
theorem ofWord_raise_half (b : Bank) (l : Lane) :
    ofWord l (b.raise l .half).flags = { ofWord l b.flags with half := true } := by
  have hf : (b.raise l .half).flags = b.flags ||| l.globalFlag ||| l.halfFlag := rfl
  simp only [hf, ofWord_eq, UInt32.toBitVec_or, BitVec.getLsbD_or, Lane.globalFlag_getLsbD,
    Lane.halfFlag_getLsbD]
  simp

/-- Raising transfer-complete on a lane sets its complete flag and leaves its error and
half flags. -/
theorem ofWord_raise_complete (b : Bank) (l : Lane) :
    ofWord l (b.raise l .complete).flags = { ofWord l b.flags with complete := true } := by
  have hf : (b.raise l .complete).flags = b.flags ||| l.globalFlag ||| l.completeFlag := rfl
  simp only [hf, ofWord_eq, UInt32.toBitVec_or, BitVec.getLsbD_or, Lane.globalFlag_getLsbD,
    Lane.completeFlag_getLsbD]
  simp

/-- Clearing the flag the engine raises for half `h` takes that flag down and leaves the
lane's other flags. -/
theorem ofWord_clear_filledFlag (b : Bank) (l : Lane) (h : Half) :
    (ofWord l (b.clear (l.filledFlag h)).flags).error = (ofWord l b.flags).error ∧
      (ofWord l (b.clear (l.filledFlag h)).flags).filled h = false ∧
      (ofWord l (b.clear (l.filledFlag h)).flags).filled h.other =
        (ofWord l b.flags).filled h.other := by
  cases h <;>
    simp [Lane.filledFlag, filled, Half.other, ofWord_eq, Bank.clear_flags_getLsbD,
      Bank.clearedBy_halfFlag, Bank.clearedBy_completeFlag]

/-- Raising an event on one lane leaves the flags of every other lane. -/
theorem ofWord_raise_of_ne (b : Bank) {l m : Lane} (hm : m ≠ l) (e : Event) :
    ofWord l (b.raise m e).flags = ofWord l b.flags := by
  have hi : m.index.val ≠ l.index.val := by
    intro heq
    apply hm
    obtain ⟨⟨a, ha⟩⟩ := m
    obtain ⟨⟨c, hc⟩⟩ := l
    simp only at heq
    subst heq
    rfl
  have h := (Bank.agreeOff_raise b m e).flag_eq
  rw [ofWord_eq, ofWord_eq, h _ (by omega), h _ (by omega), h _ (by omega)]

/-- A lane whose four flags were cleared shows no flag. -/
theorem ofWord_clear_flags (b : Bank) (l : Lane) :
    ofWord l (b.clear l.flags).flags = ⟨false, false, false⟩ := by
  simp only [ofWord_eq, Bank.clear_flags_getLsbD, Bank.clearedBy_flags]
  have h3 : (4 * l.index.val + 3) / 4 = l.index.val := by omega
  have h2 : (4 * l.index.val + 2) / 4 = l.index.val := by omega
  have h1 : (4 * l.index.val + 1) / 4 = l.index.val := by omega
  simp [h1, h2, h3]

end LaneStatus

namespace Bank

/-- An event whose code names none raises nothing. -/
theorem raise_of_name?_eq_none (b : Bank) (l : Lane) {e : Event} (he : e.name? = none) :
    b.raise l e = b := by
  unfold Event.name? at he
  split at he
  · cases he
  split at he
  · cases he
  split at he
  · cases he
  rename_i hh hc herr
  unfold raise
  simp only [hc, hh, herr, if_false]

/-- Programming a lane clears its four flags and changes no other flag. -/
theorem flags_program (b : Bank) (l : Lane) (p : UInt64) (m : MemRef) (n w : UInt32) :
    (b.program l p m n w).flags = (b.clear l.flags).flags := by
  simp only [program, setCount]
  split <;> rfl

end Bank

/-! ## The abstract reader -/

namespace Reader

/-- The half a reader that has been handed `r` halves reads next: the first for even
`r`. -/
def half (r : Nat) : Half := if r % 2 = 0 then .first else .second

/-- The event the engine raises when it has filled `c` halves and fills one more:
half-transfer for the first half of a round, transfer-complete for the second. -/
def event (c : Nat) : Event := if c % 2 = 0 then .half else .complete

theorem half_succ (r : Nat) : half (r + 1) = (half r).other := by
  unfold half
  by_cases h : r % 2 = 0
  · have : (r + 1) % 2 ≠ 0 := by omega
    simp [h, this, Half.other]
  · have : (r + 1) % 2 = 0 := by omega
    simp [h, this, Half.other]

theorem half_eq_half_iff (a b : Nat) : half a = half b ↔ a % 2 = b % 2 := by
  unfold half
  by_cases ha : a % 2 = 0 <;> by_cases hb : b % 2 = 0 <;> simp [ha, hb] <;> omega

theorem other_half_eq_half_iff (a b : Nat) : (half a).other = half b ↔ a % 2 ≠ b % 2 := by
  rw [← half_succ, half_eq_half_iff]
  omega

/-- The flags of lane `l` in bank `b` are those an abstract reader calls for that has
been handed `r` halves while the engine has filled `c`: the flag of the reader's half is up
once the engine has filled it, the flag of the half after it once the engine has filled
that one too, and the error flag is down. -/
structure FlagsAt (l : Lane) (c r : Nat) (b : Bank) : Prop where
  /-- The reader is never handed a half the engine has not filled. -/
  taken_le : r ≤ c
  /-- No error. -/
  error : (LaneStatus.ofWord l b.flags).error = false
  /-- The reader's half is flagged once the engine has filled it. -/
  ready : (LaneStatus.ofWord l b.flags).filled (half r) = decide (r + 1 ≤ c)
  /-- The half after it is flagged once the engine has filled that one too. -/
  lapped : (LaneStatus.ofWord l b.flags).filled (half r).other = decide (r + 2 ≤ c)

/-- The circular transfer `id`, on lane `l` and ring `g`, is where an abstract reader stands
that has been handed `r` halves while the engine has filled `c`: the transfer runs with no
limit on how long a half is held, the engine fills the half the reader waits for, and the
lane's flags are those the counts call for. -/
structure Tracks (id : Nat) (l : Lane) (g : Nat) (c r : Nat) (s : Machine) : Prop where
  /-- The transfer is running on the lane and the ring, with no limit on holding a half. -/
  stream : ∃ t, s.streams[id]? = some t ∧ t.lane = l ∧ t.ring = g ∧ t.stopped = false ∧
    t.maxRead ≤ 0
  /-- The engine fills the half the reader waits for. -/
  ring : ∃ ring, s.rings[g]? = some ring ∧ ring.phase = (half r).filling
  /-- The lane's flags are those the counts call for. -/
  flags : FlagsAt l c r s.bank

theorem error_raise_event (b : Bank) (l : Lane) (c : Nat) :
    (LaneStatus.ofWord l (b.raise l (event c)).flags).error =
      (LaneStatus.ofWord l b.flags).error := by
  unfold event
  split <;> simp only [LaneStatus.ofWord_raise_half, LaneStatus.ofWord_raise_complete]

/-- The engine's next event raises the flag of the half it has just filled. -/
theorem filled_raise_event (b : Bank) (l : Lane) (c : Nat) (h : Half) :
    (LaneStatus.ofWord l (b.raise l (event c)).flags).filled h =
      ((LaneStatus.ofWord l b.flags).filled h || decide (h = half c)) := by
  unfold event half
  by_cases hc : c % 2 = 0 <;> cases h <;>
    simp [hc, LaneStatus.ofWord_raise_half, LaneStatus.ofWord_raise_complete, LaneStatus.filled]

/-- The next `j` events of an engine that has filled `c` halves. -/
def nextEvents (c : Nat) : Nat → List Event
  | 0 => []
  | j + 1 => event c :: nextEvents (c + 1) j

/-- The events of `due` that fall on lane `l` and have a name, in order: those that raise a flag
of the lane. -/
def eventsOn (l : Lane) (due : List Scheduled) : List Event :=
  ((due.filter fun x => x.lane = l).map (·.event)).filter fun e => e.name?.isSome

namespace FlagsAt

variable {c r : Nat} {l : Lane} {b : Bank}

/-- The engine filling its next half on the lane advances the count of filled halves by
one. -/
theorem raise_next (h : FlagsAt l c r b) : FlagsAt l (c + 1) r (b.raise l (event c)) where
  taken_le := Nat.le_succ_of_le h.taken_le
  error := by rw [error_raise_event, h.error]
  ready := by
    have hle := h.taken_le
    rw [filled_raise_event, h.ready, Bool.eq_iff_iff]
    simp only [Bool.or_eq_true, decide_eq_true_eq, half_eq_half_iff]
    omega
  lapped := by
    have hle := h.taken_le
    rw [filled_raise_event, h.lapped, Bool.eq_iff_iff]
    simp only [Bool.or_eq_true, decide_eq_true_eq, other_half_eq_half_iff]
    omega

/-- Events of other lanes leave the reader where it is. -/
theorem raise_of_ne (h : FlagsAt l c r b) {m : Lane} (hm : m ≠ l) (e : Event) :
    FlagsAt l c r (b.raise m e) := by
  have hw := LaneStatus.ofWord_raise_of_ne b hm e
  exact ⟨h.taken_le, hw ▸ h.error, hw ▸ h.ready, hw ▸ h.lapped⟩

/-- The events falling due at a read, in schedule order, move the reader on by as many
halves as they fill on its lane, when those are the engine's next events. -/
theorem foldl_raise (due : List Scheduled) {j : Nat} (h : FlagsAt l c r b)
    (hdue : eventsOn l due = nextEvents c j) :
    FlagsAt l (c + j) r (due.foldl (fun acc x => acc.raise x.lane x.event) b) := by
  induction due generalizing b c j with
  | nil =>
    cases j with
    | zero => exact h
    | succ j => simp [eventsOn, nextEvents] at hdue
  | cons x rest ih =>
    rw [List.foldl_cons]
    by_cases hx : x.lane = l
    · by_cases hn : x.event.name?.isSome = true
      · -- an event of the lane with a name: the engine's next one
        cases j with
        | zero => simp [eventsOn, nextEvents, hx, hn] at hdue
        | succ j =>
          simp only [eventsOn, List.filter_cons, hx, decide_true, if_true, List.map_cons, hn,
            nextEvents, List.cons.injEq] at hdue
          rw [Nat.add_succ, ← Nat.succ_add, hx, hdue.1]
          exact ih h.raise_next hdue.2
      · -- an event without a name raises nothing
        simp only [eventsOn, List.filter_cons, hx, decide_true, if_true, List.map_cons, hn,
          Bool.false_eq_true, if_false] at hdue
        rw [Bank.raise_of_name?_eq_none b x.lane (Option.not_isSome_iff_eq_none.mp hn)]
        exact ih h hdue
    · simp only [eventsOn, List.filter_cons, hx, decide_false, Bool.false_eq_true, if_false] at hdue
      exact ih (h.raise_of_ne hx _) hdue

/-- A read at which the lane's events falling due are the engine's next `j` moves the
reader on by `j` halves. -/
theorem status (h : FlagsAt l c r b) {j : Nat} (hdue : eventsOn l b.fallingDue = nextEvents c j) :
    FlagsAt l (c + j) r b.status.2 := by
  rw [Bank.status_snd]
  exact foldl_raise _ ⟨h.taken_le, h.error, h.ready, h.lapped⟩ hdue

end FlagsAt

namespace Tracks

variable {id g c r : Nat} {l : Lane} {s : Machine}

/-- The engine filling its next half advances the count of filled halves by one. -/
theorem raise_next (h : Tracks id l g c r s) :
    Tracks id l g (c + 1) r { s with bank := s.bank.raise l (event c) } :=
  ⟨h.stream, h.ring, h.flags.raise_next⟩

/-- A status read, at which the events of the lane that fall due are the engine's next `j`,
moves the reader on by `j` halves. -/
theorem read (h : Tracks id l g c r s) {j : Nat}
    (hdue : eventsOn l s.bank.fallingDue = nextEvents c j) :
    Tracks id l g (c + j) r s.afterRead :=
  ⟨h.stream, h.ring, h.flags.status hdue⟩

end Tracks

/-- A circular transfer that has just started is where a reader stands that has been
handed nothing while the engine has filled nothing. -/
theorem start_tracks {l : Lane} {g p id : Nat} {s s' : Machine}
    (h : (Stream.start l g p).run s = .ok (.ok id) s') : Tracks id l g 0 0 s' := by
  rw [Stream.run_start] at h
  by_cases hu : s.inUse l
  · simp [hu] at h
  simp only [hu, Bool.false_eq_true, if_false] at h
  cases hr : s.rings[g]? with
  | none => simp [hr] at h
  | some ring =>
    simp only [hr] at h
    by_cases hl : ring.items.size > maxCount
    · simp [hl] at h
    by_cases hp : ring.phase = .free
    case neg => simp [hl, hp] at h
    cases hq : s.peripherals[p]? with
    | none => simp [hl, hp, hq] at h
    | some q =>
      simp only [hl, hp, hq, ne_eq, not_true_eq_false, if_false, EStateM.Result.ok.injEq,
        Except.ok.injEq] at h
      obtain ⟨rfl, rfl⟩ := h
      -- programming clears the lane's flags; enabling it writes a register, not a flag
      have hflags : ∀ w v : UInt32, LaneStatus.ofWord l ((s.bank.program l q.address (.ring g)
          ring.items.size.toUInt32 w).setControl l v).flags = ⟨false, false, false⟩ := by
        intro w v
        show LaneStatus.ofWord l (s.bank.program l _ _ _ w).flags = _
        rw [Bank.flags_program, LaneStatus.ofWord_clear_flags]
      exact {
        stream := ⟨_, Array.getElem?_push_size, rfl, rfl, rfl, Int.le_refl 0⟩
        ring := ⟨{ ring with phase := .fillingFirst }, by simp [Array.getElem?_modify, hr], rfl⟩
        flags := ⟨Nat.le_refl 0, by rw [hflags], by rw [hflags]; rfl, by rw [hflags]; rfl⟩ }

/-- The machine in which a read hands the reader's half `half r` of ring `g` out: the flag
of that half cleared and the ring moved on to the other half. -/
def handOut (s : Machine) (l : Lane) (g r : Nat) : Machine :=
  { s with
    bank := s.bank.clear (l.filledFlag (half r))
    rings := s.rings.modify g fun ring => { ring with phase := (half (r + 1)).filling } }

namespace Tracks

variable {id g c r : Nat} {l : Lane} {s : Machine}

/-- Counting a read or a refusal moves no reader. -/
theorem counters (h : Tracks id l g c r s) (k : Counters) :
    Tracks id l g c r { s with counters := k } :=
  ⟨h.stream, h.ring, h.flags⟩

/-- Handing out the half the engine has just filled, and nothing more, leaves the reader
one half further and waiting again. -/
theorem handOut (h : Tracks id l g (r + 1) r s) :
    Tracks id l g (r + 1) (r + 1) (Reader.handOut s l g r) where
  stream := h.stream
  ring := by
    obtain ⟨ring, hr, -⟩ := h.ring
    exact ⟨{ ring with phase := (half (r + 1)).filling },
      by simp [Reader.handOut, Array.getElem?_modify, hr], rfl⟩
  flags := by
    obtain ⟨he, hf, ho⟩ := LaneStatus.ofWord_clear_filledFlag s.bank l (half r)
    refine ⟨Nat.le_refl _, he.trans h.flags.error, ?_, ?_⟩
    · show (LaneStatus.ofWord l (s.bank.clear (l.filledFlag (half r))).flags).filled
        (half (r + 1)) = _
      rw [half_succ, ho, h.flags.lapped]
    · show (LaneStatus.ofWord l (s.bank.clear (l.filledFlag (half r))).flags).filled
        (half (r + 1)).other = _
      rw [half_succ, Half.other_other, hf]
      simp

end Tracks

variable {id g c r : Nat} {l : Lane} {s : Machine}

/-- The checks of a read, at a first status read that finds the reader at `(c, r)`: an
overrun when the engine has filled two halves or more beyond the reader, nothing when it
has filled none, and else the reader's half, with no time taken. -/
theorem run_takeHalf_of_tracks (hs : Tracks id l g c r s.afterRead) :
    ∃ ring, s.rings[g]? = some ring ∧ (Stream.takeHalf id).run s =
      if r + 2 ≤ c then .ok (.error .overrun) (s.afterRead.recorded .overrun)
      else if c = r then .ok (.error .wouldBlock) (s.afterRead.recorded .wouldBlock)
      else .ok (.ok (half r, ring.half (half r), none)) (handOut s.afterRead l g r) := by
  obtain ⟨t, ht, rfl, rfl, hst, hmax⟩ := hs.stream
  obtain ⟨ring, hr, hp⟩ := hs.ring
  refine ⟨ring, hr, ?_⟩
  -- the lookups see the machine before the read, which has the same transfers and rings
  have ht' : s.streams[id]? = some t := ht
  have hr' : s.rings[t.ring]? = some ring := hr
  have hw : LaneStatus.ofWord t.lane s.bank.status.1 =
      LaneStatus.ofWord t.lane s.afterRead.bank.flags := rfl
  have hmax' : ¬ 0 < t.maxRead := Int.not_lt.mpr hmax
  have hle := hs.flags.taken_le
  rw [Stream.run_takeHalf]
  simp only [ht', hst, hr', hp, Half.waiting_filling, hw, hs.flags.error, hs.flags.lapped,
    hs.flags.ready, hmax', Bool.false_eq_true, if_false]
  by_cases hc2 : r + 2 ≤ c
  · simp [hc2]
  by_cases hc0 : c = r
  · subst hc0
    simp
  have hc1 : r + 1 ≤ c := by omega
  simp only [hc2, hc0, hc1, decide_true, decide_false, Bool.not_true, Bool.false_eq_true,
    if_false]
  rw [handOut, half_succ]
  rfl

/-- The checks after a callback on half `half r`, at a second status read that finds the
reader at `(c', r + 1)`: an overrun exactly when the engine has filled the half after the
one handed out, else a counted read. -/
theorem run_giveBack_of_tracks (hs : Tracks id l g c (r + 1) s.afterRead) :
    (Stream.giveBack id (half r) none).run s =
      if r + 2 ≤ c then .ok (some .overrun) (s.afterRead.recorded .overrun)
      else .ok none
        { s.afterRead with counters := { s.counters with reads := s.counters.reads + 1 } } := by
  obtain ⟨t, ht, rfl, rfl, hst, hmax⟩ := hs.stream
  have ht' : s.streams[id]? = some t := ht
  have hw : LaneStatus.ofWord t.lane s.bank.status.1 =
      LaneStatus.ofWord t.lane s.afterRead.bank.flags := rfl
  -- with no limit set, no read is too slow
  have hslow : Stream.tooSlow t.maxRead none s.clock = false := by
    simp [Stream.tooSlow, Int.not_lt.mpr hmax]
  have hready := hs.flags.ready
  rw [half_succ] at hready
  rw [Stream.run_giveBack]
  simp only [ht', hst, hw, hs.flags.error, hready, hslow, Bool.false_eq_true, if_false,
    Bool.or_false]
  by_cases hc : r + 2 ≤ c
  · simp [hc]
  · simp [hc]

/-- A read whose first status read finds the reader at `(c, r)` behaves as the abstract
reader: an overrun when `r + 2 ≤ c`, nothing to read when `c = r`, and else one callback on
half `half r` in a machine at `(c, r + 1)`, after which the read answers an overrun exactly
when its second status read finds `r + 2 ≤ c'`. -/
theorem peek_of_tracks {α : Type} (f : Array UInt32 → Half → Act α)
    (hs : Tracks id l g c r s.afterRead) :
    (r + 2 ≤ c → (Stream.peek id f).run s =
      .ok ⟨none, some .overrun⟩ (s.afterRead.recorded .overrun)) ∧
    (c = r → (Stream.peek id f).run s =
      .ok ⟨none, some .wouldBlock⟩ (s.afterRead.recorded .wouldBlock)) ∧
    (c = r + 1 → ∃ ring, s.rings[g]? = some ring ∧
      Tracks id l g c (r + 1) (handOut s.afterRead l g r) ∧
      (∀ e s₂, (f (ring.half (half r)) (half r)).run (handOut s.afterRead l g r) =
          .error e s₂ →
        (Stream.peek id f).run s = .error e s₂) ∧
      (∀ a s₂ c', (f (ring.half (half r)) (half r)).run (handOut s.afterRead l g r) =
          .ok a s₂ →
        Tracks id l g c' (r + 1) s₂.afterRead →
        ∃ k, (Stream.peek id f).run s =
            .ok ⟨some a, if r + 2 ≤ c' then some .overrun else none⟩
              { s₂.afterRead with counters := k } ∧
          Tracks id l g c' (r + 1) { s₂.afterRead with counters := k })) := by
  obtain ⟨ring, hr, htake⟩ := run_takeHalf_of_tracks hs
  refine ⟨fun hc => ?_, fun hc => ?_, fun hc => ⟨ring, hr, ?_, ?_, ?_⟩⟩
  · rw [Stream.run_peek, htake, if_pos hc]
  · have hc2 : ¬ r + 2 ≤ c := by omega
    rw [Stream.run_peek, htake, if_neg hc2, if_pos hc]
  · subst hc
    exact hs.handOut
  · intro e s₂ hf
    have hc2 : ¬ r + 2 ≤ c := by omega
    have hc0 : ¬ c = r := by omega
    rw [Stream.run_peek, htake, if_neg hc2, if_neg hc0]
    simp only [hf]
  · intro a s₂ c' hf hs₂
    have hc2 : ¬ r + 2 ≤ c := by omega
    have hc0 : ¬ c = r := by omega
    rw [Stream.run_peek, htake, if_neg hc2, if_neg hc0]
    simp only [hf, run_giveBack_of_tracks hs₂]
    by_cases hc' : r + 2 ≤ c'
    · exact ⟨_, by simp only [hc', if_true]; rfl, (hs₂.counters _)⟩
    · exact ⟨_, by simp only [hc', if_false]; rfl, (hs₂.counters _)⟩

end Reader

end DmaOwnership
