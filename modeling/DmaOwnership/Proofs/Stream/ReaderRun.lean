import DmaOwnership.Proofs.Stream.Engine
/-!
# The reader's counts along a run

A run shows of a circular transfer's reader a list of marks (`Reader.Reading`): the events
with a name raised on its lane, directly or falling due at a status read, each read of the
transfer at its first status read, each callback a read calls, and each second status read
after a callback returns. The events and the callbacks before a mark are the abstract
reader's `c` and `r` there. Along a run whose events on the lane are the engine's next ones,
every read finds the machine where the abstract reader stands at those counts
(`Reading.tracks`); from a start they begin at zero.
-/

namespace DmaOwnership

open Machine DmaOwnership.Stream

namespace Reader

/-! ## Marks -/

/-- What a run shows of a circular transfer's reader, in order. -/
inductive Mark where
  /-- The engine raised an event with a name on the transfer's lane. -/
  | raised (e : Event)
  /-- A read of the transfer, begun in the machine, made its first status read. -/
  | read (s : Machine)
  /-- The read called its callback. -/
  | called
  /-- A callback of the read returned in the machine, and the read made its second status
  read. -/
  | checked (s : Machine)

/-- The event a mark raises. -/
def Mark.event? : Mark → Option Event
  | .raised e => some e
  | _ => none

/-- Whether a mark is a callback. -/
def Mark.isCall : Mark → Bool
  | .called => true
  | _ => false

/-- The events the marks raise, in order. -/
def raisedOf (ms : List Mark) : List Event := ms.filterMap Mark.event?

/-- How many callbacks the marks call. -/
def calls (ms : List Mark) : Nat := ms.countP Mark.isCall

@[simp] theorem raisedOf_nil : raisedOf [] = [] := rfl

@[simp] theorem calls_nil : calls [] = 0 := rfl

@[simp] theorem raisedOf_cons (m : Mark) (ms : List Mark) :
    raisedOf (m :: ms) = m.event?.toList ++ raisedOf ms := by
  cases h : m.event? <;> simp [raisedOf, h]

@[simp] theorem calls_cons (m : Mark) (ms : List Mark) :
    calls (m :: ms) = calls ms + if m.isCall then 1 else 0 := by
  cases h : m.isCall <;> simp [calls, h]

@[simp] theorem raisedOf_append (ms ms' : List Mark) :
    raisedOf (ms ++ ms') = raisedOf ms ++ raisedOf ms' :=
  List.filterMap_append

@[simp] theorem calls_append (ms ms' : List Mark) : calls (ms ++ ms') = calls ms + calls ms' :=
  List.countP_append

@[simp] theorem raisedOf_map_raised (es : List Event) : raisedOf (es.map .raised) = es := by
  induction es with
  | nil => rfl
  | cons e es ih => simp [ih, Mark.event?]

@[simp] theorem calls_map_raised (es : List Event) : calls (es.map .raised) = 0 := by
  induction es with
  | nil => rfl
  | cons e es ih => simp [ih, Mark.isCall]

/-- The events the status reads made from `s` to `s'` raise on lane `l`. -/
def readMarks (l : Lane) (s s' : Machine) : List Mark :=
  (s.bank.dueOn l (s'.bank.reads - s.bank.reads)).map .raised

/-- The marks of the checks after a callback on half `h` of transfer `id` that ended in `r`:
the events of their status read, if the callback returned. -/
def backMarks {α : Type} (l : Lane) (id : Nat) (h : Half) (start : Option Nat) :
    EStateM.Result Fault Machine α → List Mark
  | .ok _ s₂ => readMarks l s₂ (finalState ((giveBack id h start).run s₂))
  | .error _ _ => []

/-- The second status read of a read of the reader's own transfer, if its callback returned. -/
def checkedAt {α : Type} : EStateM.Result Fault Machine α → List Mark
  | .ok _ s₂ => [.checked s₂]
  | .error _ _ => []

@[simp] theorem calls_readMarks (l : Lane) (s s' : Machine) : calls (readMarks l s s') = 0 :=
  calls_map_raised _

@[simp] theorem calls_backMarks {α : Type} (l : Lane) (id : Nat) (h : Half) (start : Option Nat)
    (r : EStateM.Result Fault Machine α) : calls (backMarks l id h start r) = 0 := by
  cases r <;> simp [backMarks]

@[simp] theorem raisedOf_checkedAt {α : Type} (r : EStateM.Result Fault Machine α) :
    raisedOf (checkedAt r) = [] := by
  cases r <;> simp [checkedAt, Mark.event?]

@[simp] theorem calls_checkedAt {α : Type} (r : EStateM.Result Fault Machine α) :
    calls (checkedAt r) = 0 := by
  cases r <;> simp [checkedAt, Mark.isCall]

/-- The events among the marks are the engine's next ones after `c` filled halves:
half-transfer and transfer-complete in turn. -/
def EngineNext (c : Nat) (ms : List Mark) : Prop :=
  raisedOf ms = nextEvents c (raisedOf ms).length

theorem EngineNext.append {c : Nat} {ms ms' : List Mark} (h : EngineNext c (ms ++ ms')) :
    EngineNext c ms ∧ EngineNext (c + (raisedOf ms).length) ms' := by
  unfold EngineNext at h
  rw [raisedOf_append] at h
  exact eq_nextEvents_of_append h

/-! ## Runs of the reader's kind -/

/-- Client program `x`, run from `s`, ends in `res` and shows the marks `ms` of circular
transfer `id`'s reader on lane `l`, in a run of the kind the reader is counted along: every
operation that calls nothing back, but a raise on the lane, leaves the transfer running with
no limit on holding a half, and the transfer is read only outside its own callbacks
(`inner` says the run is one of them). -/
inductive Reading (id : Nat) (l : Lane) : Bool → {α : Type} → Act α → Machine → List Mark →
    EStateM.Result Fault Machine α → Prop where
  | pure {inner : Bool} {α : Type} (a : α) (s : Machine) : Reading id l inner (pure a) s [] (.ok a s)
  | get {inner : Bool} (s : Machine) : Reading id l inner get s [] (.ok s s)
  | throw {inner : Bool} {α : Type} (e : Fault) (s : Machine) :
      Reading id l inner (throw e : Act α) s [] (.error e s)
  | bind {inner : Bool} {α β : Type} {x : Act α} {k : α → Act β} {s s₁ : Machine} {a : α}
      {ms₁ ms₂ : List Mark} {r : EStateM.Result Fault Machine β} :
      Reading id l inner x s ms₁ (.ok a s₁) → Reading id l inner (k a) s₁ ms₂ r →
      Reading id l inner (x >>= k) s (ms₁ ++ ms₂) r
  | bind_error {inner : Bool} {α β : Type} {x : Act α} {k : α → Act β} {s s₁ : Machine}
      {e : Fault} {ms : List Mark} :
      Reading id l inner x s ms (.error e s₁) → Reading id l inner (x >>= k) s ms (.error e s₁)
  | tryCatch_ok {inner : Bool} {α : Type} {x : Act α} {handle : Fault → Act α} {s s₁ : Machine}
      {a : α} {ms : List Mark} :
      Reading id l inner x s ms (.ok a s₁) → Reading id l inner (tryCatch x handle) s ms (.ok a s₁)
  | tryCatch_error {inner : Bool} {α : Type} {x : Act α} {handle : Fault → Act α}
      {s s₁ : Machine} {e : Fault} {ms₁ ms₂ : List Mark} {r : EStateM.Result Fault Machine α} :
      Reading id l inner x s ms₁ (.error e s₁) → Reading id l inner (handle e) s₁ ms₂ r →
      Reading id l inner (tryCatch x handle) s (ms₁ ++ ms₂) r
  | leaf {inner : Bool} {α : Type} {x : Act α} {s : Machine} (hx : Leaf x) (hq : ¬ RaisesOn l x)
      (hrun : Runs id (finalState (x.run s))) :
      Reading id l inner x s (readMarks l s (finalState (x.run s))) (x.run s)
  | raise {inner : Bool} (e : Event) (he : e.name?.isSome = true) (s : Machine) :
      Reading id l inner (modifyBank (·.raise l e)) s [.raised e]
        ((modifyBank (·.raise l e)).run s)
  | borrow_refused {inner : Bool} {α : Type} (buf : Nat) (f : Array UInt32 → Act α) {s : Machine}
      (h : ∀ b, s.buffers[buf]? = some b → b.writing = true) :
      Reading id l inner (Buffer.borrow buf f) s [] ((Buffer.borrow buf f).run s)
  | borrow {inner : Bool} {α : Type} {buf : Nat} {f : Array UInt32 → Act α} {s : Machine}
      {b : Buffer} {ms : List Mark} {r : EStateM.Result Fault Machine α}
      (hb : s.buffers[buf]? = some b) (hw : b.writing = false) :
      Reading id l inner (f b.items)
        { s with buffers := s.buffers.modify buf fun b => { b with readers := b.readers + 1 } }
        ms r →
      Reading id l inner (Buffer.borrow buf f) s ms
        (mapMachine (fun s => { s with
          buffers := s.buffers.modify buf fun b => { b with readers := b.readers - 1 } }) r)
  | borrowMut_refused {inner : Bool} {α : Type} (buf : Nat) (f : Array UInt32 → Act α)
      {s : Machine} (h : ∀ b, s.buffers[buf]? = some b → b.canWrite = false) :
      Reading id l inner (Buffer.borrowMut buf f) s [] ((Buffer.borrowMut buf f).run s)
  | borrowMut {inner : Bool} {α : Type} {buf : Nat} {f : Array UInt32 → Act α} {s : Machine}
      {b : Buffer} {ms : List Mark} {r : EStateM.Result Fault Machine α}
      (hb : s.buffers[buf]? = some b) (hw : b.canWrite = true) :
      Reading id l inner (f b.items)
        { s with buffers := s.buffers.modify buf fun b => { b with writing := true } } ms r →
      Reading id l inner (Buffer.borrowMut buf f) s ms
        (mapMachine (fun s => { s with
          buffers := s.buffers.modify buf fun b => { b with writing := false } }) r)
  | peek_none {inner : Bool} {α : Type} {id' : Nat} (hne : id' ≠ id)
      (f : Array UInt32 → Half → Act α) {s : Machine}
      (hn : ∀ h data start s₁, (takeHalf id').run s ≠ .ok (.ok (h, data, start)) s₁) :
      Reading id l inner (peek id' f) s (readMarks l s (finalState ((peek id' f).run s)))
        ((peek id' f).run s)
  | peek {inner : Bool} {α : Type} {id' : Nat} {f : Array UInt32 → Half → Act α} {s s₁ : Machine}
      {h : Half} {data : Array UInt32} {start : Option Nat} {ms : List Mark}
      {r : EStateM.Result Fault Machine α} (hne : id' ≠ id)
      (ht : (takeHalf id').run s = .ok (.ok (h, data, start)) s₁) :
      Reading id l inner (f data h) s₁ ms r →
      Reading id l inner (peek id' f) s (readMarks l s s₁ ++ ms ++ backMarks l id' h start r)
        (afterCallback id' h start r)
  | own_none {α : Type} (f : Array UInt32 → Half → Act α) {s : Machine}
      (hn : ∀ h data start s₁, (takeHalf id).run s ≠ .ok (.ok (h, data, start)) s₁) :
      Reading id l false (peek id f) s
        (readMarks l s (finalState ((peek id f).run s)) ++ [.read s]) ((peek id f).run s)
  | own {α : Type} {f : Array UInt32 → Half → Act α} {s s₁ : Machine} {h : Half}
      {data : Array UInt32} {start : Option Nat} {ms : List Mark}
      {r : EStateM.Result Fault Machine α}
      (ht : (takeHalf id).run s = .ok (.ok (h, data, start)) s₁) :
      Reading id l true (f data h) s₁ ms r →
      Reading id l false (peek id f) s
        (readMarks l s s₁ ++ .read s :: .called :: (ms ++ backMarks l id h start r ++ checkedAt r))
        (afterCallback id h start r)

/-- Inside its own callbacks the transfer is not read, so they call nothing back of it. -/
theorem Reading.calls_eq_zero {id : Nat} {l : Lane} {inner : Bool} {α : Type} {x : Act α}
    {s : Machine} {ms : List Mark} {res : EStateM.Result Fault Machine α}
    (hx : Reading id l inner x s ms res) (hin : inner = true) : calls ms = 0 := by
  induction hx with
  | bind _ _ ih₁ ih₂ => simp [ih₁ hin, ih₂ hin]
  | tryCatch_error _ _ ih₁ ih₂ => simp [ih₁ hin, ih₂ hin]
  | bind_error _ ih | tryCatch_ok _ ih | borrow _ _ _ ih | borrowMut _ _ _ ih => exact ih hin
  | leaf | peek_none => exact calls_readMarks _ _ _
  | raise => simp [Mark.isCall]
  | peek _ _ _ ih => simp [ih hin]
  | own_none | own => cases hin
  | _ => rfl

/-! ## What the reader sees along a run -/

/-- Each read of transfer `id` among the marks, and each second status read, finds the
machine where the abstract reader stands, counting from an engine that has filled `c` halves
and a reader handed `r`, and on along the marks before it. -/
def Seen (id : Nat) (l : Lane) (g : Nat) : Nat → Nat → List Mark → Prop
  | _, _, [] => True
  | c, r, .raised _ :: ms => Seen id l g (c + 1) r ms
  | c, r, .read s :: ms => Tracks id l g c r s.afterRead ∧ Seen id l g c r ms
  | c, r, .called :: ms => Seen id l g c (r + 1) ms
  | c, r, .checked s :: ms => Tracks id l g c r s.afterRead ∧ Seen id l g c r ms

variable {id g : Nat} {l : Lane}

theorem seen_append (ms ms' : List Mark) : ∀ {c r : Nat},
    Seen id l g c r (ms ++ ms') ↔
      Seen id l g c r ms ∧ Seen id l g (c + (raisedOf ms).length) (r + calls ms) ms' := by
  induction ms with
  | nil => intro c r; simp [Seen]
  | cons m ms ih =>
    intro c r
    cases m with
    | raised e =>
      simp only [List.cons_append, Seen, ih, raisedOf_cons, calls_cons, Mark.event?, Mark.isCall]
      simp [Nat.add_assoc, Nat.add_comm 1]
    | read s => simp [Seen, ih, Mark.event?, Mark.isCall, and_assoc]
    | called =>
      simp only [List.cons_append, Seen, ih, raisedOf_cons, calls_cons, Mark.event?, Mark.isCall]
      simp [Nat.add_assoc, Nat.add_comm 1]
    | checked s => simp [Seen, ih, Mark.event?, Mark.isCall, and_assoc]

@[simp] theorem seen_map_raised (es : List Event) : ∀ {c r : Nat},
    Seen id l g c r (es.map .raised) := by
  induction es with
  | nil => intro c r; trivial
  | cons e es ih => intro c r; exact ih

/-- A read among the marks finds the reader at the counts of the marks before it. -/
theorem Seen.at_read {c r : Nat} {pre post : List Mark} {s : Machine}
    (h : Seen id l g c r (pre ++ .read s :: post)) :
    Tracks id l g (c + (raisedOf pre).length) (r + calls pre) s.afterRead :=
  ((seen_append pre _).mp h).2.1

/-- So does the second status read after a callback. -/
theorem Seen.at_checked {c r : Nat} {pre post : List Mark} {s : Machine}
    (h : Seen id l g c r (pre ++ .checked s :: post)) :
    Tracks id l g (c + (raisedOf pre).length) (r + calls pre) s.afterRead :=
  ((seen_append pre _).mp h).2.1

/-- A run from counts `(c, r)` that shows the marks `ms` and ends in `s'`: the ownership
rules hold, each read among the marks finds the reader at its counts, and `s'` finds it at
the counts after all of them. -/
structure RunFrom (id : Nat) (l : Lane) (g c r : Nat) (ms : List Mark) (s' : Machine) : Prop where
  /-- The ownership rules hold at the end. -/
  ownership : s'.Ownership
  /-- Each read finds the reader at its counts. -/
  seen : Seen id l g c r ms
  /-- The end finds the reader at the counts after the marks. -/
  tracks : Tracks id l g (c + (raisedOf ms).length) (r + calls ms) s'

namespace RunFrom

variable {c r : Nat} {ms ms' : List Mark} {s s' s₁ : Machine}

theorem nil (ho : s.Ownership) (h : Tracks id l g c r s) : RunFrom id l g c r [] s :=
  ⟨ho, trivial, h⟩

/-- A run from where another ends, at the counts it ends at, continues it. -/
theorem seq {c' r' : Nat} (h₁ : RunFrom id l g c r ms s₁) (hc : c + (raisedOf ms).length = c')
    (hr : r + calls ms = r')
    (h₂ : s₁.Ownership → Tracks id l g c' r' s₁ → RunFrom id l g c' r' ms' s') :
    RunFrom id l g c r (ms ++ ms') s' := by
  subst hc hr
  obtain ⟨ho, hseen, htr⟩ := h₂ h₁.ownership h₁.tracks
  refine ⟨ho, (seen_append ms ms').mpr ⟨h₁.seen, hseen⟩, ?_⟩
  simpa [Nat.add_assoc] using htr

/-- A step that follows the transfer, keeps it running and shows on its lane the flags of its
status reads, whose events are the engine's next ones. -/
theorem step (ho : s'.Ownership) (h : Tracks id l g c r s) (hf : Follows id s s')
    (hr : Bank.ReadsOn l s.bank s'.bank) (hrun : Runs id s')
    (he : EngineNext c (readMarks l s s')) : RunFrom id l g c r (readMarks l s s') s' := by
  unfold EngineNext readMarks at he
  rw [raisedOf_map_raised] at he
  refine ⟨ho, seen_map_raised _, ?_⟩
  rw [readMarks, raisedOf_map_raised, calls_map_raised, Nat.add_zero]
  exact h.advance hf hr hrun he

/-- Marks a borrow sets on a buffer and takes back are read by no reader. -/
theorem between_marks {α : Type} {buf : Nat} {f f' : Buffer → Buffer}
    {res : EStateM.Result Fault Machine α}
    (h : Machine.Ownership { s with buffers := s.buffers.modify buf f } →
      Tracks id l g c r { s with buffers := s.buffers.modify buf f } →
      RunFrom id l g c r ms (finalState res))
    (hf : ∀ b, (f b).access = b.access) (hf' : ∀ b, (f' b).access = b.access)
    (ho : s.Ownership) (hs : Tracks id l g c r s) :
    RunFrom id l g c r ms
      (finalState (mapMachine (fun s => { s with buffers := s.buffers.modify buf f' }) res)) := by
  obtain ⟨ho', hseen, htr⟩ := h (ho.modifyBuffer buf hf) ⟨hs.stream, hs.ring, hs.flags⟩
  rw [finalState_mapMachine]
  exact ⟨ho'.modifyBuffer buf hf', hseen, ⟨htr.stream, htr.ring, htr.flags⟩⟩

end RunFrom

/-! ## The reader's own reads -/

section Own

variable {c r : Nat} {s s₁ : Machine}

/-- The checks of a read of the running transfer make one status read. -/
theorem Tracks.reads_takeHalf (h : Tracks id l g c r s) :
    (finalState ((takeHalf id).run s)).bank.reads = s.bank.reads + 1 := by
  obtain ⟨t, ht, -, rfl, hst, -⟩ := h.stream
  obtain ⟨ring, hring, hph⟩ := h.ring
  rw [Stream.run_takeHalf]
  simp only [ht, hst, hring, hph, Half.waiting_filling, Bool.false_eq_true, if_false]
  split_ifs <;> exact Bank.status_reads s.bank

/-- So do the checks after its callback. -/
theorem Tracks.reads_giveBack (h : Tracks id l g c r s) (x : Half) (start : Option Nat) :
    (finalState ((giveBack id x start).run s)).bank.reads = s.bank.reads + 1 := by
  obtain ⟨t, ht, -, -, hst, -⟩ := h.stream
  rw [Stream.run_giveBack]
  simp only [ht, hst, Bool.false_eq_true, if_false]
  split_ifs <;> exact Bank.status_reads s.bank

/-- The events of one status read are those that fall due at it. -/
theorem readMarks_of_reads {s' : Machine} (h : s'.bank.reads = s.bank.reads + 1) :
    readMarks l s s' = (eventsOn l s.bank.fallingDue).map .raised := by
  rw [readMarks, h, Nat.add_sub_cancel_left, Bank.dueOn, Bank.dueOn, List.nil_append,
    Bank.readN_zero]

/-- The first status read of a read of the transfer moves the reader on by the events falling
due at it. -/
theorem Tracks.first_read (h : Tracks id l g c r s) {s' : Machine}
    (hs' : s'.bank.reads = s.bank.reads + 1) (he : EngineNext c (readMarks l s s')) :
    Tracks id l g (c + (raisedOf (readMarks l s s')).length) r s.afterRead := by
  unfold EngineNext at he
  rw [readMarks_of_reads hs', raisedOf_map_raised] at he ⊢
  exact h.read he

/-- A read of the transfer that hands a half out hands out the reader's half, one half behind
the engine, with no time taken, and leaves the reader one half further. -/
theorem Tracks.handsOut {h : Half} {data : Array UInt32} {start : Option Nat}
    (hs : Tracks id l g c r s) (ht : (takeHalf id).run s = .ok (.ok (h, data, start)) s₁)
    (he : EngineNext c (readMarks l s s₁)) :
    c + (raisedOf (readMarks l s s₁)).length = r + 1 ∧ h = half r ∧ start = none ∧
      Tracks id l g (r + 1) r s.afterRead ∧ Tracks id l g (r + 1) (r + 1) s₁ := by
  have hreads : s₁.bank.reads = s.bank.reads + 1 := by
    have := hs.reads_takeHalf
    rwa [ht] at this
  have h₁ := hs.first_read hreads he
  generalize c + (raisedOf (readMarks l s s₁)).length = c' at h₁ ⊢
  obtain ⟨ring, -, htake⟩ := run_takeHalf_of_tracks h₁
  rw [ht] at htake
  -- the checks refuse unless the engine is exactly one half ahead
  have hle := h₁.flags.taken_le
  by_cases hc2 : r + 2 ≤ c'
  · rw [if_pos hc2] at htake
    cases htake
  by_cases hc0 : c' = r
  · rw [if_neg hc2, if_pos hc0] at htake
    cases htake
  rw [if_neg hc2, if_neg hc0] at htake
  have hc : c' = r + 1 := by omega
  subst hc
  simp only [EStateM.Result.ok.injEq, Except.ok.injEq, Prod.mk.injEq] at htake
  obtain ⟨⟨rfl, -, rfl⟩, rfl⟩ := htake
  exact ⟨rfl, rfl, rfl, h₁, h₁.handOut⟩

/-- A read of the transfer that hands nothing out makes its status read and counts a
refusal, and leaves the reader where that read found it. -/
theorem Tracks.refuses {α : Type} (f : Array UInt32 → Half → Act α) (hs : Tracks id l g c r s)
    (hn : ∀ h data start s₁, (takeHalf id).run s ≠ .ok (.ok (h, data, start)) s₁)
    (he : EngineNext c (readMarks l s (finalState ((peek id f).run s)))) :
    Tracks id l g (c + (raisedOf (readMarks l s (finalState ((peek id f).run s)))).length) r
        s.afterRead ∧
      Tracks id l g (c + (raisedOf (readMarks l s (finalState ((peek id f).run s)))).length) r
        (finalState ((peek id f).run s)) := by
  have hfin := finalState_peek_of_none f hn
  have hreads : (finalState ((peek id f).run s)).bank.reads = s.bank.reads + 1 := by
    rw [hfin]
    exact hs.reads_takeHalf
  have h₁ := hs.first_read hreads he
  refine ⟨h₁, ?_⟩
  generalize c + (raisedOf (readMarks l s (finalState ((peek id f).run s)))).length = c' at h₁ ⊢
  rw [hfin]
  obtain ⟨ring, -, htake⟩ := run_takeHalf_of_tracks h₁
  rw [htake]
  split_ifs with hc2 hc0
  · exact h₁.counters _
  · exact h₁.counters _
  · rw [if_neg hc2, if_neg hc0] at htake
    exact absurd htake (hn _ _ _ _)

/-- The checks after a callback of the reader's half `half r` make their status read and
leave the reader where that read found it. -/
theorem Tracks.checks {s₂ : Machine} (hs : Tracks id l g c (r + 1) s₂)
    (he : EngineNext c (readMarks l s₂ (finalState ((giveBack id (half r) none).run s₂)))) :
    Tracks id l g (c + (raisedOf (readMarks l s₂
        (finalState ((giveBack id (half r) none).run s₂)))).length) (r + 1) s₂.afterRead ∧
      Tracks id l g (c + (raisedOf (readMarks l s₂
        (finalState ((giveBack id (half r) none).run s₂)))).length) (r + 1)
        (finalState ((giveBack id (half r) none).run s₂)) := by
  have h₁ := hs.first_read (hs.reads_giveBack (half r) none) he
  refine ⟨h₁, ?_⟩
  generalize c + _ = c' at h₁ ⊢
  rw [run_giveBack_of_tracks h₁]
  split_ifs
  · exact h₁.counters _
  · exact h₁.counters _

end Own

/-! ## The run lemma -/

section Run

variable {c r : Nat}

namespace RunFrom

/-- An operation that calls nothing back, but a raise on the lane, and leaves the transfer
running. -/
theorem leaf {α : Type} {x : Act α} {s : Machine} (hx : Leaf x) (hq : ¬ RaisesOn l x)
    (hrun : Runs id (finalState (x.run s))) (ho : s.Ownership) (h : Tracks id l g c r s)
    (he : EngineNext c (readMarks l s (finalState (x.run s)))) :
    RunFrom id l g c r (readMarks l s (finalState (x.run s))) (finalState (x.run s)) := by
  obtain ⟨t, ht, rfl, -, hst, -⟩ := h.stream
  obtain ⟨hf, hr⟩ := Leaf.follows_readsOn ho ht hst hx hq hrun
  exact .step (Leaf.keeps_ownership hx s ho) h hf hr hrun he

/-- The engine's next event, raised directly on the lane. -/
theorem raise {e : Event} {s : Machine} (ho : s.Ownership) (h : Tracks id l g c r s)
    (he : EngineNext c [.raised e]) :
    RunFrom id l g c r [.raised e] (finalState ((modifyBank (·.raise l e)).run s)) := by
  have hev : e = event c := by
    simpa [EngineNext, Mark.event?, nextEvents] using he
  subst hev
  exact ⟨(Client.raise l (event c)).keeps_ownership s ho, trivial, h.raise_next⟩

/-- The checks before the callback of another transfer's read. -/
theorem takeHalf_of_ne {id' : Nat} (hne : id' ≠ id) {s : Machine} (ho : s.Ownership)
    (h : Tracks id l g c r s)
    (he : EngineNext c (readMarks l s (finalState ((takeHalf id').run s)))) :
    RunFrom id l g c r (readMarks l s (finalState ((takeHalf id').run s)))
      (finalState ((takeHalf id').run s)) := by
  obtain ⟨t, ht, rfl, -, hst, -⟩ := h.stream
  exact .step (keeps_takeHalf id' s ho) h (follows_takeHalf_of_ne id ho hne)
    (readsOn_takeHalf_of_ne ho ht hst hne) (h.runs.of_streams (streams_takeHalf id' s)) he

/-- A read of another transfer that hands nothing out. -/
theorem other_none {α : Type} {id' : Nat} (hne : id' ≠ id) (f : Array UInt32 → Half → Act α)
    {s : Machine} (hn : ∀ h data start s₁, (takeHalf id').run s ≠ .ok (.ok (h, data, start)) s₁)
    (ho : s.Ownership) (h : Tracks id l g c r s)
    (he : EngineNext c (readMarks l s (finalState ((peek id' f).run s)))) :
    RunFrom id l g c r (readMarks l s (finalState ((peek id' f).run s)))
      (finalState ((peek id' f).run s)) := by
  rw [finalState_peek_of_none f hn] at he ⊢
  exact takeHalf_of_ne hne ho h he

/-- The checks after a callback of another transfer's read. -/
theorem afterCallback_of_ne {α : Type} {id' : Nat} (x : Half) (start : Option Nat)
    {res : EStateM.Result Fault Machine α} (ho : (finalState res).Ownership)
    (h : Tracks id l g c r (finalState res)) (he : EngineNext c (backMarks l id' x start res)) :
    RunFrom id l g c r (backMarks l id' x start res)
      (finalState (afterCallback id' x start res)) := by
  cases res with
  | error e s₂ => exact .nil ho h
  | ok a s₂ =>
    rw [Stream.afterCallback, finalState_answer]
    obtain ⟨t, ht, rfl, -, hst, -⟩ := h.stream
    exact .step (keeps_of_owners (owners_giveBack id' x start) s₂ ho) h
      (follows_giveBack id id' x start) (readsOn_giveBack t.lane id' x start)
      (h.runs.of_streams (streams_giveBack id' x start s₂)) he

/-- A read of another transfer that calls back: its checks, its callback's run, and the checks
after it. -/
theorem other {α : Type} {id' : Nat} {s s₁ : Machine}
    {x : Half} {data : Array UInt32} {start : Option Nat} {ms : List Mark}
    {res : EStateM.Result Fault Machine α} (hne : id' ≠ id)
    (ht : (takeHalf id').run s = .ok (.ok (x, data, start)) s₁)
    (hcb : ∀ {c r : Nat}, s₁.Ownership → Tracks id l g c r s₁ → EngineNext c ms →
      RunFrom id l g c r ms (finalState res))
    (ho : s.Ownership) (h : Tracks id l g c r s)
    (he : EngineNext c (readMarks l s s₁ ++ ms ++ backMarks l id' x start res)) :
    RunFrom id l g c r (readMarks l s s₁ ++ ms ++ backMarks l id' x start res)
      (finalState (afterCallback id' x start res)) := by
  obtain ⟨he₁₂, he₃⟩ := he.append
  obtain ⟨he₁, he₂⟩ := he₁₂.append
  have h₁ : RunFrom id l g c r (readMarks l s s₁) s₁ := by
    have := takeHalf_of_ne hne ho h (s := s)
    rw [ht] at this
    exact this he₁
  refine (h₁.seq rfl rfl fun ho₁ h₁ => hcb ho₁ h₁ he₂).seq rfl rfl fun ho₂ h₂ => ?_
  exact afterCallback_of_ne x start ho₂ h₂ he₃

/-- A read of the transfer that hands nothing out: its status read, then the read's mark. -/
theorem own_none {α : Type} (f : Array UInt32 → Half → Act α) {s : Machine}
    (hn : ∀ h data start s₁, (takeHalf id).run s ≠ .ok (.ok (h, data, start)) s₁)
    (ho : s.Ownership) (h : Tracks id l g c r s)
    (he : EngineNext c (readMarks l s (finalState ((peek id f).run s)) ++ [.read s])) :
    RunFrom id l g c r (readMarks l s (finalState ((peek id f).run s)) ++ [.read s])
      (finalState ((peek id f).run s)) := by
  obtain ⟨h₁, h₂⟩ := h.refuses f hn he.append.1
  have ho' : (finalState ((peek id f).run s)).Ownership := by
    rw [finalState_peek_of_none f hn]
    exact keeps_takeHalf id s ho
  refine ⟨ho', ?_, ?_⟩
  · rw [seen_append, calls_readMarks, Nat.add_zero]
    exact ⟨seen_map_raised _, h₁, trivial⟩
  · simpa [Mark.event?, Mark.isCall] using h₂

/-- The checks after a callback of the transfer's own read, on the reader's half. -/
theorem afterOwnCallback {α : Type} {res : EStateM.Result Fault Machine α}
    (ho : (finalState res).Ownership) (h : Tracks id l g c (r + 1) (finalState res))
    (he : EngineNext c (backMarks l id (half r) none res ++ checkedAt res)) :
    RunFrom id l g c (r + 1) (backMarks l id (half r) none res ++ checkedAt res)
      (finalState (afterCallback id (half r) none res)) := by
  cases res with
  | error e s₂ => exact .nil ho h
  | ok a s₂ =>
    rw [Stream.afterCallback, finalState_answer]
    obtain ⟨h₁, h₂⟩ := h.checks he.append.1
    refine ⟨keeps_of_owners (owners_giveBack id (half r) none) s₂ ho, ?_, ?_⟩
    · rw [seen_append, calls_backMarks, Nat.add_zero]
      exact ⟨seen_map_raised _, h₁, trivial⟩
    · simpa [backMarks, checkedAt, Mark.event?, Mark.isCall] using h₂

/-- A read of the transfer that calls back: its status read finds the reader one half behind,
the callback runs with the reader one half further, and the checks after it. -/
theorem own {α : Type} {s s₁ : Machine} {x : Half}
    {data : Array UInt32} {start : Option Nat} {ms : List Mark}
    {res : EStateM.Result Fault Machine α}
    (ht : (takeHalf id).run s = .ok (.ok (x, data, start)) s₁) (hcalls : calls ms = 0)
    (hcb : ∀ {c r : Nat}, s₁.Ownership → Tracks id l g c r s₁ → EngineNext c ms →
      RunFrom id l g c r ms (finalState res))
    (ho : s.Ownership) (h : Tracks id l g c r s)
    (he : EngineNext c (readMarks l s s₁ ++ .read s :: .called ::
      (ms ++ backMarks l id x start res ++ checkedAt res))) :
    RunFrom id l g c r (readMarks l s s₁ ++ .read s :: .called ::
      (ms ++ backMarks l id x start res ++ checkedAt res))
      (finalState (afterCallback id x start res)) := by
  obtain ⟨hc, rfl, rfl, h₀, h₁⟩ := h.handsOut ht he.append.1
  have ho₁ : s₁.Ownership := by
    have := keeps_takeHalf id s ho
    rwa [ht] at this
  -- the read's own marks: its status read, the read and the callback
  have hc' : c + (raisedOf (readMarks l s s₁ ++ [.read s, .called])).length = r + 1 := by
    simpa [Mark.event?] using hc
  have hread : RunFrom id l g c r (readMarks l s s₁ ++ [.read s, .called]) s₁ := by
    refine ⟨ho₁, ?_, ?_⟩
    · rw [seen_append, calls_readMarks, Nat.add_zero, hc]
      exact ⟨seen_map_raised _, h₀, trivial⟩
    · simpa [Mark.event?, Mark.isCall, hc] using h₁
  have hms : readMarks l s s₁ ++ .read s :: .called ::
      (ms ++ backMarks l id (half r) none res ++ checkedAt res) =
      (readMarks l s s₁ ++ [.read s, .called]) ++
        (ms ++ (backMarks l id (half r) none res ++ checkedAt res)) := by
    simp
  rw [hms] at he ⊢
  have he₂ := he.append.2
  rw [hc'] at he₂
  obtain ⟨he₃, he₄⟩ := he₂.append
  refine hread.seq hc'
    (show r + calls (readMarks l s s₁ ++ [.read s, .called]) = r + 1 by simp [Mark.isCall])
    fun _ _ => ?_
  refine (hcb ho₁ h₁ he₃).seq rfl (show r + 1 + calls ms = r + 1 by rw [hcalls])
    fun ho₂ h₂ => ?_
  exact afterOwnCallback ho₂ h₂ he₄

end RunFrom

/-- Along every run of the reader's kind whose events on the lane are the engine's next ones,
from a machine where the reader stands at `(c, r)`, each read of the transfer and each second
status read finds the reader at the counts before it, and the run ends at the counts of all its
marks, under the ownership rules. The induction follows the record. -/
theorem Reading.tracks {inner : Bool} {α : Type} {x : Act α} {s : Machine} {ms : List Mark}
    {res : EStateM.Result Fault Machine α} (hx : Reading id l inner x s ms res) :
    ∀ {c r : Nat}, s.Ownership → Tracks id l g c r s → EngineNext c ms →
      RunFrom id l g c r ms (finalState res) := by
  induction hx with
  | pure a s => exact fun ho h _ => .nil ho h
  | get s => exact fun ho h _ => .nil ho h
  | throw e s => exact fun ho h _ => .nil ho h
  | bind _ _ ih₁ ih₂ =>
    exact fun ho h he => (ih₁ ho h he.append.1).seq rfl rfl fun ho₁ h₁ => ih₂ ho₁ h₁ he.append.2
  | bind_error _ ih => exact ih
  | tryCatch_ok _ ih => exact ih
  | tryCatch_error _ _ ih₁ ih₂ =>
    exact fun ho h he => (ih₁ ho h he.append.1).seq rfl rfl fun ho₁ h₁ => ih₂ ho₁ h₁ he.append.2
  | leaf hx hq hrun => exact fun ho h he => .leaf hx hq hrun ho h he
  | raise e he s => exact fun ho h hev => .raise ho h hev
  | borrow_refused buf f hb =>
    intro c r ho h _
    rw [Buffer.finalState_borrow_refused hb]
    exact .nil ho h
  | borrow hb hw _ ih =>
    exact fun ho h he => RunFrom.between_marks (fun ho' h' => ih ho' h' he) (fun _ => rfl)
      (fun _ => rfl) ho h
  | borrowMut_refused buf f hb =>
    intro c r ho h _
    rw [Buffer.finalState_borrowMut_refused hb]
    exact .nil ho h
  | borrowMut hb hw _ ih =>
    exact fun ho h he => RunFrom.between_marks (fun ho' h' => ih ho' h' he) (fun _ => rfl)
      (fun _ => rfl) ho h
  | peek_none hne f hn => exact fun ho h he => .other_none hne f hn ho h he
  | peek hne ht _ ih => exact fun ho h he => .other hne ht ih ho h he
  | own_none f hn => exact fun ho h he => .own_none f hn ho h he
  | own ht hcb ih => exact fun ho h he => .own ht (hcb.calls_eq_zero rfl) ih ho h he

end Run

/-! ## From a start -/

/-- A client's start of a circular transfer, once its peripheral is found, is the transfer's
own start. -/
theorem run_start_of_peripheral {g p : Nat} {s₀ s : Machine} {v : Except Refusal Nat}
    (h : (peripheral p >>= fun _ => Stream.start l g p).run s₀ = .ok v s) :
    (Stream.start l g p).run s₀ = .ok v s := by
  rw [EStateM.run_bind, run_peripheral] at h
  cases hp : s₀.peripherals[p]? with
  | none => simp [hp] at h
  | some q => simpa [hp] using h

/-- A circular transfer's reads behave as the abstract reader along every run from its start.
In a run of the reader's kind whose events on the lane are half-transfer, transfer-complete, …
in turn from the start, each read finds the reader at `(c, r)`, the events and the callbacks
before it, and so does each second status read; and a read that finds the reader at `(c, r)`
behaves as the abstract reader there. -/
theorem reads_follow_abstract_reader :
    (∀ {l : Lane} {g p id : Nat} {s₀ s : Machine} {α : Type} {x : Act α} {ms : List Mark}
        {res : EStateM.Result Fault Machine α},
      s₀.Ownership → (peripheral p >>= fun _ => Stream.start l g p).run s₀ = .ok (.ok id) s →
      Reading id l false x s ms res → EngineNext 0 ms →
      (∀ pre s₁ post, ms = pre ++ .read s₁ :: post →
        Tracks id l g (raisedOf pre).length (calls pre) s₁.afterRead) ∧
      (∀ pre s₂ post, ms = pre ++ .checked s₂ :: post →
        Tracks id l g (raisedOf pre).length (calls pre) s₂.afterRead)) ∧
    (∀ {id g c r : Nat} {l : Lane} {s : Machine} {α : Type} (f : Array UInt32 → Half → Act α),
      Tracks id l g c r s.afterRead →
      (r + 2 ≤ c → (Stream.peek id f).run s =
        .ok ⟨none, some .overrun⟩ (s.afterRead.recorded .overrun)) ∧
      (c = r → (Stream.peek id f).run s =
        .ok ⟨none, some .wouldBlock⟩ (s.afterRead.recorded .wouldBlock)) ∧
      (c = r + 1 → ∃ ring, s.rings[g]? = some ring ∧
        Tracks id l g c (r + 1) (handOut s.afterRead l g r) ∧
        (∀ e s₂, (f (ring.half (half r)) (half r)).run (handOut s.afterRead l g r) =
            .error e s₂ →
          (Stream.peek id f).run s = .error e s₂) ∧
        (∀ a s₂ c', (f (ring.half (half r)) (half r)).run (handOut s.afterRead l g r) =
            .ok a s₂ →
          Tracks id l g c' (r + 1) s₂.afterRead →
          ∃ k, (Stream.peek id f).run s =
              .ok ⟨some a, if r + 2 ≤ c' then some .overrun else none⟩
                { s₂.afterRead with counters := k } ∧
            Tracks id l g c' (r + 1) { s₂.afterRead with counters := k }))) := by
  refine ⟨?_, fun f hs => peek_of_tracks f hs⟩
  intro l g p id s₀ s α x ms res ho₀ hstart hx he
  have ho : s.Ownership := by
    have := keeps_startStream l g p s₀ ho₀
    rwa [hstart] at this
  -- the run starts with the reader at zero
  have hrun := hx.tracks ho (start_tracks (run_start_of_peripheral hstart)) he
  refine ⟨fun pre s₁ post hms => ?_, fun pre s₂ post hms => ?_⟩
  · rw [hms] at hrun
    simpa using hrun.seen.at_read
  · rw [hms] at hrun
    simpa using hrun.seen.at_checked

/-- A ring of four items started on lane 1, then half-transfer raised by hand and one read: the
run has the reader's kind, its one event is the engine's first, and its read finds the counts
of the marks before it. -/
theorem read_after_raised_half_finds_counts :
    let s₀ : Machine := finalState ((addPeripheral { address := 64 }).run
      (finalState ((addRing { width := .w8, items := #[1, 2, 3, 4] }).run
        (finalState (takeLanes.run {})))))
    let start : Act (Except Refusal Nat) := peripheral 0 >>= fun _ => Stream.start ⟨0⟩ 0 0
    let s := finalState (start.run s₀)
    let x : Act (Outcome Unit) :=
      modifyBank (·.raise ⟨0⟩ .half) >>= fun _ => Stream.peek 0 fun _ _ => pure ()
    s₀.Ownership ∧ start.run s₀ = .ok (.ok 0) s ∧ ∃ ms res, Reading 0 ⟨0⟩ false x s ms res ∧
      EngineNext 0 ms ∧ (raisedOf ms).length = 1 ∧
      ∀ pre s₁ post, ms = pre ++ .read s₁ :: post →
        Tracks 0 ⟨0⟩ 0 (raisedOf pre).length (calls pre) s₁.afterRead := by
  dsimp only
  have ho₀ := (Client.newPeripheral { address := 64 }).keeps_ownership _
    ((Client.newRing .w8 #[1, 2, 3, 4]).keeps_ownership _ ownership_takeLanes)
  refine ⟨ho₀, rfl, _, _, .bind (.raise .half rfl _) (.own rfl (.pure () _)), rfl, rfl, ?_⟩
  apply And.left
  apply reads_follow_abstract_reader.1 (l := ⟨0⟩) (g := 0) (p := 0)
    (x := modifyBank (·.raise ⟨0⟩ .half) >>= fun _ => Stream.peek 0 fun _ _ => (pure () : Act Unit))
    ho₀ rfl
  · exact .bind (.raise .half rfl _) (.own rfl (.pure () _))
  · rfl

end Reader

end DmaOwnership
