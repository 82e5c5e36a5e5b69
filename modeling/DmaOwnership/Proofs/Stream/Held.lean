import DmaOwnership.Proofs.Stream.Lapped
/-!
# While a reader holds a half

A read checks the lane again when its callback returns: if the engine has meanwhile filled
the half after the one handed out, the read answers an overrun. While the transfer runs only
a read of the same transfer takes that flag down, so a callback that makes no such read once
the half is filled (`Stream.Aside`) leaves it for the check (`Stream.peek_reports_filled`),
and one that reads again hides it (`nested_read_hides_fill`). A callback that stops its own
transfer leaves the check without a lane, a nil-reference fault
(`Stream.peek_fault_of_stop_in_callback`), and that is the only fault of a read that is
neither the library's own nor the callback's (`Stream.peek_fault_cases`).
-/

namespace DmaOwnership

open Machine

namespace Stream

variable {id : Nat} {s s' : Machine} {x : Half}

/-! ## The next half filled while the reader holds its half -/

/-- Circular transfer `id` runs, and its lane shows that the engine has filled half `x`, or
an error. -/
def Filled (id : Nat) (x : Half) (s : Machine) : Prop :=
  ∃ t, s.streams[id]? = some t ∧ t.stopped = false ∧
    ((LaneStatus.ofWord t.lane s.bank.flags).error = true ∨
      (LaneStatus.ofWord t.lane s.bank.flags).filled x = true)

/-- Half `x` of circular transfer `id` is filled, or the transfer has been stopped. -/
def FilledOrStopped (id : Nat) (x : Half) (s : Machine) : Prop :=
  Filled id x s ∨ ∃ t, s.streams[id]? = some t ∧ t.stopped = true

/-- A step that follows the transfer keeps its filled half filled, until it is stopped. -/
theorem FilledOrStopped.follow (h : FilledOrStopped id x s) (hf : Follows id s s') :
    FilledOrStopped id x s' := by
  rcases h with ⟨t, ht, hst, hflag⟩ | ⟨t, ht, hst⟩
  · obtain ⟨t', ht', hl, -, -⟩ := hf.stream t ht
    cases hst' : t'.stopped
    · refine Or.inl ⟨t', ht', hst', ?_⟩
      rw [hl]
      exact hflag.imp (hf.flags t ht hst).error (hf.flags t ht hst).filled
    · exact Or.inr ⟨t', ht', hst'⟩
  · obtain ⟨t', ht', -, -, hs'⟩ := hf.stream t ht
    exact Or.inr ⟨t', ht', hs' hst⟩

/-- The programs that leave circular transfer `id` to the reader that holds one of its
halves: steps that keep the ownership rules and follow the transfer, stops of any transfer,
borrows, and reads of other transfers, with callbacks of the same kind, in sequence and with
faults caught. A read of transfer `id` itself is not among them. -/
inductive Aside (id : Nat) : {α : Type} → Act α → Prop where
  | step {α : Type} {x : Act α} : Keeps Ownership x →
      (∀ s, Ownership s → Follows id s (finalState (x.run s))) → Aside id x
  | bind {α β : Type} {x : Act α} {k : α → Act β} :
      Aside id x → (∀ a, Aside id (k a)) → Aside id (x >>= k)
  | tryCatch {α : Type} {x : Act α} {handle : Fault → Act α} :
      Aside id x → (∀ e, Aside id (handle e)) → Aside id (tryCatch x handle)
  | borrow {α : Type} (id' : Nat) {f : Array UInt32 → Act α} :
      (∀ items, Aside id (f items)) → Aside id (Buffer.borrow id' f)
  | borrowMut {α : Type} (id' : Nat) {f : Array UInt32 → Act α} :
      (∀ items, Aside id (f items)) → Aside id (Buffer.borrowMut id' f)
  | peek {α : Type} {id' : Nat} {f : Array UInt32 → Half → Act α} : id' ≠ id →
      (∀ items h, Aside id (f items h)) → Aside id (peek id' f)
  | stop (id' : Nat) : Aside id (stop id')

/-- A program that leaves the transfer to its reader keeps a filled half filled, with the
ownership rules, until the transfer is stopped. -/
theorem Aside.keeps_filledOrStopped (x : Half) {α : Type} {y : Act α} (hy : Aside id y) :
    Keeps (fun s => Ownership s ∧ FilledOrStopped id x s) y := by
  have hP : ∀ {s s'}, FilledOrStopped id x s → Follows id s s' → FilledOrStopped id x s' :=
    fun h hf => h.follow hf
  induction hy with
  | step hx hf => exact keeps_with_of_follows id hP hx hf
  | bind _ _ ihx ihk => exact keeps_bind ihx ihk
  | tryCatch _ _ ihx ihh => exact keeps_tryCatch ihx ihh
  | borrow id' _ ih => exact keeps_with_borrow id hP id' ih
  | borrowMut id' _ ih => exact keeps_with_borrowMut id hP id' ih
  | @peek _ id' _ hne _ ih =>
    refine keeps_peek id' (fun s h => ⟨keeps_takeHalf id' s h.1,
      hP h.2 (follows_takeHalf_of_ne id h.1 hne)⟩) (fun h start => ?_) ih
    exact keeps_with_of_follows id hP (keeps_of_owners (owners_giveBack id' h start))
      fun _ _ => follows_giveBack id id' h start
  | stop id' =>
    exact fun s h => ⟨keeps_stop id' s h.1,
      stop_of_follows hP (fun _ t ht hst => Or.inr ⟨t, ht, hst⟩) h.1 id' h.2⟩

/-- The checks after a callback that held half `h`, once the engine has filled the half after
it, answer an overrun, or a transfer error if the lane shows one. -/
theorem run_giveBack_of_filled {h : Half} (hfill : Filled id h.other s) (start : Option Nat) :
    ∃ r, (r = .overrun ∨ r = .transferError) ∧
      (giveBack id h start).run s = .ok (some r) (s.afterRead.recorded r) := by
  obtain ⟨t, ht, hst, hflag⟩ := hfill
  -- the status read sees the flags of the bank after it, which only rose
  have hrise := Bank.rises_status t.lane s.bank
  have hw : LaneStatus.ofWord t.lane s.bank.status.1 =
      LaneStatus.ofWord t.lane s.bank.status.2.flags := rfl
  rw [run_giveBack, ht]
  simp only [hst, Bool.false_eq_true, if_false, hw]
  cases he : (LaneStatus.ofWord t.lane s.bank.status.2.flags).error
  · have hl : (LaneStatus.ofWord t.lane s.bank.status.2.flags).filled h.other = true := by
      rcases hflag with he' | hf
      · rw [hrise.error he'] at he
        cases he
      · exact hrise.filled hf
    exact ⟨.overrun, Or.inl rfl, by simp [hl]⟩
  · exact ⟨.transferError, Or.inr rfl, by simp⟩

/-- The checks after a callback that stopped its own transfer break off with the runtime's
nil-reference error, changing nothing. -/
theorem giveBack_of_stopped {h : Half} {start : Option Nat} {t : Stream}
    (ht : s.streams[id]? = some t) (hst : t.stopped = true) :
    (giveBack id h start).run s = .error .nilReference s := by
  rw [run_giveBack, ht]
  simp only [hst, if_true]

/-- A read whose callback, once the engine has filled the half after the one handed out,
goes on without reading the same transfer answers an overrun or a transfer error, never
nothing. The callback is cut where the filled half shows: `x` runs up to that point, and `k`
is the rest. -/
theorem peek_reports_filled {α β : Type} {f : Array UInt32 → Half → Act α} {x : Act β}
    {k : β → Act α} {s₁ s₂ : Machine} {h : Half} {data : Array UInt32} {start : Option Nat}
    {b : β} (ho : Ownership s) (htake : (takeHalf id).run s = .ok (.ok (h, data, start)) s₁)
    (hf : f data h = x >>= k) (hx : Client x) (hrun : x.run s₁ = .ok b s₂)
    (hfill : Filled id h.other s₂) (hk : Aside id (k b)) {o : Outcome α}
    (hpeek : (peek id f).run s = .ok o s') :
    o.refusal = some .overrun ∨ o.refusal = some .transferError := by
  -- the rules hold where the rest of the callback begins
  have ho₂ : Ownership s₂ :=
    (Client.keeps_ownership hx).of_ok ((keeps_takeHalf id).of_ok ho htake) hrun
  simp only [run_peek, htake, hf, EStateM.run_bind, hrun] at hpeek
  cases hrest : (k b).run s₂ with
  | error e s₃ =>
    simp only [hrest] at hpeek
    cases hpeek
  | ok a s₃ =>
    simp only [hrest] at hpeek
    -- the rest of the callback leaves the half filled, or the transfer stopped
    have hkeep := (Aside.keeps_filledOrStopped h.other hk).of_ok ⟨ho₂, Or.inl hfill⟩ hrest
    rcases hkeep.2 with hfill₃ | ⟨t, ht, hst⟩
    · obtain ⟨r, hr, hgive⟩ := run_giveBack_of_filled hfill₃ start
      simp only [hgive, EStateM.Result.ok.injEq] at hpeek
      rw [← hpeek.1]
      exact hr.imp (congrArg some) (congrArg some)
    · simp only [giveBack_of_stopped ht hst, reduceCtorEq] at hpeek

/-! ## Faults of a read -/

/-- The checks before a read leave the circular transfers as they are. -/
theorem streams_takeHalf (id' : Nat) (s : Machine) :
    (finalState ((takeHalf id').run s)).streams = s.streams := by
  rw [run_takeHalf]
  dsimp only
  repeat' split
  all_goals rfl

/-- Every client program keeps circular transfer `id` recorded, with the ownership rules:
transfers are only ever added, changed or stopped. -/
theorem keeps_recorded {α : Type} {x : Act α} (hx : Client x) :
    Keeps (fun s => Ownership s ∧ ∃ t, s.streams[id]? = some t) x := by
  have hP : ∀ {s s'}, (∃ t, s.streams[id]? = some t) → Follows id s s' →
      ∃ t, s'.streams[id]? = some t := fun ⟨t, ht⟩ hf =>
    let ⟨t', ht', _⟩ := hf.stream t ht
    ⟨t', ht'⟩
  refine DmaOwnership.Client.keeps_of_follows id hP
    (fun id' _ ho h => stop_of_follows hP (fun _ t ht _ => ⟨t, ht⟩) ho id' h)
    (fun id' s _ h => ?_) hx
  rw [streams_takeHalf]
  exact h

/-- A recorded transfer is refused by the checks before a read, under the ownership rules,
only once it has been stopped, and then with the library's own fault: its ring is recorded
and held while it runs. -/
theorem takeHalf_fault (ho : Ownership s) {t : Stream} (ht : s.streams[id]? = some t)
    {e : Fault} (hrun : (takeHalf id).run s = .error e s') :
    t.stopped = true ∧ e = .streamStopped := by
  rw [run_takeHalf, ht] at hrun
  cases hst : t.stopped
  · obtain ⟨r, x, hr, hw⟩ := ho.ring_of_live ht hst
    simp only [hst, Bool.false_eq_true, if_false, hr, hw] at hrun
    repeat' split at hrun
    all_goals cases hrun
  · simp only [hst, if_true, EStateM.Result.error.injEq] at hrun
    exact ⟨rfl, hrun.1.symm⟩

/-- A read hands a half out only of a transfer that runs. -/
theorem running_of_takeHalf {t : Stream} (ht : s.streams[id]? = some t)
    {v : Except Refusal (Half × Array UInt32 × Option Nat)} (hrun : (takeHalf id).run s = .ok v s') :
    t.stopped = false := by
  cases hst : t.stopped
  · rfl
  · rw [run_takeHalf, ht] at hrun
    simp [hst] at hrun

/-- The checks after a callback break off only on a transfer that is not recorded or has been
stopped, with the runtime's nil-reference error, and change nothing then. -/
theorem giveBack_fault {h : Half} {start : Option Nat} {e : Fault}
    (hrun : (giveBack id h start).run s = .error e s') :
    e = .nilReference ∧ s' = s ∧ ∀ t, s.streams[id]? = some t → t.stopped = true := by
  rw [run_giveBack] at hrun
  cases ht : s.streams[id]? with
  | none =>
    simp only [ht, EStateM.Result.error.injEq] at hrun
    exact ⟨hrun.1.symm, hrun.2.symm, fun _ h => by cases h⟩
  | some t =>
    simp only [ht] at hrun
    cases hst : t.stopped
    · simp only [hst, Bool.false_eq_true, if_false] at hrun
      repeat' split at hrun
      all_goals cases hrun
    · simp only [hst, if_true, EStateM.Result.error.injEq] at hrun
      exact ⟨hrun.1.symm, hrun.2.symm, fun t' h => by cases h; exact hst⟩

/-- A read of a recorded transfer whose callbacks are client programs breaks off in three ways
only: the transfer was stopped before the read (the library's own fault), the callback broke
off (its fault goes on), or the callback stopped the running transfer and the check after it
broke off with the runtime's nil-reference error. -/
theorem peek_fault_cases {α : Type} {f : Array UInt32 → Half → Act α} (ho : Ownership s)
    {t : Stream} (ht : s.streams[id]? = some t) (hf : ∀ data h, Client (f data h)) {e : Fault}
    (hrun : (peek id f).run s = .error e s') :
    (t.stopped = true ∧ e = .streamStopped) ∨
      (∃ data h s₁, (f data h).run s₁ = .error e s') ∨
      (e = .nilReference ∧ t.stopped = false ∧
        ∃ t', s'.streams[id]? = some t' ∧ t'.stopped = true) := by
  rw [run_peek] at hrun
  cases htake : (takeHalf id).run s with
  | error e₁ s₁ =>
    simp only [htake, EStateM.Result.error.injEq] at hrun
    obtain ⟨rfl, rfl⟩ := hrun
    exact Or.inl (takeHalf_fault ho ht htake)
  | ok v s₁ =>
    simp only [htake] at hrun
    rcases v with r | ⟨h, data, start⟩
    · cases hrun
    -- the transfer ran when its half was handed out, and the callback starts recorded
    have hst := running_of_takeHalf ht htake
    have ho₁ : Ownership s₁ := (keeps_takeHalf id).of_ok ho htake
    have ht₁ : s₁.streams[id]? = some t := by
      rw [← ht, ← streams_takeHalf id s, htake, finalState_ok]
    dsimp only at hrun
    cases hcb : (f data h).run s₁ with
    | error e₂ s₂ =>
      simp only [hcb, EStateM.Result.error.injEq] at hrun
      obtain ⟨rfl, rfl⟩ := hrun
      exact Or.inr (Or.inl ⟨data, h, s₁, hcb⟩)
    | ok a s₂ =>
      simp only [hcb] at hrun
      have hrec := (keeps_recorded (hf data h)).of_ok ⟨ho₁, t, ht₁⟩ hcb
      cases hgive : (giveBack id h start).run s₂ with
      | ok o s₃ =>
        simp only [hgive, reduceCtorEq] at hrun
      | error e₃ s₃ =>
        simp only [hgive, EStateM.Result.error.injEq] at hrun
        obtain ⟨rfl, rfl⟩ := hrun
        obtain ⟨he, rfl, hstopped⟩ := giveBack_fault hgive
        obtain ⟨t', ht'⟩ := hrec.2
        exact Or.inr (Or.inr ⟨he, hst, t', ht', hstopped t' ht'⟩)

/-- A read whose callback returns after stopping the transfer breaks off with the runtime's
nil-reference error, in the machine the callback left. -/
theorem peek_fault_of_stop_in_callback {α : Type} {f : Array UInt32 → Half → Act α}
    {s₁ s₂ : Machine} {h : Half} {data : Array UInt32} {start : Option Nat} {a : α} {t : Stream}
    (htake : (takeHalf id).run s = .ok (.ok (h, data, start)) s₁)
    (hcb : (f data h).run s₁ = .ok a s₂) (ht : s₂.streams[id]? = some t) (hst : t.stopped = true) :
    (peek id f).run s = .error .nilReference s₂ := by
  simp only [run_peek, htake, hcb, giveBack_of_stopped ht hst]

end Stream

/-! ## Fills and faults while a half is held -/

/-- The engine filling the half after the one a read handed out, before the callback returns,
is reported by the read. A program that makes no read of the transfer keeps that half filled
until the transfer is stopped; the checks after the callback then answer an overrun or a
transfer error; so a read whose callback, once the half shows filled, goes on without reading
its own transfer never answers nothing. -/
theorem fill_while_held_is_reported (id : Nat) :
    (∀ (x : Half) {γ : Type} (y : Act γ), Stream.Aside id y →
      Keeps (fun s => Ownership s ∧ Stream.FilledOrStopped id x s) y) ∧
    (∀ (h : Half) (start : Option Nat) (s : Machine), Stream.Filled id h.other s →
      ∃ r, (r = .overrun ∨ r = .transferError) ∧
        (Stream.giveBack id h start).run s = .ok (some r) (s.afterRead.recorded r)) ∧
    (∀ {α β : Type} (f : Array UInt32 → Half → Act α) (x : Act β) (k : β → Act α)
      (s s₁ s₂ s' : Machine) (h : Half) (data : Array UInt32) (start : Option Nat) (b : β)
      (o : Stream.Outcome α), Ownership s →
      (Stream.takeHalf id).run s = .ok (.ok (h, data, start)) s₁ → f data h = x >>= k →
      Client x → x.run s₁ = .ok b s₂ → Stream.Filled id h.other s₂ → Stream.Aside id (k b) →
      (Stream.peek id f).run s = .ok o s' →
        o.refusal = some .overrun ∨ o.refusal = some .transferError) :=
  ⟨fun x _ _ hy => Stream.Aside.keeps_filledOrStopped x hy,
    fun _ start _ hfill => Stream.run_giveBack_of_filled hfill start,
    fun _ _ _ _ _ _ _ _ _ _ _ _ ho htake hf hx hrun hfill hk hpeek =>
      Stream.peek_reports_filled ho htake hf hx hrun hfill hk hpeek⟩

/-- With the ring on lane 5 holding its first half, a callback that has the engine fill the
second half is called back and its read answers an overrun or a transfer error. -/
theorem fill_during_callback_overruns :
    let f : Array UInt32 → Half → Act Unit := fun _ _ =>
      modifyBank (·.raise ⟨4⟩ .complete) >>= fun _ => pure ()
    ∃ o s', (Stream.peek 0 f).run (ringHalfFilled ⟨4⟩) = .ok o s' ∧ o.result = some () ∧
      (o.refusal = some .overrun ∨ o.refusal = some .transferError) := by
  dsimp only
  have hs := Client.keeps_ownership (.raise ⟨4⟩ .half) _ (ownership_ringStarted ⟨4⟩)
  refine ⟨_, _, rfl, rfl, (fill_while_held_is_reported 0).2.2
    (fun _ _ => modifyBank (·.raise ⟨4⟩ .complete) >>= fun _ => pure ()) _ (fun _ => pure ())
    (ringHalfFilled ⟨4⟩) _ _ _ _ _ _ () _ hs rfl rfl (.raise _ _) rfl ⟨_, rfl, rfl, .inr rfl⟩
    (.step (keeps_pure ()) fun s _ => Stream.Follows.refl s) rfl⟩

/-- A machine in which circular transfer 0 runs on lane 1 over a ring of four bytes and the
engine has filled the first half, made from a fresh machine by the library's own operations. -/
def firstHalfFilled : Machine :=
  finalState ((do
    let r ← addRing { width := .w8, items := #[1, 2, 3, 4] }
    let p ← addPeripheral { address := 1 }
    let _ ← Stream.start ⟨0⟩ r p
    modifyBank (·.raise ⟨0⟩ .half) : Act Unit).run {})

/-- A read of its own transfer in the callback hides the engine's fill of the next half: the
read hands out the first half, the engine fills the second, the nested read takes the second
half and clears its flag, and the outer read answers nothing. -/
theorem nested_read_hides_fill :
    ∃ s₁ s₂ s', (Stream.takeHalf 0).run firstHalfFilled = .ok (.ok (.first, #[1, 2], none)) s₁ ∧
      (modifyBank (·.raise ⟨0⟩ .complete)).run s₁ = .ok () s₂ ∧ Stream.Filled 0 Half.first.other s₂ ∧
      (Stream.peek 0 fun _ _ => modifyBank (·.raise ⟨0⟩ .complete) >>= fun _ =>
          Stream.peek 0 fun _ _ => pure ()).run firstHalfFilled =
        .ok ⟨some ⟨some (), none⟩, none⟩ s' :=
  ⟨_, _, _, rfl, rfl, ⟨_, rfl, rfl, Or.inr rfl⟩, rfl⟩

-- the same callback without the nested read: the check after it reports the fill
example : ∃ s', (Stream.peek 0 fun _ _ => modifyBank (·.raise ⟨0⟩ .complete)).run
    firstHalfFilled = .ok ⟨some (), some .overrun⟩ s' :=
  ⟨_, rfl⟩

/-- The operations that call back break off with a fault that is neither the library's own
nor their callback's only when a read's callback stopped the transfer it reads: a borrow
breaks off only with its conflict or its callback's fault, and under the ownership rules a
read of a recorded circular transfer faults after its callback only when the callback
stopped it, with the runtime's nil-reference error. -/
theorem read_runtime_fault_only_after_own_stop (id : Nat) :
    (∀ {α : Type} (f : Array UInt32 → Act α) (s s' : Machine) (b : Buffer) (e : Fault),
      s.buffers[id]? = some b → (Buffer.borrow id f).run s = .error e s' →
        (b.writing = true ∧ e = .bufferWritten) ∨ ∃ s₁ s₂, (f b.items).run s₁ = .error e s₂) ∧
    (∀ {α : Type} (f : Array UInt32 → Act α) (s s' : Machine) (b : Buffer) (e : Fault),
      s.buffers[id]? = some b → (Buffer.borrowMut id f).run s = .error e s' →
        (b.canWrite = false ∧ e = .bufferShared) ∨ ∃ s₁ s₂, (f b.items).run s₁ = .error e s₂) ∧
    (∀ (s s' : Machine) (t : Stream) (e : Fault), Ownership s → s.streams[id]? = some t →
      (Stream.takeHalf id).run s = .error e s' → t.stopped = true ∧ e = .streamStopped) ∧
    (∀ (h : Half) (start : Option Nat) (s s' : Machine) (e : Fault),
      (Stream.giveBack id h start).run s = .error e s' →
        e = .nilReference ∧ s' = s ∧ ∀ t, s.streams[id]? = some t → t.stopped = true) ∧
    (∀ {α : Type} (f : Array UInt32 → Half → Act α) (s s' : Machine) (t : Stream) (e : Fault),
      Ownership s → s.streams[id]? = some t → (∀ data h, Client (f data h)) →
      (Stream.peek id f).run s = .error e s' →
        (t.stopped = true ∧ e = .streamStopped) ∨ (∃ data h s₁, (f data h).run s₁ = .error e s') ∨
        (e = .nilReference ∧ t.stopped = false ∧
          ∃ t', s'.streams[id]? = some t' ∧ t'.stopped = true)) ∧
    (∀ {α : Type} (f : Array UInt32 → Half → Act α) (s s₁ s₂ : Machine) (h : Half)
      (data : Array UInt32) (start : Option Nat) (a : α) (t : Stream),
      (Stream.takeHalf id).run s = .ok (.ok (h, data, start)) s₁ → (f data h).run s₁ = .ok a s₂ →
      s₂.streams[id]? = some t → t.stopped = true →
        (Stream.peek id f).run s = .error .nilReference s₂) ∧
    Fault.message .nilReference = "runtime error: invalid memory address or nil pointer dereference" ∧
    Fault.message .streamStopped = "dma: use of a circular transfer after Stop" ∧
    Fault.message .bufferWritten = "dma: buffer is mutably borrowed or written by DMA" ∧
    Fault.message .bufferShared = "dma: buffer is borrowed or in use by DMA" :=
  ⟨fun _ _ _ _ _ hb hrun => (Buffer.borrow_fault _ _ _ hb hrun).imp_right fun ⟨s₁, h⟩ => ⟨_, s₁, h⟩,
    fun _ _ _ _ _ hb hrun =>
      (Buffer.borrowMut_fault _ _ _ hb hrun).imp_right fun ⟨s₁, h⟩ => ⟨_, s₁, h⟩,
    fun _ _ _ _ ho ht hrun => Stream.takeHalf_fault ho ht hrun,
    fun _ _ _ _ _ hrun => Stream.giveBack_fault hrun,
    fun _ _ _ _ _ ho ht hf hrun => Stream.peek_fault_cases ho ht hf hrun,
    fun _ _ _ _ _ _ _ _ _ htake hcb ht hst => Stream.peek_fault_of_stop_in_callback htake hcb ht hst,
    rfl, rfl, rfl, rfl⟩

/-- With the ring on lane 5 holding its first half, a callback that stops the transfer makes
the read break off with the runtime's nil-reference error, the transfer stopped. -/
theorem stop_inside_read_faults :
    let f : Array UInt32 → Half → Act Unit := fun _ _ => Stream.stop 0 >>= fun _ => pure ()
    ∃ s', (Stream.peek 0 f).run (ringHalfFilled ⟨4⟩) = .error .nilReference s' ∧
      ∃ t, s'.streams[0]? = some t ∧ t.stopped = true := by
  dsimp only
  refine ⟨_, (read_runtime_fault_only_after_own_stop 0).2.2.2.2.2.1 _ _ _ _ _ _ _ () _
    rfl rfl rfl rfl, _, rfl, rfl⟩

/-- A callback that stops its own transfer makes the read break off with the runtime's
nil-reference error. -/
theorem stop_in_own_callback_faults :
    ∃ s', (Stream.peek 0 fun _ _ => Stream.stop 0).run firstHalfFilled = .error .nilReference s' :=
  ⟨_, rfl⟩

end DmaOwnership
