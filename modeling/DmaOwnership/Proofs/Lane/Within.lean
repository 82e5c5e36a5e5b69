import DmaOwnership.Proofs.Spec.Transfer
import DmaOwnership.Proofs.Spec.Stream
/-!
# An operation on one lane leaves the other lanes

All lanes share the status word and the clear register, and scheduled events fall due at any
status read. `Machine.Within l p s s'` says that `s'` differs from `s`, once the events of the
status reads made in between are raised, only in lane `l`'s registers, flags and settings and
in the parts `p` the operation works on; the bank's count of reads fixes how many reads that
is. Each operation through a lane (`Machine.OnLane`) is checked once against its equation, and
`Within` is closed under composition (`Within.trans`). The library's clears for lane `l` take
away bits of `l`'s nibble only (`Lane.widenMask_clears_nibble`).
-/

namespace DmaOwnership

/-- The memory and the peripheral an operation works on, if any. -/
structure Parts where
  /-- The buffer. -/
  buffer : Option Nat := none
  /-- The ring. -/
  ring : Option Nat := none
  /-- The peripheral. -/
  peripheral : Option Nat := none

namespace Machine

/-- `s'` differs from `s` only on lane `l` and in the parts `p`, once the events that fall
due at the status reads made in between are raised: its bank agrees outside `l` with the
bank of `s` after as many reads, the other lanes keep their settings, and the buffers,
rings and peripherals other than those of `p` are as they were. -/
structure Within (l : Lane) (p : Parts) (s s' : Machine) : Prop where
  /-- The bank agrees outside `l` with the bank after some reads. -/
  bank : ∃ k, Bank.AgreeOff l (s.bank.readN k) s'.bank
  /-- The other lanes keep their settings. -/
  lanes : ∀ m, m ≠ l → s'.laneState m = s.laneState m
  /-- The buffers outside `p` are as they were. -/
  buffers : ∀ j, p.buffer ≠ some j → s'.buffers[j]? = s.buffers[j]?
  /-- The rings outside `p` are as they were. -/
  rings : ∀ j, p.ring ≠ some j → s'.rings[j]? = s.rings[j]?
  /-- The peripherals outside `p` are as they were. -/
  peripherals : ∀ j, p.peripheral ≠ some j → s'.peripherals[j]? = s.peripherals[j]?

namespace Within

variable {l : Lane} {p : Parts} {s s' s'' : Machine}

@[refl] theorem refl (s : Machine) : Within l p s s :=
  ⟨⟨0, Bank.AgreeOff.refl _⟩, fun _ _ => rfl, fun _ _ => rfl, fun _ _ => rfl, fun _ _ => rfl⟩

/-- Two steps that stay within lane `l` and parts `p` make one: the reads of the second
step raise, outside `l`, what they would have raised on the first machine. -/
theorem trans (h : Within l p s s') (h' : Within l p s' s'') : Within l p s s'' := by
  obtain ⟨j, hj⟩ := h.bank
  obtain ⟨k, hk⟩ := h'.bank
  refine ⟨⟨j + k, ?_⟩, fun m hm => (h'.lanes m hm).trans (h.lanes m hm),
    fun i hi => (h'.buffers i hi).trans (h.buffers i hi),
    fun i hi => (h'.rings i hi).trans (h.rings i hi),
    fun i hi => (h'.peripherals i hi).trans (h.peripherals i hi)⟩
  rw [← Bank.readN_add]
  exact (hj.readN k).trans hk

/-- Reads of the status word change the bank only by the events falling due, and
counting touches no lane: they stay within every lane. -/
theorem reads (k : Nat) (c : Counters) (s : Machine) :
    Within l p s { s with bank := s.bank.readN k, counters := c } :=
  ⟨⟨k, Bank.AgreeOff.refl _⟩, fun _ _ => rfl, fun _ _ => rfl, fun _ _ => rfl, fun _ _ => rfl⟩

theorem afterRead (s : Machine) : Within l p s s.afterRead :=
  reads 1 s.counters s

/-- Writing lane `l`'s control word, and a transfer's record, stay within the lane. -/
theorem setControl (v : UInt32) (streams : Array Stream) (s : Machine) :
    Within l p s { s with bank := s.bank.setControl l v, streams } :=
  ⟨⟨0, (Bank.agreeOff_setControl _ l v).symm⟩, fun _ _ => rfl, fun _ _ => rfl, fun _ _ => rfl,
    fun _ _ => rfl⟩

end Within

/-- `x` stays within lane `l` and parts `p`, from every machine. -/
def StaysWithin {α : Type} (l : Lane) (p : Parts) (x : Act α) : Prop :=
  ∀ s, Within l p s (finalState (x.run s))

variable {l : Lane} {p : Parts} {s s' : Machine}

/-- Another lane's settings are left by writing lane `l`'s. -/
theorem laneState_of_ne {st : LaneState} (hl : s'.lanes = l.setEntry s.lanes st) (m : Lane)
    (hm : m ≠ l) : s'.laneState m = s.laneState m := by
  rw [laneState, hl]
  exact Lane.entry_setEntry_of_ne _ _ _ _ (Ne.symm hm)

/-- Changing the entry of a part leaves every other entry. -/
theorem getElem?_modify_of_part {α : Type} {xs : Array α} {j : Nat} {f : α → α}
    {o : Option Nat} (ho : o = some j) (i : Nat) (hi : o ≠ some i) : (xs.modify j f)[i]? = xs[i]? := by
  rw [Array.getElem?_modify, if_neg]
  rintro rfl
  exact hi ho

/-! ## Operations of a lane -/

theorem configure_within (pr : Priority) : StaysWithin l p (l.configure pr) := fun s => by
  rw [Lane.run_configure]
  exact ⟨⟨0, Bank.AgreeOff.refl _⟩, laneState_of_ne rfl, fun _ _ => rfl, fun _ _ => rfl,
    fun _ _ => rfl⟩

theorem listen_within (e : Event) : StaysWithin l p (l.listen e) := fun s => by
  rw [Lane.run_listen]
  exact ⟨⟨0, (Bank.agreeOff_setControl _ l _).symm⟩, laneState_of_ne rfl, fun _ _ => rfl,
    fun _ _ => rfl, fun _ _ => rfl⟩

theorem unlisten_within (e : Event) : StaysWithin l p (l.unlisten e) := fun s => by
  rw [Lane.run_unlisten]
  exact ⟨⟨0, (Bank.agreeOff_setControl _ l _).symm⟩, laneState_of_ne rfl, fun _ _ => rfl,
    fun _ _ => rfl, fun _ _ => rfl⟩

/-- Programming lane `l` and then writing its control word reach no other lane. -/
theorem agreeOff_start (b : Bank) (pa : UInt64) (r : MemRef) (n w v : UInt32) :
    Bank.AgreeOff l (b.readN 0) ((b.program l pa r n w).setControl l v) :=
  ((Bank.agreeOff_setControl _ l v).trans (Bank.agreeOff_program b l pa r n w)).symm

/-- A one-shot transfer starts on its lane, with its buffer and its peripheral. -/
theorem startTransfer_within (dir : Direction) (buf periph : Nat) :
    StaysWithin l { buffer := some buf, peripheral := some periph }
      (Transfer.start dir l buf periph) := fun s => by
  rw [Transfer.run_start]
  split
  · exact Within.refl s
  cases hb : s.buffers[buf]? with
  | none => exact Within.refl s
  | some b =>
    dsimp only
    split
    · exact Within.refl s
    cases hl : dir.lock b with
    | none => exact Within.refl s
    | some b' =>
      dsimp only
      cases hp : s.peripherals[periph]? with
      | none =>
        exact ⟨⟨0, Bank.AgreeOff.refl _⟩, fun _ _ => rfl, getElem?_modify_of_part rfl,
          fun _ _ => rfl, fun _ _ => rfl⟩
      | some pp =>
        exact ⟨⟨0, agreeOff_start _ _ _ _ _ _⟩, laneState_of_ne rfl, getElem?_modify_of_part rfl,
          fun _ _ => rfl, getElem?_modify_of_part rfl⟩

/-- A circular transfer starts on its lane, with its ring and its peripheral. -/
theorem startStream_within (ring periph : Nat) :
    StaysWithin l { ring := some ring, peripheral := some periph } (Stream.start l ring periph) :=
  fun s => by
  rw [Stream.run_start]
  split
  · exact Within.refl s
  cases hr : s.rings[ring]? with
  | none => exact Within.refl s
  | some r =>
    dsimp only
    split
    · exact Within.refl s
    split
    · exact Within.refl s
    cases hp : s.peripherals[periph]? with
    | none =>
      exact ⟨⟨0, Bank.AgreeOff.refl _⟩, fun _ _ => rfl, fun _ _ => rfl,
        getElem?_modify_of_part rfl, fun _ _ => rfl⟩
    | some pp =>
      exact ⟨⟨0, agreeOff_start _ _ _ _ _ _⟩, laneState_of_ne rfl, fun _ _ => rfl,
        getElem?_modify_of_part rfl, getElem?_modify_of_part rfl⟩

/-! ## Operations of a one-shot transfer -/

theorem inUse_within : StaysWithin l p l.inUse := fun s => by
  rw [Lane.run_inUse]
  exact Within.refl s

theorem remaining_within : StaysWithin l p l.remaining := fun s => by
  rw [Lane.run_remaining]
  exact Within.refl s

/-- Asking whether a transfer is done reads the status word and changes nothing else, so
it stays within every lane. -/
theorem isDone_within (id : Nat) : StaysWithin l p (Transfer.isDone id) := fun s => by
  rw [Transfer.run_isDone]
  cases s.transfers[id]? with
  | none => exact Within.refl s
  | some t =>
    dsimp only
    split
    · exact Within.refl s
    · rw [Transfer.run_check]
      exact Within.afterRead s

theorem poll_within (id : Nat) : StaysWithin l p (Transfer.poll id) := fun s => by
  rw [Transfer.run_poll]
  cases s.transfers[id]? with
  | none => exact Within.refl s
  | some t =>
    dsimp only
    split
    · exact Within.refl s
    · exact Within.afterRead s

theorem transferRemaining_within (id : Nat) : StaysWithin l p (Transfer.remaining id) :=
  fun s => by
  rw [Transfer.run_remaining]
  cases s.transfers[id]? with
  | none => exact Within.refl s
  | some t =>
    dsimp only
    split <;> exact Within.refl s

/-- Handing back a transfer that ran on lane `l`, after the reads of its wait, with a
clear that reaches no other lane. -/
theorem handBack_within {t : Transfer} (hl : t.lane = l) {mask : UInt32}
    (hmask : ∀ b : Bank, Bank.AgreeOff l (b.clear mask) b) (k : Nat) (c₀ c : Counters)
    (id : Nat) (s : Machine) :
    Within l { buffer := some t.buffer, peripheral := some t.peripheral } s
      ({ s with bank := s.bank.readN k, counters := c₀ }.handBack id t mask c) := by
  subst hl
  exact ⟨⟨k, ((Bank.agreeOff_setControl _ t.lane _).trans (hmask _)).symm⟩, laneState_of_ne rfl,
    getElem?_modify_of_part rfl, fun _ _ => rfl, getElem?_modify_of_part rfl⟩

/-- A wait on a transfer holding lane `l` reads the status word until it settles, then
hands back the lane, the buffer and the peripheral: it stays within them. -/
theorem wait_within {id : Nat} {t : Transfer} (ht : s.transfers[id]? = some t)
    (hl : t.lane = l) :
    Within l { buffer := some t.buffer, peripheral := some t.peripheral } s
      (finalState ((Transfer.wait id).run s)) := by
  rcases Transfer.wait_final id s with heq | ⟨t', k, c, ht', -, hend⟩
  · rw [heq]
  rw [ht] at ht'
  cases ht'
  rcases hend with heq | ⟨mask, c', hmask, heq⟩ <;> rw [heq]
  · exact Within.reads k _ s
  · exact handBack_within hl (hl ▸ Transfer.agreeOff_clear_handBack hmask) k _ _ id s

/-! ## Operations of a circular transfer -/

/-- The clear after a half was read takes away that half's flag, in lane `l`'s nibble. -/
theorem agreeOff_clear_filledFlag (b : Bank) (l : Lane) (h : Half) :
    Bank.AgreeOff l (b.clear (l.filledFlag h)) b := by
  cases h
  · exact Bank.agreeOff_clear_halfFlag b l
  · exact Bank.agreeOff_clear_completeFlag b l

/-- A refused read makes its status read and counts the refusal. -/
theorem Within.recorded (s : Machine) (r : Refusal) : Within l p s (s.afterRead.recorded r) :=
  Within.reads 1 _ s

/-- The checks before a read's callback, on a transfer holding lane `l`, stay within the
lane and the transfer's ring. -/
theorem takeHalf_within {id : Nat} {t : Stream} (ht : s.streams[id]? = some t)
    (hl : t.lane = l) : Within l { ring := some t.ring } s (finalState ((Stream.takeHalf id).run s)) := by
  rw [Stream.run_takeHalf, ht]
  dsimp only
  split
  · exact Within.refl s
  cases s.rings[t.ring]? with
  | none => exact Within.refl s
  | some r =>
    dsimp only
    cases r.phase.waiting with
    | none => exact Within.refl s
    | some h =>
      dsimp only
      split
      · exact Within.recorded s _
      split
      · exact Within.recorded s _
      split
      · exact Within.recorded s _
      subst hl
      exact ⟨⟨1, (agreeOff_clear_filledFlag _ t.lane h).symm⟩, fun _ _ => rfl, fun _ _ => rfl,
        getElem?_modify_of_part rfl, fun _ _ => rfl⟩

/-- The checks after a read's callback make one status read and count the outcome. -/
theorem giveBack_within (id : Nat) (h : Half) (start : Option Nat) :
    StaysWithin l p (Stream.giveBack id h start) := fun s => by
  rw [Stream.run_giveBack]
  cases s.streams[id]? with
  | none => exact Within.refl s
  | some t =>
    dsimp only
    split
    · exact Within.refl s
    split
    · exact Within.recorded s _
    split
    · exact Within.recorded s _
    · exact Within.reads 1 _ s

/-- A read on a transfer holding lane `l`, with a callback that itself stays within the
lane and the ring, stays within them. -/
theorem peek_within {α : Type} {id : Nat} {t : Stream} (ht : s.streams[id]? = some t)
    (hl : t.lane = l) {f : Array UInt32 → Half → Act α}
    (hf : ∀ data h, StaysWithin l { ring := some t.ring } (f data h)) :
    Within l { ring := some t.ring } s (finalState ((Stream.peek id f).run s)) := by
  have h₁ := takeHalf_within ht hl
  rw [Stream.run_peek]
  cases hr₁ : (Stream.takeHalf id).run s with
  | error e s₁ =>
    rw [hr₁] at h₁
    exact h₁
  | ok v s₁ =>
    rw [hr₁] at h₁
    rcases v with r | ⟨h, data, start⟩
    · exact h₁
    dsimp only
    -- the callback and the checks after it run from where the checks before it ended
    have h₂ := h₁.trans (hf data h s₁)
    cases hr₂ : (f data h).run s₁ with
    | error e s₂ =>
      rw [hr₂] at h₂
      exact h₂
    | ok a s₂ =>
      rw [hr₂] at h₂
      dsimp only
      have h₃ := h₂.trans (giveBack_within id h start s₂)
      cases hr₃ : (Stream.giveBack id h start).run s₂ with
      | error e s₃ =>
        rw [hr₃] at h₃
        exact h₃
      | ok o s₃ =>
        rw [hr₃] at h₃
        exact h₃

theorem pause_within {id : Nat} {t : Stream} (ht : s.streams[id]? = some t) (hl : t.lane = l) :
    Within l p s (finalState ((Stream.pause id).run s)) := by
  rw [Stream.run_pause, ht]
  dsimp only
  split
  · exact Within.refl s
  subst hl
  exact Within.setControl _ _ s

theorem resume_within {id : Nat} {t : Stream} (ht : s.streams[id]? = some t) (hl : t.lane = l) :
    Within l p s (finalState ((Stream.resume id).run s)) := by
  rw [Stream.run_resume, ht]
  dsimp only
  split
  · exact Within.refl s
  subst hl
  exact Within.setControl _ _ s

theorem streamRemaining_within (id : Nat) : StaysWithin l p (Stream.remaining id) := fun s => by
  rw [Stream.run_remaining]
  cases s.streams[id]? with
  | none => exact Within.refl s
  | some t =>
    dsimp only
    split <;> exact Within.refl s

theorem configureStream_within (id : Nat) (maxRead : Int) :
    StaysWithin l p (Stream.configure id maxRead) := fun s => by
  rw [Stream.run_configure]
  exact ⟨⟨0, Bank.AgreeOff.refl _⟩, fun _ _ => rfl, fun _ _ => rfl, fun _ _ => rfl,
    fun _ _ => rfl⟩

/-- Stopping a transfer that holds lane `l` hands back the lane, the ring and the
peripheral: it stays within them. -/
theorem stop_within {id : Nat} {t : Stream} (ht : s.streams[id]? = some t) (hl : t.lane = l) :
    Within l { ring := some t.ring, peripheral := some t.peripheral } s
      (finalState ((Stream.stop id).run s)) := by
  rw [Stream.run_stop, ht]
  dsimp only
  split
  · exact Within.refl s
  subst hl
  exact ⟨⟨0, ((Bank.agreeOff_clear_flags _ t.lane).trans
    (Bank.agreeOff_setControl _ t.lane _)).symm⟩, laneState_of_ne rfl, fun _ _ => rfl,
    getElem?_modify_of_part rfl, getElem?_modify_of_part rfl⟩

theorem read_within {α : Type} {id : Nat} {t : Stream} (ht : s.streams[id]? = some t)
    (hl : t.lane = l) {f : Array UInt32 → Act α}
    (hf : ∀ data, StaysWithin l { ring := some t.ring } (f data)) :
    Within l { ring := some t.ring } s (finalState ((Stream.read id f).run s)) :=
  peek_within ht hl fun data _ => hf data

/-! ## The operations made through a lane -/

/-- The operations made through lane `l`, or through a transfer that holds it in `s`, with
the parts each works on. A read's callback is one that itself stays within the lane and
the transfer's ring. -/
inductive OnLane (l : Lane) (s : Machine) : Parts → {α : Type} → Act α → Prop where
  | configure (pr : Priority) : OnLane l s {} (l.configure pr)
  | listen (e : Event) : OnLane l s {} (l.listen e)
  | unlisten (e : Event) : OnLane l s {} (l.unlisten e)
  | inUse : OnLane l s {} l.inUse
  | remaining : OnLane l s {} l.remaining
  | startTransfer (dir : Direction) (buf periph : Nat) :
      OnLane l s { buffer := some buf, peripheral := some periph } (Transfer.start dir l buf periph)
  | startStream (ring periph : Nat) :
      OnLane l s { ring := some ring, peripheral := some periph } (Stream.start l ring periph)
  | isDone {id : Nat} {t : Transfer} (ht : s.transfers[id]? = some t) (hl : t.lane = l) :
      OnLane l s {} (Transfer.isDone id)
  | poll {id : Nat} {t : Transfer} (ht : s.transfers[id]? = some t) (hl : t.lane = l) :
      OnLane l s {} (Transfer.poll id)
  | transferRemaining {id : Nat} {t : Transfer} (ht : s.transfers[id]? = some t)
      (hl : t.lane = l) : OnLane l s {} (Transfer.remaining id)
  | wait {id : Nat} {t : Transfer} (ht : s.transfers[id]? = some t) (hl : t.lane = l) :
      OnLane l s { buffer := some t.buffer, peripheral := some t.peripheral } (Transfer.wait id)
  | peek {α : Type} {id : Nat} {t : Stream} (ht : s.streams[id]? = some t) (hl : t.lane = l)
      (f : Array UInt32 → Half → Act α)
      (hf : ∀ data h, StaysWithin l { ring := some t.ring } (f data h)) :
      OnLane l s { ring := some t.ring } (Stream.peek id f)
  | read {α : Type} {id : Nat} {t : Stream} (ht : s.streams[id]? = some t) (hl : t.lane = l)
      (f : Array UInt32 → Act α) (hf : ∀ data, StaysWithin l { ring := some t.ring } (f data)) :
      OnLane l s { ring := some t.ring } (Stream.read id f)
  | pause {id : Nat} {t : Stream} (ht : s.streams[id]? = some t) (hl : t.lane = l) :
      OnLane l s {} (Stream.pause id)
  | resume {id : Nat} {t : Stream} (ht : s.streams[id]? = some t) (hl : t.lane = l) :
      OnLane l s {} (Stream.resume id)
  | streamRemaining {id : Nat} {t : Stream} (ht : s.streams[id]? = some t) (hl : t.lane = l) :
      OnLane l s {} (Stream.remaining id)
  | configureStream {id : Nat} {t : Stream} (ht : s.streams[id]? = some t) (hl : t.lane = l)
      (maxRead : Int) : OnLane l s {} (Stream.configure id maxRead)
  | stop {id : Nat} {t : Stream} (ht : s.streams[id]? = some t) (hl : t.lane = l) :
      OnLane l s { ring := some t.ring, peripheral := some t.peripheral } (Stream.stop id)

/-- Every operation made through lane `l` stays within the lane and its parts. -/
theorem OnLane.within {α : Type} {x : Act α} (h : OnLane l s p x) :
    Within l p s (finalState (x.run s)) := by
  cases h with
  | configure pr => exact configure_within pr s
  | listen e => exact listen_within e s
  | unlisten e => exact unlisten_within e s
  | inUse => exact inUse_within s
  | remaining => exact remaining_within s
  | startTransfer dir buf periph => exact startTransfer_within dir buf periph s
  | startStream ring periph => exact startStream_within ring periph s
  | isDone _ _ => exact isDone_within _ s
  | poll _ _ => exact poll_within _ s
  | transferRemaining _ _ => exact transferRemaining_within _ s
  | wait ht hl => exact wait_within ht hl
  | peek ht hl f hf => exact peek_within ht hl hf
  | read ht hl f hf => exact read_within ht hl hf
  | pause ht hl => exact pause_within ht hl
  | resume ht hl => exact resume_within ht hl
  | streamRemaining _ _ => exact streamRemaining_within _ s
  | configureStream _ _ maxRead => exact configureStream_within _ maxRead s
  | stop ht hl => exact stop_within ht hl

end Machine

/-- The masks the library clears for lane `l`, widened as the clear register widens
them, reach bits of `l`'s nibble only. -/
theorem Lane.widenMask_clears_nibble {l : Lane} {mask : UInt32}
    (hm : mask ∈ [l.flags, l.completeFlag, l.halfFlag]) (k : Nat)
    (hk : (Bank.widenMask mask).toBitVec.getLsbD k = true) : k / 4 = l.index.val := by
  rw [Bank.widenMask_getLsbD] at hk
  simp only [List.mem_cons, List.not_mem_nil, or_false] at hm
  rcases hm with rfl | rfl | rfl
  · simpa only [Bank.clearedBy_flags, decide_eq_true_eq] using hk
  · simp only [Bank.clearedBy_completeFlag, decide_eq_true_eq] at hk
    omega
  · simp only [Bank.clearedBy_halfFlag, decide_eq_true_eq] at hk
    omega

open Machine in
/-- An operation made through lane `l`, or through a transfer holding it, changes nothing
of the other lanes, buffers, rings and peripherals but what the events falling due at its
status reads change; and every clear the library makes for lane `n` reaches, once
widened, bits `4n … 4n+3` only. -/
theorem lane_operation_frame :
    (∀ (l : Lane) (s : Machine) (p : Parts) {α : Type} (x : Act α), OnLane l s p x →
      Within l p s (finalState (x.run s))) ∧
    (∀ (l : Lane), ∀ mask ∈ [l.flags, l.completeFlag, l.halfFlag], ∀ k,
      (Bank.widenMask mask).toBitVec.getLsbD k = true →
        4 * l.index.val ≤ k ∧ k < 4 * l.index.val + 4) := by
  refine ⟨fun l s p α x h => h.within, fun l mask hm k hk => ?_⟩
  have h := Lane.widenMask_clears_nibble hm k hk
  omega

open Machine in
/-- A wait on a write on lane 1 whose transfer-complete is up stays within the lane, the
write's buffer and its peripheral; the clear of transfer-complete on lane 3 reaches bit 9. -/
theorem completed_write_stays_on_lane :
    let s := finalState ((addBuffer { width := .w8, items := #[1, 2] } >>= fun _ =>
      addPeripheral { address := 64 } >>= fun _ => Transfer.start .toPeripheral ⟨0⟩ 0 0 >>= fun _ =>
        modifyBank (·.raise ⟨0⟩ .complete)).run (finalState (takeLanes.run ({} : Machine))))
    s.transfers[0]? = some ⟨⟨0⟩, 0, 0, .toPeripheral, false⟩ ∧
    Within ⟨0⟩ { buffer := some 0, peripheral := some 0 } s (finalState ((Transfer.wait 0).run s)) ∧
    (Bank.widenMask (Lane.completeFlag ⟨2⟩)).toBitVec.getLsbD 9 = true ∧
    4 * (⟨2⟩ : Lane).index.val ≤ 9 ∧ 9 < 4 * (⟨2⟩ : Lane).index.val + 4 := by
  dsimp only
  have hk : (Bank.widenMask (Lane.completeFlag ⟨2⟩)).toBitVec.getLsbD 9 = true := by decide
  exact ⟨rfl, lane_operation_frame.1 ⟨0⟩ _ _ _ (.wait (t := ⟨⟨0⟩, 0, 0, .toPeripheral, false⟩) rfl rfl),
    hk, lane_operation_frame.2 ⟨2⟩ _ (by simp) 9 hk⟩


end DmaOwnership
