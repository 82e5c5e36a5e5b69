import DmaOwnership.Proofs.Ownership.Owners
import DmaOwnership.Proofs.Client
import DmaOwnership.Proofs.Spec.Borrow
import DmaOwnership.Proofs.Spec.Transfer
import DmaOwnership.Proofs.Spec.Stream
/-!
# Every client program keeps the ownership rules

`Machine.owners` reads off who holds what in the machine, and `Machine.Ownership` says
that it follows the rules of `Owners.Valid`. The machine after the lanes are split
follows them, and so does every machine a client program leaves, whether the program
returns or breaks off.
-/

namespace DmaOwnership

/-- A change of one entry that a view of the entries does not see leaves the view. -/
theorem map_modify_eq {α β : Type} (xs : Array α) (i : Nat) {f : α → α} {g : α → β}
    (h : ∀ x, g (f x) = g x) : (xs.modify i f).map g = xs.map g := by
  apply Array.ext_getElem?
  intro j
  rw [Array.getElem?_map, Array.getElem?_map, Array.getElem?_modify]
  split
  · cases xs[j]? <;> simp [h]
  · rfl

/-- A change of one entry is seen by a view as the change it makes to the view. -/
theorem map_modify {α β : Type} (xs : Array α) (i : Nat) {f : α → α} {g : α → β} {f' : β → β}
    (h : ∀ x, g (f x) = f' (g x)) : (xs.modify i f).map g = (xs.map g).modify i f' := by
  apply Array.ext_getElem?
  intro j
  rw [Array.getElem?_map, Array.getElem?_modify, Array.getElem?_modify, Array.getElem?_map]
  split
  · cases xs[j]? <;> simp [h]
  · rfl

namespace Machine

/-- Who holds what in the machine. -/
def owners (s : Machine) : Owners where
  owned l := (s.laneState l).owned
  enabled l := Control.enabled (s.bank.control l)
  transfers := s.transfers
  streams := s.streams.map Stream.hold
  access := s.buffers.map Buffer.access
  phases := s.rings.map Ring.phase

/-- Every lane, buffer and ring of the machine is held as the rules say. -/
def Ownership (s : Machine) : Prop := s.owners.Valid

variable {s s' : Machine}

/-! ## What the rules read -/

/-- The rules read only the held marks, the enable bits, the transfers and how buffers and
rings are held. -/
theorem owners_eq (hown : ∀ m, (s'.laneState m).owned = (s.laneState m).owned)
    (hen : ∀ m, Control.enabled (s'.bank.control m) = Control.enabled (s.bank.control m))
    (ht : s'.transfers = s.transfers) (hs : s'.streams.map Stream.hold = s.streams.map Stream.hold)
    (ha : s'.buffers.map Buffer.access = s.buffers.map Buffer.access)
    (hp : s'.rings.map Ring.phase = s.rings.map Ring.phase) : s'.owners = s.owners := by
  unfold owners
  rw [ht, hs, ha, hp]
  congr 1
  · funext m
    exact hown m
  · funext m
    exact hen m

/-- An operation that only reads registers, counts, or changes what the rules do not read
leaves who holds what. -/
theorem owners_of_reads (hc : ∀ m, s'.bank.control m = s.bank.control m)
    (hl : s'.lanes = s.lanes) (ht : s'.transfers = s.transfers) (hs : s'.streams = s.streams)
    (hb : s'.buffers = s.buffers) (hr : s'.rings = s.rings) : s'.owners = s.owners :=
  owners_eq (fun m => by rw [laneState, hl]; rfl) (fun m => by rw [hc]) ht (by rw [hs])
    (by rw [hb]) (by rw [hr])

theorem Ownership.of_owners (h : Ownership s) (he : s'.owners = s.owners) : Ownership s' := by
  unfold Ownership
  rw [he]
  exact h

/-- An operation that leaves who holds what keeps the rules. -/
theorem keeps_of_owners {α : Type} {x : Act α} (hx : Untouched owners x) : Keeps Ownership x :=
  hx.keeps fun _ _ he h => h.of_owners he

/-- A change of buffers that keeps how each is held keeps the rules. -/
theorem Ownership.modifyBuffer (h : Ownership s) (i : Nat) {f : Buffer → Buffer}
    (hf : ∀ b, (f b).access = b.access) :
    Ownership { s with buffers := s.buffers.modify i f } :=
  h.of_owners (owners_eq (fun _ => rfl) (fun _ => rfl) rfl rfl (map_modify_eq _ _ hf) rfl)

theorem owned_setEntry {l : Lane} {st : LaneState} {v : Bool}
    (hl : s'.lanes = l.setEntry s.lanes st) (hv : st.owned = v) (m : Lane) :
    (s'.laneState m).owned = if m = l then v else (s.laneState m).owned := by
  by_cases hm : m = l
  · subst hm
    rw [if_pos rfl, laneState, hl, ← hv]
    exact congrArg LaneState.owned (Lane.entry_setEntry _ _ _)
  · rw [if_neg hm, laneState, hl]
    exact congrArg LaneState.owned (Lane.entry_setEntry_of_ne _ _ _ _ (Ne.symm hm))

/-- A live transfer of the machine, seen in its holders' table. -/
theorem live_hold {id : Nat} {t : Stream} (ht : s.streams[id]? = some t) (hst : t.stopped = false) :
    Live s.owners.streams StreamHold.stopped id t.hold := by
  refine ⟨?_, hst⟩
  show (s.streams.map Stream.hold)[id]? = some t.hold
  rw [Array.getElem?_map, ht]
  rfl

/-! ## Starts -/

theorem inUse_eq_false {l : Lane} (hu : s.inUse l = false) :
    (s.laneState l).owned = false ∧ Control.enabled (s.bank.control l) = false := by
  unfold inUse at hu
  exact Bool.or_eq_false_iff.1 hu

/-- Programming and enabling lane `l` enables no other lane. -/
theorem enabled_start (b : Bank) (l : Lane) (p : UInt64) (r : MemRef) (n w v : UInt32)
    (m : Lane) (hm : Control.enabled (((b.program l p r n w).setControl l v).control m) = true) :
    Control.enabled (b.control m) = true ∨ m = l := by
  by_cases hml : m = l
  · exact Or.inr hml
  · left
    rw [Bank.control_setControl_of_ne _ _ (Ne.symm hml),
      Bank.control_program_of_ne _ _ _ _ _ (Ne.symm hml)] at hm
    exact hm

/-- A start finds its buffer unlocked and locks it as its direction says. -/
theorem Direction.lock_access {dir : Direction} {b b' : Buffer} (h : dir.lock b = some b') :
    b.access = .unlocked ∧ b'.access = dir.access := by
  cases dir with
  | toPeripheral =>
    change b.lockShared? = some b' at h
    unfold Buffer.lockShared? at h
    by_cases hc : (decide (b.access = .unlocked) && !b.writing) = true
    · rw [if_pos hc] at h
      cases h
      simp only [Bool.and_eq_true, decide_eq_true_eq] at hc
      exact ⟨hc.1, rfl⟩
    · rw [if_neg hc] at h
      cases h
  | fromPeripheral =>
    change b.lockExclusive? = some b' at h
    unfold Buffer.lockExclusive? at h
    by_cases hc : b.canWrite = true
    · rw [if_pos hc] at h
      cases h
      simp only [Buffer.canWrite, Bool.and_eq_true, decide_eq_true_eq] at hc
      exact ⟨hc.1.1, rfl⟩
    · rw [if_neg hc] at h
      cases h

/-- A one-shot transfer that starts on a free lane with a buffer it could lock holds both. -/
theorem Ownership.startTransfer (h : Ownership s) {dir : Direction} {l : Lane} {buf periph : Nat}
    {b b' : Buffer} (hu : s.inUse l = false) (hb : s.buffers[buf]? = some b)
    (hl : dir.lock b = some b') (p : UInt64) (n w v : UInt32) (ps : Array Peripheral)
    (c : Counters) :
    Ownership { s with
      buffers := s.buffers.modify buf fun _ => b'
      bank := (s.bank.program l p (.buffer buf) n w).setControl l v
      lanes := l.setEntry s.lanes { s.laneState l with owned := true }
      peripherals := ps
      counters := c
      transfers := s.transfers.push ⟨l, buf, periph, dir, false⟩ } := by
  obtain ⟨hun, hacc⟩ := Direction.lock_access hl
  have hbuf : (s.buffers.map Buffer.access)[buf]? = some .unlocked := by
    rw [Array.getElem?_map, hb, ← hun]
    rfl
  have ha : (s.buffers.modify buf fun _ => b').map Buffer.access =
      (s.buffers.map Buffer.access).modify buf fun _ => dir.access :=
    map_modify _ _ fun _ => hacc
  -- the new transfer, live from its start
  have h0 : (⟨l, buf, periph, dir, false⟩ : Transfer).released = false := rfl
  exact Owners.Valid.startTransfer h h0 (inUse_eq_false hu).1 hbuf (owned_setEntry rfl rfl)
    (enabled_start _ _ _ _ _ _ _) rfl rfl ha rfl

/-- A circular transfer that starts on a free lane with a free ring holds both. -/
theorem Ownership.startStream (h : Ownership s) {l : Lane} {ring periph : Nat} {r : Ring}
    (hu : s.inUse l = false) (hr : s.rings[ring]? = some r) (hph : r.phase = .free)
    (p : UInt64) (n w v : UInt32) (ps : Array Peripheral) (c : Counters) :
    Ownership { s with
      rings := s.rings.modify ring fun r => { r with phase := .fillingFirst }
      bank := (s.bank.program l p (.ring ring) n w).setControl l v
      lanes := l.setEntry s.lanes { s.laneState l with owned := true }
      peripherals := ps
      counters := c
      streams := s.streams.push ⟨l, ring, periph, 0, false, false⟩ } := by
  have hring : (s.rings.map Ring.phase)[ring]? = some .free := by
    rw [Array.getElem?_map, hr, ← hph]
    rfl
  have hs : (s.streams.push ⟨l, ring, periph, 0, false, false⟩).map Stream.hold =
      (s.streams.map Stream.hold).push ⟨l, ring, false⟩ :=
    Array.map_push
  have hp : (s.rings.modify ring fun r => { r with phase := .fillingFirst }).map Ring.phase =
      (s.rings.map Ring.phase).modify ring fun _ => .fillingFirst :=
    map_modify _ _ fun _ => rfl
  have h0 : (⟨l, ring, false⟩ : StreamHold).stopped = false := rfl
  exact Owners.Valid.startStream h h0 (inUse_eq_false hu).1 hring (owned_setEntry rfl rfl)
    (enabled_start _ _ _ _ _ _ _) rfl hs rfl hp

/-- A one-shot transfer starts only on a free lane with a buffer it can lock. -/
theorem keeps_startTransfer (dir : Direction) (l : Lane) (buf periph : Nat) :
    Keeps Ownership (peripheral periph >>= fun _ => Transfer.start dir l buf periph) := by
  intro s hs
  rw [EStateM.run_bind, run_peripheral]
  cases hp : s.peripherals[periph]? with
  | none => exact hs
  | some p =>
    dsimp only
    rw [Transfer.run_start]
    cases hu : s.inUse l
    case true => exact hs
    simp only [Bool.false_eq_true, if_false]
    cases hb : s.buffers[buf]? with
    | none => exact hs
    | some b =>
      dsimp only
      split
      · exact hs
      cases hl : dir.lock b with
      | none => exact hs
      | some b' =>
        simp only [hp]
        exact hs.startTransfer hu hb hl _ _ _ _ _ _

/-- A circular transfer starts only on a free lane with a free ring. -/
theorem keeps_startStream (l : Lane) (ring periph : Nat) :
    Keeps Ownership (peripheral periph >>= fun _ => Stream.start l ring periph) := by
  intro s hs
  rw [EStateM.run_bind, run_peripheral]
  cases hp : s.peripherals[periph]? with
  | none => exact hs
  | some p =>
    dsimp only
    rw [Stream.run_start]
    cases hu : s.inUse l
    case true => exact hs
    simp only [Bool.false_eq_true, if_false]
    cases hr : s.rings[ring]? with
    | none => exact hs
    | some r =>
      dsimp only
      split
      · exact hs
      by_cases hph : r.phase = .free
      case neg =>
        simp only [ne_eq, hph, not_false_eq_true, if_true]
        exact hs
      simp only [ne_eq, hph, not_true_eq_false, if_false, hp]
      exact hs.startStream hu hr hph _ _ _ _ _ _

/-! ## Ends -/

/-- Writing a control word with the enable bit clear enables no lane. -/
theorem enabled_disable (b : Bank) (l : Lane) {v : UInt32} (hv : Control.enabled v = false)
    (m : Lane) (hm : Control.enabled ((b.setControl l v).control m) = true) :
    Control.enabled (b.control m) = true ∧ m ≠ l := by
  by_cases hml : m = l
  · subst hml
    rw [Bank.control_setControl_self, hv] at hm
    cases hm
  · rw [Bank.control_setControl_of_ne _ _ (Ne.symm hml)] at hm
    exact ⟨hm, hml⟩

/-- A wait that hands back a live transfer frees its lane and unlocks its buffer. -/
theorem Ownership.handBack (h : Ownership s) {id : Nat} {t : Transfer}
    (ht : s.transfers[id]? = some t) (hr : t.released = false) (mask : UInt32) (c : Counters) :
    Ownership (s.handBack id t mask c) := by
  have ha : (s.buffers.modify t.buffer Buffer.unlock).map Buffer.access =
      (s.buffers.map Buffer.access).modify t.buffer fun _ => .unlocked :=
    map_modify _ _ Buffer.unlock_access
  exact Owners.Valid.releaseTransfer h ⟨ht, hr⟩ (owned_setEntry rfl rfl)
    (enabled_disable _ _ (Control.enabled_withEnable _ false)) rfl rfl ha rfl

/-- A wait reads the status word until its transfer settles, which leaves who holds what,
and then hands the transfer back. -/
theorem keeps_wait (id : Nat) : Keeps Ownership (Transfer.wait id) := by
  intro s hs
  rcases Transfer.wait_final id s with heq | ⟨t, k, p, ht, hr, hend⟩
  · rw [heq]
    exact hs
  -- the status reads of the loop change only the bank's flags and counts
  have hread : Ownership
      { s with bank := s.bank.readN k, counters := { s.counters with polls := p } } :=
    hs.of_owners (owners_of_reads (fun _ => Bank.control_readN _ _ _) rfl rfl rfl rfl rfl)
  rcases hend with heq | ⟨mask, c, -, heq⟩ <;> rw [heq]
  · exact hread
  · exact hread.handBack ht hr _ _

/-- Stopping a live circular transfer frees its lane and its ring. -/
theorem Ownership.stop (h : Ownership s) {id : Nat} {t : Stream} (ht : s.streams[id]? = some t)
    (hst : t.stopped = false) (mask : UInt32) (ps : Array Peripheral) :
    Ownership { s with
      bank := (s.bank.setControl t.lane (Control.withEnable (s.bank.control t.lane) false)).clear mask
      peripherals := ps
      rings := s.rings.modify t.ring fun r => { r with phase := .free }
      streams := s.streams.modify id fun t => { t with stopped := true }
      lanes := t.lane.setEntry s.lanes { s.laneState t.lane with owned := false } } := by
  have hs : (s.streams.modify id fun t => { t with stopped := true }).map Stream.hold =
      (s.streams.map Stream.hold).modify id fun t => { t with stopped := true } :=
    map_modify _ _ fun _ => rfl
  have hp : (s.rings.modify t.ring fun r => { r with phase := .free }).map Ring.phase =
      (s.rings.map Ring.phase).modify t.ring fun _ => .free :=
    map_modify _ _ fun _ => rfl
  exact Owners.Valid.stopStream h (live_hold ht hst) (owned_setEntry rfl rfl)
    (enabled_disable _ _ (Control.enabled_withEnable _ false)) rfl hs rfl hp

theorem keeps_stop (id : Nat) : Keeps Ownership (Stream.stop id) := by
  intro s hs
  rw [Stream.run_stop]
  cases ht : s.streams[id]? with
  | none => exact hs
  | some t =>
    dsimp only
    cases hst : t.stopped
    case true => exact hs
    simp only [Bool.false_eq_true, if_false]
    exact hs.stop ht hst _ _

/-! ## Pausing and resuming -/

/-- Pausing or resuming a live circular transfer sets only its own lane's enable bit. -/
theorem Ownership.setEnable (h : Ownership s) {id : Nat} {t : Stream}
    (ht : s.streams[id]? = some t) (hst : t.stopped = false) (on : Bool) (f : Stream → Stream)
    (hf : ∀ t, (f t).hold = t.hold) :
    Ownership { s with
      bank := s.bank.setControl t.lane (Control.withEnable (s.bank.control t.lane) on)
      streams := s.streams.modify id f } := by
  -- the lane of a live transfer is held
  have hheld : (s.laneState t.lane).owned = true :=
    (h.lanes.owned_iff t.lane).2 ⟨.stream id, t.hold, live_hold ht hst, rfl⟩
  refine Owners.Valid.enable h (fun _ => rfl) (fun m hm => ?_) rfl (map_modify_eq _ _ hf) rfl rfl
  by_cases hml : m = t.lane
  · subst hml
    exact Or.inr hheld
  · left
    show Control.enabled (s.bank.control m) = true
    rw [← Bank.control_setControl_of_ne s.bank _ (Ne.symm hml)]
    exact hm

theorem keeps_pause (id : Nat) : Keeps Ownership (Stream.pause id) := by
  intro s hs
  rw [Stream.run_pause]
  cases ht : s.streams[id]? with
  | none => exact hs
  | some t =>
    dsimp only
    cases hst : t.stopped
    case true => exact hs
    simp only [Bool.false_eq_true, if_false]
    exact hs.setEnable ht hst false _ fun _ => rfl

theorem keeps_resume (id : Nat) : Keeps Ownership (Stream.resume id) := by
  intro s hs
  rw [Stream.run_resume]
  cases ht : s.streams[id]? with
  | none => exact hs
  | some t =>
    dsimp only
    cases hst : t.stopped
    case true => exact hs
    simp only [Bool.false_eq_true, if_false]
    exact hs.setEnable ht hst true _ fun _ => rfl

/-! ## Reads -/

/-- A read moves a live transfer's ring on to its next phase of filling. -/
theorem Ownership.refill (h : Ownership s) {id : Nat} {t : Stream} (ht : s.streams[id]? = some t)
    (hst : t.stopped = false) (mask : UInt32) {p : Phase} (hp : p ≠ .free) :
    Ownership { s with
      bank := s.bank.clear mask
      rings := s.rings.modify t.ring fun r => { r with phase := p } } := by
  have hr : (s.rings.modify t.ring fun r => { r with phase := p }).map Ring.phase =
      (s.rings.map Ring.phase).modify t.ring fun _ => p :=
    map_modify _ _ fun _ => rfl
  exact Owners.Valid.refill h (live_hold ht hst) hp (fun _ => rfl) (fun _ => rfl)
    rfl rfl rfl hr

theorem Ownership.afterRead (h : Ownership s) : Ownership s.afterRead :=
  h.of_owners (owners_of_reads (fun _ => Bank.control_status _ _) rfl rfl rfl rfl rfl)

/-- The checks of a read before its callback. -/
theorem keeps_takeHalf (id : Nat) : Keeps Ownership (Stream.takeHalf id) := by
  intro s hs
  rw [Stream.run_takeHalf]
  cases ht : s.streams[id]? with
  | none => exact hs
  | some t =>
    dsimp only
    cases hst : t.stopped
    case true => exact hs
    simp only [Bool.false_eq_true, if_false]
    cases hr : s.rings[t.ring]? with
    | none => exact hs
    | some r =>
      dsimp only
      cases hw : r.phase.waiting with
      | none => exact hs
      | some h =>
        dsimp only
        -- a refusal counts and changes nothing the rules read
        split
        · exact hs.afterRead.of_owners rfl
        split
        · exact hs.afterRead.of_owners rfl
        split
        · exact hs.afterRead.of_owners rfl
        · exact hs.afterRead.refill ht hst _ (by cases h <;> decide)

/-- The checks of a read after its callback read the status word and count. -/
theorem owners_giveBack (id : Nat) (h : Half) (start : Option Nat) :
    Untouched owners (Stream.giveBack id h start) := fun s => by
  rw [Stream.run_giveBack]
  dsimp only
  repeat' split
  all_goals exact owners_of_reads (fun _ => by simp [afterRead, recorded]) rfl rfl rfl rfl rfl

/-! ## Borrows and new memory -/

/-- A borrow marks readers or the writer, which the rules do not read, around its callback. -/
theorem keeps_borrow {α : Type} (id : Nat) {f : Array UInt32 → Act α}
    (hf : ∀ items, Keeps Ownership (f items)) : Keeps Ownership (Buffer.borrow id f) :=
  Buffer.keeps_borrow_of id f (fun _ _ hg h => h.modifyBuffer id hg) hf

theorem keeps_borrowMut {α : Type} (id : Nat) {f : Array UInt32 → Act α}
    (hf : ∀ items, Keeps Ownership (f items)) : Keeps Ownership (Buffer.borrowMut id f) :=
  Buffer.keeps_borrowMut_of id f (fun _ _ hg h => h.modifyBuffer id hg) hf

/-- A new buffer comes unlocked. -/
theorem keeps_addBuffer (w : Width) (items : Array UInt32) :
    Keeps Ownership (addBuffer { width := w, items }) := fun _ hs =>
  Owners.Valid.push hs (fun _ => rfl) (fun _ => rfl) rfl rfl (Or.inr Array.map_push) (Or.inl rfl)

/-- A new ring comes free. -/
theorem keeps_addRing (w : Width) (items : Array UInt32) :
    Keeps Ownership (addRing { width := w, items }) := fun _ hs =>
  Owners.Valid.push hs (fun _ => rfl) (fun _ => rfl) rfl rfl (Or.inl rfl) (Or.inr Array.map_push)

/-! ## Operations that leave who holds what -/

/-- Changing a lane's settings other than its held mark leaves it. -/
theorem owned_setEntry_same {l : Lane} {st : LaneState} (hl : s'.lanes = l.setEntry s.lanes st)
    (hst : st.owned = (s.laneState l).owned) (m : Lane) :
    (s'.laneState m).owned = (s.laneState m).owned := by
  rw [owned_setEntry hl hst m]
  split
  · rename_i hm
    rw [hm]
  · rfl

/-- Writing a lane's control word with the enable bit it had leaves every enable bit. -/
theorem enabled_setControl_same (b : Bank) (l : Lane) {v : UInt32}
    (hv : Control.enabled v = Control.enabled (b.control l)) (m : Lane) :
    Control.enabled ((b.setControl l v).control m) = Control.enabled (b.control m) := by
  by_cases hml : m = l
  · subst hml
    rw [Bank.control_setControl_self, hv]
  · rw [Bank.control_setControl_of_ne _ _ (Ne.symm hml)]

theorem owners_configure (l : Lane) (p : Priority) : Untouched owners (l.configure p) := fun _ =>
  owners_eq (owned_setEntry_same rfl rfl) (fun _ => rfl) rfl rfl rfl rfl

theorem owners_listen (l : Lane) (e : Event) : Untouched owners (l.listen e) := fun s => by
  rw [Lane.run_listen]
  exact owners_eq (owned_setEntry_same rfl rfl)
    (enabled_setControl_same _ _ (Control.enabled_withInterrupts _ _)) rfl rfl rfl rfl

theorem owners_unlisten (l : Lane) (e : Event) : Untouched owners (l.unlisten e) := fun s => by
  rw [Lane.run_unlisten]
  exact owners_eq (owned_setEntry_same rfl rfl)
    (enabled_setControl_same _ _ (Control.enabled_withInterrupts _ _)) rfl rfl rfl rfl

theorem owners_readStatus (l : Lane) : Untouched owners l.readStatus := fun _ =>
  owners_of_reads (fun _ => Bank.control_status _ _) rfl rfl rfl rfl rfl

theorem owners_isDone (id : Nat) : Untouched owners (Transfer.isDone id) := fun s => by
  rw [Transfer.run_isDone]
  split
  · rfl
  split
  · rfl
  · rw [Transfer.run_check]
    exact owners_of_reads (fun _ => Bank.control_status _ _) rfl rfl rfl rfl rfl

theorem owners_poll (id : Nat) : Untouched owners (Transfer.poll id) := fun s => by
  rw [Transfer.run_poll]
  repeat' split
  all_goals exact owners_of_reads (fun _ => by simp [afterRead]) rfl rfl rfl rfl rfl

theorem owners_transferRemaining (id : Nat) : Untouched owners (Transfer.remaining id) := fun s => by
  rw [Transfer.run_remaining]
  repeat' split
  all_goals rfl

theorem owners_configureStream (id : Nat) (maxRead : Int) :
    Untouched owners (Stream.configure id maxRead) := fun s =>
  owners_eq (fun _ => rfl) (fun _ => rfl) rfl
    (map_modify_eq (f := fun (t : Stream) => { t with maxRead }) s.streams id fun _ => rfl) rfl rfl

theorem owners_streamRemaining (id : Nat) : Untouched owners (Stream.remaining id) := fun s => by
  rw [Stream.run_remaining]
  repeat' split
  all_goals rfl

theorem owners_raise (l : Lane) (e : Event) : Untouched owners (modifyBank (·.raise l e)) := fun _ =>
  owners_of_reads (fun _ => Bank.control_raise _ _ _ _) rfl rfl rfl rfl rfl

theorem owners_fillRing (id offset : Nat) (data : List UInt32) :
    Untouched owners (modifyRing id (·.fill offset data)) := fun s =>
  owners_eq (fun _ => rfl) (fun _ => rfl) rfl rfl rfl
    (map_modify_eq (f := fun (r : Ring) => r.fill offset data) s.rings id fun _ => rfl)

/-! ## The machine after the split, and what the rules give -/

/-- The lanes handed out at the split are all free, with nothing made yet. -/
theorem ownership_takeLanes : Ownership (finalState (takeLanes.run ({} : Machine))) := by
  refine Owners.Valid.empty (fun m => ?_) (fun m => ?_) rfl Array.map_empty Array.map_empty
    Array.map_empty
  · show (m.entry (Vector.replicate 7 ({} : LaneState))).owned = false
    rw [Lane.entry, Fin.getElem_fin, Vector.getElem_replicate]
  · show Control.enabled (m.entry (Vector.replicate 7 ({} : LaneRegs))).control = false
    rw [Lane.entry, Fin.getElem_fin, Vector.getElem_replicate]
    decide

/-- Under the rules a lane is in use exactly when it is marked held. -/
theorem Ownership.inUse_eq (h : Ownership s) (l : Lane) : s.inUse l = (s.laneState l).owned := by
  unfold inUse
  cases ho : (s.laneState l).owned
  · -- an enabled lane would be held
    cases he : Control.enabled (s.bank.control l)
    · rfl
    · have hown : (s.laneState l).owned = true := h.lanes.enabled_owned l he
      rw [ho] at hown
      cases hown
  · rfl

/-- The ring of a live circular transfer is recorded, and the engine is filling one of its
halves. -/
theorem Ownership.ring_of_live (h : Ownership s) {id : Nat} {t : Stream}
    (ht : s.streams[id]? = some t) (hst : t.stopped = false) :
    ∃ r x, s.rings[t.ring]? = some r ∧ r.phase.waiting = some x := by
  obtain ⟨p, hp, hfill⟩ := h.rings.held_state (live_hold ht hst)
  have hp' : (s.rings.map Ring.phase)[t.ring]? = some p := hp
  rw [Array.getElem?_map] at hp'
  cases hr : s.rings[t.ring]? with
  | none => rw [hr] at hp'; cases hp'
  | some r =>
    rw [hr] at hp'
    cases hp'
    cases hph : r.phase with
    | free => exact absurd hph hfill
    | fillingFirst => exact ⟨r, .first, rfl, by rw [hph]; rfl⟩
    | fillingSecond => exact ⟨r, .second, rfl, by rw [hph]; rfl⟩

/-- A live circular transfer's ring is never free, so a read never finds it free. -/
theorem Ownership.takeHalf_ne_ringFree (h : Ownership s) (id : Nat) (s' : Machine) :
    (Stream.takeHalf id).run s ≠ .error .ringFree s' := by
  rw [Stream.run_takeHalf]
  cases ht : s.streams[id]? with
  | none => exact fun e => (by cases e)
  | some t =>
    dsimp only
    cases hst : t.stopped
    case true => exact fun e => (by cases e)
    simp only [Bool.false_eq_true, if_false]
    obtain ⟨r, x, hr, hw⟩ := h.ring_of_live ht hst
    rw [hr]
    dsimp only
    rw [hw]
    dsimp only
    repeat' split
    all_goals exact fun e => (by cases e)

end Machine

open Machine

/-! ## Every client program keeps the rules -/

namespace Client

/-- Every client program keeps the ownership rules, whether it returns or breaks off. -/
theorem keeps_ownership {α : Type} {x : Act α} (hx : Client x) : Keeps Ownership x := by
  induction hx with
  | pure a => exact keeps_pure a
  | get => exact keeps_get
  | throw e => exact keeps_throw e
  | bind _ _ ihx ihk => exact keeps_bind ihx ihk
  | tryCatch _ _ ihx ihh => exact keeps_tryCatch ihx ihh
  | configure l p => exact keeps_of_owners (owners_configure l p)
  | listen l e => exact keeps_of_owners (owners_listen l e)
  | unlisten l e => exact keeps_of_owners (owners_unlisten l e)
  | inUse l => exact keeps_of_owners fun _ => rfl
  | laneRemaining l => exact keeps_of_owners fun _ => rfl
  | newBuffer w items => exact keeps_addBuffer w items
  | newRing w items => exact keeps_addRing w items
  | newPeripheral p => exact keeps_of_owners fun _ => rfl
  | borrow id _ ih => exact keeps_borrow id ih
  | borrowMut id _ ih => exact keeps_borrowMut id ih
  | startTransfer dir l buf periph => exact keeps_startTransfer dir l buf periph
  | isDone id => exact keeps_of_owners (owners_isDone id)
  | poll id => exact keeps_of_owners (owners_poll id)
  | transferRemaining id => exact keeps_of_owners (owners_transferRemaining id)
  | wait id => exact keeps_wait id
  | startStream l ring periph => exact keeps_startStream l ring periph
  | configureStream id maxRead => exact keeps_of_owners (owners_configureStream id maxRead)
  | peek id _ ih =>
    exact Stream.keeps_peek id (keeps_takeHalf id)
      (fun h start => keeps_of_owners (owners_giveBack id h start)) ih
  | pause id => exact keeps_pause id
  | resume id => exact keeps_resume id
  | streamRemaining id => exact keeps_of_owners (owners_streamRemaining id)
  | stop id => exact keeps_stop id
  | raise l e => exact keeps_of_owners (owners_raise l e)
  | after polls l e => exact keeps_of_owners fun _ => rfl
  | status l => exact keeps_of_owners (owners_readStatus l)
  | fillBuffer id offset data =>
    exact fun s hs => hs.modifyBuffer (f := fun b => b.fill offset data) id fun _ => rfl
  | fillRing id offset data => exact keeps_of_owners (owners_fillRing id offset data)
  | sleep us => exact keeps_of_owners fun _ => rfl

end Client

/-- Every lane, buffer and ring is held by at most one live transfer (`Owners.Valid`), at
every point of every client program from the split on, the callbacks of borrows and reads
included. Under the rules a lane is in use exactly when it is marked held, and a read never
finds the ring of its live transfer free. -/
theorem ownership_kept :
    Ownership (finalState (takeLanes.run ({} : Machine))) ∧
    (∀ {α : Type} (x : Act α), Client x → Keeps Ownership x) ∧
    (∀ s, Ownership s → ∀ l, s.inUse l = (s.laneState l).owned) ∧
    (∀ id s s₁ s₂, Ownership s →
      (Buffer.borrow id fun _ => get).run s = .ok s₁ s₂ → Ownership s₁) ∧
    (∀ id s s₁ s₂, Ownership s →
      (Buffer.borrowMut id fun _ => get).run s = .ok s₁ s₂ → Ownership s₁) ∧
    (∀ id s s₁ o s₂, Ownership s →
      (Stream.peek id fun _ _ => get).run s = .ok ⟨some s₁, o⟩ s₂ → Ownership s₁) ∧
    (∀ id s s', Ownership s → (Stream.takeHalf id).run s ≠ .error .ringFree s') := by
  refine ⟨ownership_takeLanes, fun _ hx => hx.keeps_ownership, fun _ h => h.inUse_eq, ?_, ?_, ?_,
    fun id _ s' h => h.takeHalf_ne_ringFree id s'⟩
  · intro id s s₁ s₂ hs hrun
    rw [Buffer.run_borrow] at hrun
    cases hb : s.buffers[id]? with
    | none => simp only [hb] at hrun; cases hrun
    | some b =>
      cases hw : b.writing
      · simp only [hb, hw, Bool.false_eq_true, if_false, EStateM.run_get] at hrun
        cases hrun
        exact hs.modifyBuffer id fun _ => rfl
      · simp only [hb, hw, if_true] at hrun
        cases hrun
  · intro id s s₁ s₂ hs hrun
    rw [Buffer.run_borrowMut] at hrun
    cases hb : s.buffers[id]? with
    | none => simp only [hb] at hrun; cases hrun
    | some b =>
      cases hw : b.canWrite
      · simp only [hb, hw, Bool.not_false, if_true] at hrun
        cases hrun
      · simp only [hb, hw, Bool.not_true, Bool.false_eq_true, if_false, EStateM.run_get] at hrun
        cases hrun
        exact hs.modifyBuffer id fun _ => rfl
  · intro id s s₁ o s₂ hs hrun
    -- the callback runs in the machine the checks before it leave
    have h₁ := keeps_takeHalf id s hs
    rw [Stream.run_peek] at hrun
    cases ht : (Stream.takeHalf id).run s with
    | error e s₃ => rw [ht] at hrun; cases hrun
    | ok v s₃ =>
      rw [ht] at hrun h₁
      rcases v with r | ⟨h, data, start⟩
      · cases hrun
      · simp only [EStateM.run_get] at hrun
        split at hrun
        · cases hrun
        · cases hrun
          exact h₁

/-- From the split, a program that makes a buffer and a peripheral and starts a write inside
a shared borrow of the buffer keeps the rules, and so does the machine a borrow's callback sees. -/
theorem write_in_borrow_keeps_ownership :
    let s := finalState ((addBuffer { width := .w8, items := #[1, 2] } >>= fun _ =>
      addPeripheral { address := 64 }).run (finalState (takeLanes.run ({} : Machine))))
    let x : Act Unit := Buffer.borrow 0 fun _ =>
      (peripheral 0 >>= fun _ => Transfer.start .toPeripheral ⟨0⟩ 0 0) >>= fun _ => pure ()
    Ownership s ∧ Ownership (finalState (x.run s)) ∧
    ∃ s₁ s₂, (Buffer.borrow 0 fun _ => get).run s = .ok s₁ s₂ ∧ Ownership s₁ := by
  dsimp only
  obtain ⟨h0, hkeep, -, hborrow, -⟩ := ownership_kept
  have hs := hkeep _ (.bind (.newBuffer .w8 #[1, 2]) fun _ => .newPeripheral { address := 64 }) _ h0
  exact ⟨hs, hkeep _ (.borrow 0 fun _ => .bind (.startTransfer _ _ _ _) fun _ => .pure ()) _ hs,
    _, _, rfl, hborrow 0 _ _ _ hs rfl⟩


end DmaOwnership
