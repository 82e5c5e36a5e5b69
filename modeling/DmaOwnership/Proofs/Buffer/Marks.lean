import DmaOwnership.Proofs.Client
import DmaOwnership.Proofs.Spec.Borrow
import DmaOwnership.Proofs.Spec.Transfer
import DmaOwnership.Proofs.Spec.Stream
/-!
# Buffer marks count the running borrows

A buffer carries two marks: how many read it (`readers`) and whether one writes it
(`writing`). A shared borrow counts as a reader while its callback runs, an exclusive
borrow as the writer; a transfer that reads the buffer counts as one more reader, and one
that writes it as the writer, from its start until it is handed back.

`Buffer.Marks b B M` says that the marks of `b` are those that `B` shared and `M`
exclusive borrows call for, with its transfer. It makes the exclusions plain: an
exclusive borrow runs alone, with no shared borrow and no transfer, and a transfer that
writes the buffer runs with no borrow at all. `marks_count_borrows` shows that every client
program keeps these marks, at every depth of its callbacks.
-/

namespace DmaOwnership

namespace Buffer

/-- The marks of a buffer are those that `B` shared and `M` exclusive borrows running
their callbacks call for, with the transfer that holds it: a transfer that reads the
buffer counts as one more reader, one that writes it as the writer. -/
structure Marks (b : Buffer) (B M : Nat) : Prop where
  /-- The readers are the shared borrows, and the transfer that reads the buffer. -/
  readers_eq : b.readers = B + if b.access = .locked then 1 else 0
  /-- A writer holds the buffer exactly when an exclusive borrow or a writing transfer does. -/
  writing_eq : b.writing = (decide (0 < M) || decide (b.access = .mutLocked))
  /-- At most one exclusive borrow runs. -/
  mut_le_one : M ≤ 1
  /-- An exclusive borrow runs alone: no shared borrow and no transfer. -/
  mut_alone : M = 1 → B = 0 ∧ b.access = .unlocked
  /-- A transfer that writes the buffer runs alone: no borrow at all. -/
  written_alone : b.access = .mutLocked → B = 0 ∧ M = 0

namespace Marks

variable {b b' : Buffer} {B M : Nat}

/-- A new buffer has no marks. -/
theorem new (w : Width) (items : Array UInt32) : Marks { width := w, items } 0 0 :=
  ⟨rfl, rfl, Nat.zero_le _, fun h => (by cases h), fun h => (by cases h)⟩

/-- A shared borrow begins where no writer holds the buffer, and counts one more. -/
theorem borrow (h : Marks b B M) (hw : b.writing = false) :
    Marks { b with readers := b.readers + 1 } (B + 1) M := by
  have hwr := h.writing_eq
  rw [hw, eq_comm, Bool.or_eq_false_iff] at hwr
  simp only [decide_eq_false_iff_not] at hwr
  refine ⟨?_, h.writing_eq, h.mut_le_one, fun hm => absurd hm (by omega), fun ha => absurd ha hwr.2⟩
  show b.readers + 1 = B + 1 + if b.access = .locked then 1 else 0
  rw [h.readers_eq]
  omega

/-- A shared borrow ends and counts one less. -/
theorem unborrow (h : Marks b (B + 1) M) : Marks { b with readers := b.readers - 1 } B M := by
  have hm : M = 0 := by
    have := h.mut_le_one
    have := h.mut_alone
    omega
  have ha : b.access ≠ .mutLocked := fun ha => absurd (h.written_alone ha).1 (by omega)
  refine ⟨?_, h.writing_eq, h.mut_le_one, fun h1 => absurd h1 (by omega),
    fun h2 => absurd h2 ha⟩
  show b.readers - 1 = B + if b.access = .locked then 1 else 0
  rw [h.readers_eq]
  omega

/-- An exclusive borrow begins only where nothing holds the buffer, and marks the writer. -/
theorem borrowMut (h : Marks b B M) (hw : b.canWrite = true) :
    B = 0 ∧ M = 0 ∧ Marks { b with writing := true } 0 1 := by
  simp only [canWrite, Bool.and_eq_true, decide_eq_true_eq, Bool.not_eq_true'] at hw
  obtain ⟨⟨ha, hwr⟩, hr⟩ := hw
  have hwe := h.writing_eq
  have hre := h.readers_eq
  rw [hwr, ha] at hwe
  rw [hr, ha] at hre
  simp only [reduceCtorEq, decide_false, Bool.or_false, Bool.false_eq, decide_eq_false_iff_not,
    Nat.not_lt, Nat.le_zero] at hwe
  simp only [reduceCtorEq, if_false, Nat.add_zero] at hre
  refine ⟨hre.symm, hwe, ?_⟩
  exact ⟨by simp [hr, ha], by simp [ha], Nat.le_refl 1, fun _ => ⟨rfl, ha⟩,
    fun h' => absurd (h'.symm.trans ha) (by decide)⟩

/-- An exclusive borrow ends and takes the writer's mark away. -/
theorem unborrowMut (h : Marks b B (M + 1)) : Marks { b with writing := false } B M := by
  have hm : M = 0 := by
    have := h.mut_le_one
    omega
  subst hm
  obtain ⟨hb, ha⟩ := h.mut_alone rfl
  subst hb
  refine ⟨?_, by simp [ha], Nat.zero_le 1, fun h1 => absurd h1 (by decide),
    fun h2 => absurd (h2.symm.trans ha) (by decide)⟩
  show b.readers = 0 + if b.access = .locked then 1 else 0
  rw [h.readers_eq, ha]

/-- An exclusive borrow or a writing transfer holds the writer's mark. -/
theorem writing_of (h : Marks b B M) (hw : 0 < M ∨ b.access = .mutLocked) :
    b.writing = true := by
  rw [h.writing_eq, Bool.or_eq_true, decide_eq_true_eq, decide_eq_true_eq]
  exact hw

/-- Any borrow or transfer keeps an exclusive borrow from beginning. -/
theorem canWrite_of (h : Marks b B M) (hc : 0 < B ∨ 0 < M ∨ b.access ≠ .unlocked) :
    b.canWrite = false := by
  simp only [canWrite, Bool.and_eq_false_iff, decide_eq_false_iff_not, Bool.not_eq_false']
  rcases hc with hb | hm | ha
  · right
    rw [h.readers_eq]
    omega
  · left; right
    exact h.writing_of (Or.inl hm)
  · left; left
    exact ha

/-- A transfer that reads the buffer locks it shared, as one more reader. -/
theorem lockShared (h : Marks b B M) (hl : b.lockShared? = some b') : Marks b' B M := by
  unfold lockShared? at hl
  split at hl
  · rename_i hc
    cases hl
    simp only [Bool.and_eq_true, decide_eq_true_eq, Bool.not_eq_true'] at hc
    obtain ⟨ha, hw⟩ := hc
    have hwe := h.writing_eq
    rw [hw, ha] at hwe
    simp only [reduceCtorEq, decide_false, Bool.or_false, Bool.false_eq, decide_eq_false_iff_not,
      Nat.not_lt, Nat.le_zero] at hwe
    refine ⟨?_, by simp [hw, hwe], h.mut_le_one, fun h1 => absurd h1 (by omega),
      fun h2 => (by cases h2)⟩
    show b.readers + 1 = B + if Access.locked = .locked then 1 else 0
    rw [h.readers_eq, ha]
    simp
  · cases hl

/-- A transfer that writes the buffer locks it alone, as the writer. -/
theorem lockExclusive (h : Marks b B M) (hl : b.lockExclusive? = some b') : Marks b' B M := by
  unfold lockExclusive? at hl
  split at hl
  · rename_i hc
    cases hl
    have hr : b.readers = 0 := by
      simp only [canWrite, Bool.and_eq_true, decide_eq_true_eq] at hc
      exact hc.2
    obtain ⟨rfl, rfl, -⟩ := h.borrowMut hc
    exact ⟨by simp [hr], by simp, Nat.zero_le 1, fun h1 => absurd h1 (by decide),
      fun _ => ⟨rfl, rfl⟩⟩
  · cases hl

/-- A transfer locks the buffer as its direction says. -/
theorem lock (h : Marks b B M) {dir : Direction} (hl : dir.lock b = some b') : Marks b' B M := by
  cases dir with
  | toPeripheral => exact h.lockShared hl
  | fromPeripheral => exact h.lockExclusive hl

/-- A transfer hands the buffer back and takes away its own mark. -/
theorem unlock (h : Marks b B M) : Marks b.unlock B M := by
  unfold Buffer.unlock
  split
  · rename_i ha
    -- an exclusive borrow would have found the buffer unlocked
    have hm : M = 0 := by
      have hle := h.mut_le_one
      have halone := h.mut_alone
      rw [ha] at halone
      cases Nat.eq_zero_or_pos M with
      | inl h0 => exact h0
      | inr hpos => exact absurd (halone (by omega)).2 (by decide)
    refine ⟨?_, ?_, h.mut_le_one, fun h1 => absurd h1 (by omega), fun h2 => (by cases h2)⟩
    · show b.readers - 1 = B + if Access.unlocked = .locked then 1 else 0
      rw [h.readers_eq, ha]
      simp
    · show b.writing = (decide (0 < M) || decide (Access.unlocked = .mutLocked))
      rw [h.writing_eq, ha]
      rfl
  · rename_i ha
    obtain ⟨rfl, rfl⟩ := h.written_alone ha
    refine ⟨?_, by simp, Nat.zero_le 1, fun h1 => absurd h1 (by decide),
      fun h2 => (by cases h2)⟩
    show b.readers = 0 + if Access.unlocked = .locked then 1 else 0
    rw [h.readers_eq, ha]
    simp
  · exact h

/-- The engine writing items changes no mark. -/
theorem fill (h : Marks b B M) (offset : Nat) (data : List UInt32) :
    Marks (b.fill offset data) B M :=
  ⟨h.readers_eq, h.writing_eq, h.mut_le_one, h.mut_alone, h.written_alone⟩

end Marks

end Buffer

/-! ## Operations that touch no buffer -/

namespace Lane

variable (l : Lane)

theorem configure_buffers (p : Priority) : Untouched Machine.buffers (l.configure p) :=
  fun _ => rfl

theorem listen_buffers (e : Event) : Untouched Machine.buffers (l.listen e) := fun s => by
  rw [run_listen]
  rfl

theorem unlisten_buffers (e : Event) : Untouched Machine.buffers (l.unlisten e) := fun s => by
  rw [run_unlisten]
  rfl

theorem inUse_buffers : Untouched Machine.buffers l.inUse := fun _ => rfl

theorem remaining_buffers : Untouched Machine.buffers l.remaining := fun _ => rfl

theorem readStatus_buffers : Untouched Machine.buffers l.readStatus := fun _ => rfl

end Lane

namespace Machine

theorem peripheral_buffers (id : Nat) : Untouched buffers (peripheral id) := fun s => by
  rw [run_peripheral]
  split <;> rfl

theorem addRing_buffers (r : Ring) : Untouched buffers (addRing r) := fun _ => rfl

theorem addPeripheral_buffers (p : Peripheral) : Untouched buffers (addPeripheral p) :=
  fun _ => rfl

theorem modifyBank_buffers (f : Bank → Bank) : Untouched buffers (modifyBank f) := fun _ => rfl

theorem modifyRing_buffers (id : Nat) (f : Ring → Ring) : Untouched buffers (modifyRing id f) :=
  fun _ => rfl

theorem sleep_buffers (us : Nat) : Untouched buffers (sleep us) := fun _ => rfl

end Machine

namespace Transfer

variable (id : Nat)

theorem isDone_buffers : Untouched Machine.buffers (isDone id) := fun s => by
  rw [run_isDone]
  repeat' split
  all_goals rfl

theorem poll_buffers : Untouched Machine.buffers (poll id) := fun s => by
  rw [run_poll]
  repeat' split
  all_goals rfl

theorem remaining_buffers : Untouched Machine.buffers (remaining id) := fun s => by
  rw [run_remaining]
  repeat' split
  all_goals rfl

end Transfer

namespace Stream

variable (id : Nat)

theorem takeHalf_buffers : Untouched Machine.buffers (takeHalf id) := fun s => by
  rw [run_takeHalf]
  dsimp only
  repeat' split
  all_goals rfl

theorem giveBack_buffers (h : Half) (start : Option Nat) :
    Untouched Machine.buffers (giveBack id h start) := fun s => by
  rw [run_giveBack]
  dsimp only
  repeat' split
  all_goals rfl

theorem start_buffers (l : Lane) (ring periph : Nat) :
    Untouched Machine.buffers (start l ring periph) := fun s => by
  rw [run_start]
  dsimp only
  repeat' split
  all_goals rfl

theorem configure_buffers (maxRead : Int) : Untouched Machine.buffers (configure id maxRead) :=
  fun _ => rfl

theorem pause_buffers : Untouched Machine.buffers (pause id) := fun s => by
  rw [run_pause]
  repeat' split
  all_goals rfl

theorem resume_buffers : Untouched Machine.buffers (resume id) := fun s => by
  rw [run_resume]
  repeat' split
  all_goals rfl

theorem remaining_buffers : Untouched Machine.buffers (remaining id) := fun s => by
  rw [run_remaining]
  repeat' split
  all_goals rfl

theorem stop_buffers : Untouched Machine.buffers (stop id) := fun s => by
  rw [run_stop]
  repeat' split
  all_goals rfl

end Stream

namespace Machine

/-- The marks of buffer `id` are those that `B` shared and `M` exclusive borrows of it,
running their callbacks, call for; a handle that names no buffer yet has no borrows. -/
def MarksAt (id B M : Nat) (s : Machine) : Prop :=
  match s.buffers[id]? with
  | some b => b.Marks B M
  | none => B = 0 ∧ M = 0

namespace MarksAt

variable {id B M : Nat} {s : Machine}

/-- Changing another buffer leaves the marks of this one. -/
theorem modify_of_ne (h : MarksAt id B M s) {j : Nat} (hj : j ≠ id) (f : Buffer → Buffer) :
    MarksAt id B M { s with buffers := s.buffers.modify j f } := by
  unfold MarksAt at h ⊢
  simp only [Array.getElem?_modify, hj, if_false]
  exact h

/-- Changing this buffer gives it the marks that the change gives. -/
theorem modify_self {B' M' : Nat} (f : Buffer → Buffer)
    (hf : ∀ b, s.buffers[id]? = some b → (f b).Marks B' M')
    (hnone : s.buffers[id]? = none → B' = 0 ∧ M' = 0) :
    MarksAt id B' M' { s with buffers := s.buffers.modify id f } := by
  unfold MarksAt
  simp only [Array.getElem?_modify, if_true]
  cases hb : s.buffers[id]? with
  | none => exact hnone hb
  | some b => exact hf b hb

/-- A change that keeps every buffer's marks keeps these. -/
theorem modify (h : MarksAt id B M s) (j : Nat) {f : Buffer → Buffer}
    (hf : ∀ b B M, b.Marks B M → (f b).Marks B M) :
    MarksAt id B M { s with buffers := s.buffers.modify j f } := by
  by_cases hj : j = id
  · subst hj
    refine modify_self f (fun b hb => hf b B M ?_) (fun hb => ?_)
    · unfold MarksAt at h
      rw [hb] at h
      exact h
    · unfold MarksAt at h
      rw [hb] at h
      exact h
  · exact h.modify_of_ne hj f

/-- The marks of a buffer depend on the buffers alone. -/
theorem of_buffers {s' : Machine} (h : MarksAt id B M s) (hb : s'.buffers = s.buffers) :
    MarksAt id B M s' := by
  unfold MarksAt at h ⊢
  rw [hb]
  exact h

/-- Where no writer holds buffer `id`, a shared borrow's mark counts one more borrow. -/
theorem borrowed (h : MarksAt id B M s) {b : Buffer} (hb : s.buffers[id]? = some b)
    (hw : b.writing = false) :
    MarksAt id (B + 1) M
      { s with buffers := s.buffers.modify id fun b => { b with readers := b.readers + 1 } } := by
  refine modify_self _ (fun b' hb' => ?_) (fun hn => by rw [hb] at hn; cases hn)
  unfold MarksAt at h
  rw [hb] at h
  rw [hb] at hb'
  cases hb'
  exact h.borrow hw

/-- Taking a shared borrow's mark back counts one borrow less. -/
theorem unborrowed (h : MarksAt id (B + 1) M s) :
    MarksAt id B M
      { s with buffers := s.buffers.modify id fun b => { b with readers := b.readers - 1 } } := by
  refine modify_self _ (fun b hb => ?_) (fun hn => ?_)
  · unfold MarksAt at h
    rw [hb] at h
    exact h.unborrow
  · unfold MarksAt at h
    rw [hn] at h
    omega

/-- Where nothing holds buffer `id`, an exclusive borrow's mark makes it the one borrow. -/
theorem borrowedMut (h : MarksAt id B M s) {b : Buffer} (hb : s.buffers[id]? = some b)
    (hw : b.canWrite = true) :
    B = 0 ∧ M = 0 ∧
      MarksAt id 0 1 { s with buffers := s.buffers.modify id fun b => { b with writing := true } } := by
  unfold MarksAt at h
  rw [hb] at h
  obtain ⟨rfl, rfl, hmark⟩ := h.borrowMut hw
  refine ⟨rfl, rfl, modify_self _ (fun b' hb' => ?_) (fun hn => by rw [hb] at hn; cases hn)⟩
  rw [hb] at hb'
  cases hb'
  exact hmark

/-- Taking the writer's mark back leaves no borrow. -/
theorem unborrowedMut (h : MarksAt id 0 1 s) :
    MarksAt id 0 0
      { s with buffers := s.buffers.modify id fun b => { b with writing := false } } := by
  refine modify_self _ (fun b hb => ?_) (fun _ => ⟨rfl, rfl⟩)
  unfold MarksAt at h
  rw [hb] at h
  exact h.unborrowMut

/-- A shared borrow of a buffer that an exclusive borrow or a writing transfer holds is
refused, before its callback runs, and leaves the machine as it was. -/
theorem borrow_refused (h : MarksAt id B M s) {b : Buffer} (hb : s.buffers[id]? = some b)
    (hw : 0 < M ∨ b.access = .mutLocked) {α : Type} (f : Array UInt32 → Act α) :
    (Buffer.borrow id f).run s = .error .bufferWritten s := by
  unfold MarksAt at h
  rw [hb] at h
  rw [Buffer.run_borrow, hb]
  simp only [h.writing_of hw, if_true]

/-- An exclusive borrow of a buffer that any borrow or transfer holds is refused, before
its callback runs, and leaves the machine as it was. -/
theorem borrowMut_refused (h : MarksAt id B M s) {b : Buffer} (hb : s.buffers[id]? = some b)
    (hc : 0 < B ∨ 0 < M ∨ b.access ≠ .unlocked) {α : Type} (f : Array UInt32 → Act α) :
    (Buffer.borrowMut id f).run s = .error .bufferShared s := by
  unfold MarksAt at h
  rw [hb] at h
  rw [Buffer.run_borrowMut, hb]
  simp only [h.canWrite_of hc, Bool.not_false, if_true]

/-- A callback run between a change of buffer `j` and a second change, which together
keep buffer `id`'s marks, keeps them, whether it returns or breaks off. -/
theorem around {α : Type} {x : Act α} {B' M' : Nat} (j : Nat) (mark unmark : Buffer → Buffer)
    (hmark : MarksAt id B' M' { s with buffers := s.buffers.modify j mark })
    (hx : Keeps (MarksAt id B' M') x)
    (hunmark : ∀ s', MarksAt id B' M' s' →
      MarksAt id B M { s' with buffers := s'.buffers.modify j unmark }) :
    MarksAt id B M (finalState
      (match x.run { s with buffers := s.buffers.modify j mark } with
        | .ok a s' => (.ok a { s' with buffers := s'.buffers.modify j unmark } :
            EStateM.Result Fault Machine α)
        | .error e s' => .error e { s' with buffers := s'.buffers.modify j unmark })) :=
  final_around (I := MarksAt id B M) (J := MarksAt id B' M')
    (fun s => { s with buffers := s.buffers.modify j mark })
    (fun s' => { s' with buffers := s'.buffers.modify j unmark }) s hmark hx hunmark

/-- A shared borrow gives its buffer one more shared borrow while the callback runs and
takes it back after; a borrow of another buffer leaves these marks. -/
theorem keeps_borrow {α : Type} (id' : Nat) {f : Array UInt32 → Act α}
    (hf : ∀ items B M, Keeps (MarksAt id B M) (f items)) :
    Keeps (MarksAt id B M) (Buffer.borrow id' f) := by
  intro s hs
  rw [Buffer.run_borrow]
  cases hb : s.buffers[id']? with
  | none => exact hs
  | some b =>
    dsimp only
    cases hw : b.writing
    case true => exact hs
    simp only [Bool.false_eq_true, if_false]
    by_cases hj : id' = id
    · subst hj
      exact around id' _ _ (hs.borrowed hb hw) (hf b.items (B + 1) M) fun _ h => h.unborrowed
    · exact around id' _ _ (hs.modify_of_ne hj _) (hf b.items B M) fun _ h => h.modify_of_ne hj _

/-- An exclusive borrow begins only with no other borrow of its buffer, marks the writer
while the callback runs and takes the mark back after; a borrow of another buffer leaves
these marks. -/
theorem keeps_borrowMut {α : Type} (id' : Nat) {f : Array UInt32 → Act α}
    (hf : ∀ items B M, Keeps (MarksAt id B M) (f items)) :
    Keeps (MarksAt id B M) (Buffer.borrowMut id' f) := by
  intro s hs
  rw [Buffer.run_borrowMut]
  cases hb : s.buffers[id']? with
  | none => exact hs
  | some b =>
    dsimp only
    cases hw : b.canWrite
    case false => exact hs
    simp only [Bool.not_true, Bool.false_eq_true, if_false]
    by_cases hj : id' = id
    · subst hj
      obtain ⟨rfl, rfl, h₁⟩ := hs.borrowedMut hb hw
      exact around id' _ _ h₁ (hf b.items 0 1) fun _ h => h.unborrowedMut
    · exact around id' _ _ (hs.modify_of_ne hj _) (hf b.items B M) fun _ h => h.modify_of_ne hj _

/-- Starting a transfer locks its buffer, which keeps the buffer's marks; it touches no
other buffer. -/
theorem keeps_start (dir : Direction) (l : Lane) (buf periph : Nat) :
    Keeps (MarksAt id B M) (Transfer.start dir l buf periph) := by
  intro s hs
  -- whatever a start does to the buffers, it does by locking buffer `buf`
  have hlock : ∀ b b', s.buffers[buf]? = some b → dir.lock b = some b' →
      MarksAt id B M { s with buffers := s.buffers.modify buf fun _ => b' } := by
    intro b b' hb hl
    by_cases hj : buf = id
    · subst hj
      refine modify_self _ (fun b₀ hb₀ => ?_) (fun hn => by rw [hb] at hn; cases hn)
      unfold MarksAt at hs
      rw [hb] at hs
      exact hs.lock hl
    · exact hs.modify_of_ne hj _
  rw [Transfer.run_start]
  split
  · exact hs
  cases hb : s.buffers[buf]? with
  | none => exact hs
  | some b =>
    dsimp only
    split
    · exact hs
    cases hl : dir.lock b with
    | none => exact hs
    | some b' =>
      dsimp only
      cases hp : s.peripherals[periph]? with
      | none => exact hlock b b' hb hl
      | some p => exact (hlock b b' hb hl).of_buffers rfl

/-- Handing a transfer back unlocks its buffer, which keeps the buffer's marks. -/
theorem handBack (h : MarksAt id B M s) (id' : Nat) (t : Transfer) (mask : UInt32)
    (c : Counters) : MarksAt id B M (s.handBack id' t mask c) :=
  (h.modify t.buffer fun _ _ _ hb => hb.unlock).of_buffers rfl

/-- A wait reads the status word, which touches no buffer, and then hands the transfer's
buffer back. -/
theorem keeps_wait (id' : Nat) : Keeps (MarksAt id B M) (Transfer.wait id') := by
  intro s hs
  rcases Transfer.wait_final id' s with heq | ⟨t, k, p, -, -, hend⟩
  · rw [heq]
    exact hs
  -- the loop of status reads leaves the buffers
  have hread : MarksAt id B M
      { s with bank := s.bank.readN k, counters := { s.counters with polls := p } } :=
    hs.of_buffers rfl
  rcases hend with heq | ⟨mask, c, -, heq⟩ <;> rw [heq]
  · exact hread
  · exact hread.handBack id' t _ _

/-- An operation that touches no buffer keeps every buffer's marks. -/
theorem keeps_of_untouched {α : Type} {x : Act α} (hx : Untouched buffers x) :
    Keeps (MarksAt id B M) x :=
  hx.keeps fun _ _ hb h => h.of_buffers hb

/-- A new buffer comes with no borrow, at the handle no buffer had. -/
theorem keeps_addBuffer (w : Width) (items : Array UInt32) :
    Keeps (MarksAt id B M) (addBuffer { width := w, items }) := by
  intro s hs
  show MarksAt id B M { s with buffers := s.buffers.push { width := w, items } }
  unfold MarksAt at hs ⊢
  by_cases hid : id = s.buffers.size
  · subst hid
    rw [Array.getElem?_eq_none (Nat.le_refl _)] at hs
    obtain ⟨rfl, rfl⟩ := hs
    rw [Array.getElem?_push_size]
    exact Buffer.Marks.new w items
  · rw [Array.getElem?_push, if_neg hid]
    exact hs

/-- The engine writing a buffer's items changes no mark. -/
theorem keeps_fill (id' offset : Nat) (data : List UInt32) :
    Keeps (MarksAt id B M) (modifyBuffer id' (·.fill offset data)) :=
  fun _ hs => hs.modify id' fun _ _ _ hb => hb.fill offset data

end MarksAt

end Machine

/-! ## Every client program keeps the marks -/

open Machine

namespace Client

/-- Every client program keeps the marks of buffer `id` that `B` shared and `M` exclusive
borrows of it call for, whether it returns or breaks off. -/
theorem keeps_marksAt {α : Type} {x : Act α} (hx : Client x) (id : Nat) :
    ∀ B M, Keeps (MarksAt id B M) x := by
  induction hx with
  | pure a => exact fun _ _ => keeps_pure a
  | get => exact fun _ _ => keeps_get
  | throw e => exact fun _ _ => keeps_throw e
  | bind _ _ ihx ihk => exact fun B M => keeps_bind (ihx B M) fun a => ihk a B M
  | tryCatch _ _ ihx ihh => exact fun B M => keeps_tryCatch (ihx B M) fun e => ihh e B M
  | configure l p => exact fun _ _ => MarksAt.keeps_of_untouched (l.configure_buffers p)
  | listen l e => exact fun _ _ => MarksAt.keeps_of_untouched (l.listen_buffers e)
  | unlisten l e => exact fun _ _ => MarksAt.keeps_of_untouched (l.unlisten_buffers e)
  | inUse l => exact fun _ _ => MarksAt.keeps_of_untouched l.inUse_buffers
  | laneRemaining l => exact fun _ _ => MarksAt.keeps_of_untouched l.remaining_buffers
  | newBuffer w items => exact fun _ _ => MarksAt.keeps_addBuffer w items
  | newRing w items => exact fun _ _ => MarksAt.keeps_of_untouched (addRing_buffers _)
  | newPeripheral p => exact fun _ _ => MarksAt.keeps_of_untouched (addPeripheral_buffers p)
  | borrow id' _ ih => exact fun _ _ => MarksAt.keeps_borrow id' ih
  | borrowMut id' _ ih => exact fun _ _ => MarksAt.keeps_borrowMut id' ih
  | startTransfer dir l buf periph =>
    exact fun _ _ => keeps_bind (MarksAt.keeps_of_untouched (peripheral_buffers periph))
      fun _ => MarksAt.keeps_start dir l buf periph
  | isDone id' => exact fun _ _ => MarksAt.keeps_of_untouched (Transfer.isDone_buffers id')
  | poll id' => exact fun _ _ => MarksAt.keeps_of_untouched (Transfer.poll_buffers id')
  | transferRemaining id' =>
    exact fun _ _ => MarksAt.keeps_of_untouched (Transfer.remaining_buffers id')
  | wait id' => exact fun _ _ => MarksAt.keeps_wait id'
  | startStream l ring periph =>
    exact fun _ _ => keeps_bind (MarksAt.keeps_of_untouched (peripheral_buffers periph))
      fun _ => MarksAt.keeps_of_untouched (Stream.start_buffers l ring periph)
  | configureStream id' maxRead =>
    exact fun _ _ => MarksAt.keeps_of_untouched (Stream.configure_buffers id' maxRead)
  | peek id' _ ih =>
    exact fun B M => Stream.keeps_peek id'
      (MarksAt.keeps_of_untouched (Stream.takeHalf_buffers id'))
      (fun h start => MarksAt.keeps_of_untouched (Stream.giveBack_buffers id' h start))
      fun data h => ih data h B M
  | pause id' => exact fun _ _ => MarksAt.keeps_of_untouched (Stream.pause_buffers id')
  | resume id' => exact fun _ _ => MarksAt.keeps_of_untouched (Stream.resume_buffers id')
  | streamRemaining id' => exact fun _ _ => MarksAt.keeps_of_untouched (Stream.remaining_buffers id')
  | stop id' => exact fun _ _ => MarksAt.keeps_of_untouched (Stream.stop_buffers id')
  | raise l e => exact fun _ _ => MarksAt.keeps_of_untouched (modifyBank_buffers _)
  | after polls l e => exact fun _ _ => MarksAt.keeps_of_untouched (modifyBank_buffers _)
  | status l => exact fun _ _ => MarksAt.keeps_of_untouched l.readStatus_buffers
  | fillBuffer id' offset data => exact fun _ _ => MarksAt.keeps_fill id' offset data
  | fillRing id' offset data => exact fun _ _ => MarksAt.keeps_of_untouched (modifyRing_buffers id' _)
  | sleep us => exact fun _ _ => MarksAt.keeps_of_untouched (sleep_buffers us)

end Client

/-- The marks of every buffer count the borrows of it whose callbacks are running, at every
point of every client program, whether it returns or breaks off: a shared borrow's callback
sees one borrow more, an exclusive borrow's callback sees itself alone and runs only where no
other borrow does, and a borrow the marks refuse, like a refused start, changes nothing. -/
theorem marks_count_borrows (id B M : Nat) :
    (∀ {α : Type} (x : Act α), Client x → Keeps (MarksAt id B M) x) ∧
    (∀ s s₁ s₂, MarksAt id B M s →
      (Buffer.borrow id fun _ => get).run s = .ok s₁ s₂ → MarksAt id (B + 1) M s₁) ∧
    (∀ s s₁ s₂, MarksAt id B M s →
      (Buffer.borrowMut id fun _ => get).run s = .ok s₁ s₂ →
        B = 0 ∧ M = 0 ∧ MarksAt id 0 1 s₁) ∧
    (∀ {α : Type} (f : Array UInt32 → Act α) s b, MarksAt id B M s → s.buffers[id]? = some b →
      (0 < M ∨ b.access = .mutLocked) → (Buffer.borrow id f).run s = .error .bufferWritten s) ∧
    (∀ {α : Type} (f : Array UInt32 → Act α) s b, MarksAt id B M s → s.buffers[id]? = some b →
      (0 < B ∨ 0 < M ∨ b.access ≠ .unlocked) →
        (Buffer.borrowMut id f).run s = .error .bufferShared s) ∧
    (∀ dir l periph s s' (r : Refusal),
      (Transfer.start dir l id periph).run s = .ok (.error r) s' → s' = s) := by
  refine ⟨fun x hx => hx.keeps_marksAt id B M, ?_, ?_,
    fun f _ _ hs hb hw => hs.borrow_refused hb hw f,
    fun f _ _ hs hb hc => hs.borrowMut_refused hb hc f, fun _ _ _ _ _ _ h => Transfer.start_refused h⟩
  · intro s s₁ s₂ hs hrun
    rw [Buffer.run_borrow] at hrun
    cases hb : s.buffers[id]? with
    | none => simp only [hb] at hrun; cases hrun
    | some b =>
      cases hw : b.writing
      · simp only [hb, hw, Bool.false_eq_true, if_false, EStateM.run_get] at hrun
        cases hrun
        exact hs.borrowed hb hw
      · simp only [hb, hw, if_true] at hrun
        cases hrun
  · intro s s₁ s₂ hs hrun
    rw [Buffer.run_borrowMut] at hrun
    cases hb : s.buffers[id]? with
    | none => simp only [hb] at hrun; cases hrun
    | some b =>
      cases hw : b.canWrite
      · simp only [hb, hw, Bool.not_false, if_true] at hrun
        cases hrun
      · simp only [hb, hw, Bool.not_true, Bool.false_eq_true, if_false, EStateM.run_get] at hrun
        cases hrun
        exact hs.borrowedMut hb hw

/-- From the split with one buffer: a shared borrow's callback sees one shared borrow, and an
exclusive borrow inside a shared one is refused, the outer mark undone as the fault passes out. -/
theorem borrow_inside_borrow_undone :
    let s := finalState ((addBuffer { width := .w8, items := #[1, 2] }).run
      (finalState (takeLanes.run ({} : Machine))))
    MarksAt 0 0 0 s ∧
    (∃ s₁ s₂, (Buffer.borrow 0 fun _ => get).run s = .ok s₁ s₂ ∧ MarksAt 0 1 0 s₁) ∧
    MarksAt 0 0 0 (finalState ((Buffer.borrow 0 fun _ =>
      Buffer.borrowMut 0 fun _ => (pure () : Act Unit)).run s)) := by
  dsimp only
  have hs : MarksAt 0 0 0 (finalState ((addBuffer { width := .w8, items := #[1, 2] }).run
      (finalState (takeLanes.run ({} : Machine))))) := Buffer.Marks.new .w8 #[1, 2]
  refine ⟨hs, ⟨_, _, rfl, (marks_count_borrows 0 0 0).2.1 _ _ _ hs rfl⟩,
    (marks_count_borrows 0 0 0).1 _ (.borrow 0 fun _ => .borrowMut 0 fun _ => .pure ()) _ hs⟩


end DmaOwnership
