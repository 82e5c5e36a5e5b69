import DmaOwnership.Proofs.Lane.Flags
import DmaOwnership.Proofs.Spec.Transfer
import Mathlib.Data.Nat.Find
/-!
# A wait ends exactly when its lane finishes

A wait reads the status word until its lane shows its error or complete flag. A lane finishes
from a bank when some later status read finds one of them up (`Bank.Finishes`); since flags
only rise and a scheduled event stays until the read that raises it, that is exactly when one
is up already or a complete or error event is scheduled on the lane (`Bank.finishes_iff`).
The wait's loop (`Transfer.spin`) steps over the reads at which nothing falls due, so its fuel
suffices: it ends after the reads up to the first that finds the lane finished, one poll each
(`Transfer.spin_of_finishes`), and gives up with `spins` when none does
(`Transfer.spin_of_never_finishes`).
-/

namespace DmaOwnership

namespace Bank

/-- Whether the status word shows the lane finished: its error or its complete flag is up. -/
def finished (b : Bank) (l : Lane) : Bool :=
  (LaneStatus.ofWord l b.flags).error || (LaneStatus.ofWord l b.flags).complete

/-- Some read of the status word, made from this bank on, finds the lane finished. -/
def Finishes (b : Bank) (l : Lane) : Prop :=
  ∃ k, (b.readN (k + 1)).finished l = true

/-- The lane's error flag is bit `4i + 3` and its complete flag bit `4i + 1`. -/
theorem finished_eq (b : Bank) (l : Lane) : b.finished l =
    (b.flags.toBitVec.getLsbD (4 * l.index.val + 3) ||
      b.flags.toBitVec.getLsbD (4 * l.index.val + 1)) := by
  simp only [finished, LaneStatus.ofWord_eq]

theorem Rises.finished {l : Lane} {b b' : Bank} (h : Rises l b b') (hf : b.finished l = true) :
    b'.finished l = true := by
  unfold Bank.finished at hf ⊢
  rcases Bool.or_eq_true_iff.mp hf with he | hc
  · rw [h.error he, Bool.true_or]
  · rw [h.complete hc, Bool.or_true]

/-- A lane shown finished stays so at every later read. -/
theorem finished_readN_of_le {l : Lane} {b : Bank} {j k : Nat} (hjk : j ≤ k)
    (h : (b.readN j).finished l = true) : (b.readN k).finished l = true := by
  obtain ⟨d, rfl⟩ := Nat.exists_eq_add_of_le hjk
  rw [← readN_add]
  exact (rises_readN l _ d).finished h

/-! ## The schedule across reads -/

theorem mem_schedule_of_status {b : Bank} {x : Scheduled} (h : x ∈ b.status.2.schedule) :
    x ∈ b.schedule := by
  rw [schedule_status, List.mem_filter] at h
  exact h.1

theorem mem_schedule_of_readN {b : Bank} {x : Scheduled} {k : Nat}
    (h : x ∈ (b.readN k).schedule) : x ∈ b.schedule := by
  induction k with
  | zero => exact h
  | succ k ih => exact ih (mem_schedule_of_status h)

/-- An event stays scheduled through every read before its time. -/
theorem mem_schedule_readN {b : Bank} {x : Scheduled} (hx : x ∈ b.schedule) {k : Nat}
    (hk : ∀ j < k, ((b.reads + j + 1 : Nat) : Int) < x.due) : x ∈ (b.readN k).schedule := by
  induction k with
  | zero => exact hx
  | succ k ih =>
    have hlt := hk k (Nat.lt_succ_self k)
    rw [readN_succ, schedule_status, List.mem_filter, reads_readN]
    refine ⟨ih fun j hj => hk j (by omega), ?_⟩
    simp only [Bool.not_eq_eq_eq_not, Bool.not_true, decide_eq_false_iff_not, Int.not_le]
    omega

/-! ## Which events finish a lane -/

theorem raise_complete_getLsbD (b : Bank) (l : Lane) :
    (b.raise l .complete).flags.toBitVec.getLsbD (4 * l.index.val + 1) = true := by
  have hf : (b.raise l .complete).flags = b.flags ||| l.globalFlag ||| l.completeFlag := rfl
  simp [hf, BitVec.getLsbD_or, Lane.completeFlag_getLsbD]

theorem raise_error_getLsbD (b : Bank) (l : Lane) :
    (b.raise l .error).flags.toBitVec.getLsbD (4 * l.index.val + 3) = true := by
  have hf : (b.raise l .error).flags = b.flags ||| l.globalFlag ||| l.errorFlag := rfl
  simp [hf, BitVec.getLsbD_or, Lane.errorFlag_getLsbD]

/-- A bit that the raise of one of the events sets is set once they are all raised. -/
theorem getLsbD_foldl_raise_of_mem {due : List Scheduled} {x : Scheduled} (hx : x ∈ due)
    {k : Nat} (hk : ∀ acc : Bank, (acc.raise x.lane x.event).flags.toBitVec.getLsbD k = true)
    (b : Bank) :
    (due.foldl (fun acc y => acc.raise y.lane y.event) b).flags.toBitVec.getLsbD k = true := by
  induction due generalizing b with
  | nil => cases hx
  | cons y rest ih =>
    rw [List.foldl_cons]
    rcases List.mem_cons.mp hx with rfl | hrest
    · exact getLsbD_foldl_raise rest (hk b)
    · exact ih hrest _

/-- A read at which transfer-complete or an error falls due on the lane finds it finished. -/
theorem finished_status_of_due {b : Bank} {x : Scheduled} (hx : x ∈ b.fallingDue)
    (he : x.event = .complete ∨ x.event = .error) : b.status.2.finished x.lane = true := by
  rw [status_snd, finished_eq]
  rcases he with hc | he
  · rw [getLsbD_foldl_raise_of_mem hx (k := 4 * x.lane.index.val + 1)
      (fun acc => hc ▸ raise_complete_getLsbD acc x.lane), Bool.or_true]
  · rw [getLsbD_foldl_raise_of_mem hx (k := 4 * x.lane.index.val + 3)
      (fun acc => he ▸ raise_error_getLsbD acc x.lane), Bool.true_or]

/-- A scheduled transfer-complete or error shows its lane finished at the first read numbered
its time or later. -/
theorem finished_readN_of_scheduled {b : Bank} {x : Scheduled} (hx : x ∈ b.schedule)
    (he : x.event = .complete ∨ x.event = .error) :
    (b.readN ((x.due - ((b.reads + 1 : Nat) : Int)).toNat + 1)).finished x.lane = true := by
  generalize hk : (x.due - ((b.reads + 1 : Nat) : Int)).toNat = k
  have hkept : x ∈ (b.readN k).schedule := mem_schedule_readN hx fun j hj => by omega
  have hdue : x ∈ (b.readN k).fallingDue := by
    unfold fallingDue
    rw [List.mem_filter, reads_readN]
    exact ⟨hkept, by simp only [decide_eq_true_eq]; omega⟩
  exact finished_status_of_due hdue he

/-- A scheduled transfer-complete or error finishes its lane. -/
theorem finishes_of_scheduled {b : Bank} {x : Scheduled} (hx : x ∈ b.schedule)
    (he : x.event = .complete ∨ x.event = .error) : b.Finishes x.lane :=
  ⟨_, finished_readN_of_scheduled hx he⟩

/-- A raise other than transfer-complete or an error on the lane leaves it as finished as
it was: a half-transfer sets another flag, a code that names no event sets none, and an
event on another lane sets flags outside the lane's nibble. -/
theorem finished_raise_of_quiet (b : Bank) {l m : Lane} {e : Event}
    (h : m = l → e ≠ .complete ∧ e ≠ .error) : (b.raise m e).finished l = b.finished l := by
  by_cases hm : m = l
  · subst hm
    obtain ⟨hc, he⟩ := h rfl
    by_cases hh : e = .half
    · subst hh
      simp only [finished, LaneStatus.ofWord_raise_half]
    · have hb : b.raise m e = b := by
        unfold raise
        simp only [hc, hh, he, if_false]
      rw [hb]
  · simp only [finished, LaneStatus.ofWord_raise_of_ne b hm]

theorem finished_foldl_raise_of_quiet {l : Lane} {due : List Scheduled}
    (hdue : ∀ x ∈ due, x.lane = l → x.event ≠ .complete ∧ x.event ≠ .error) (acc : Bank) :
    (due.foldl (fun acc x => acc.raise x.lane x.event) acc).finished l = acc.finished l := by
  induction due generalizing acc with
  | nil => rfl
  | cons x rest ih =>
    rw [List.foldl_cons, ih (fun y hy => hdue y (List.mem_cons_of_mem x hy))]
    exact finished_raise_of_quiet acc (hdue x List.mem_cons_self)

/-- Where no event that finishes the lane is scheduled, a read leaves it unfinished. -/
theorem not_finished_status {b : Bank} {l : Lane} (hf : b.finished l = false)
    (hq : ∀ x ∈ b.schedule, x.lane = l → x.event ≠ .complete ∧ x.event ≠ .error) :
    b.status.2.finished l = false := by
  have hdue : ∀ x ∈ b.fallingDue, x.lane = l → x.event ≠ .complete ∧ x.event ≠ .error :=
    fun x hx => hq x (List.mem_filter.mp hx).1
  rw [status_snd, finished_foldl_raise_of_quiet hdue]
  -- the read itself leaves the flags as they were
  exact hf

/-- Where the lane is unfinished and no event that finishes it is scheduled, no read ever
finds it finished. -/
theorem not_finished_readN {b : Bank} {l : Lane} (hf : b.finished l = false)
    (hq : ∀ x ∈ b.schedule, x.lane = l → x.event ≠ .complete ∧ x.event ≠ .error) (k : Nat) :
    (b.readN k).finished l = false := by
  induction k with
  | zero => exact hf
  | succ k ih =>
    rw [readN_succ]
    exact not_finished_status ih fun x hx => hq x (mem_schedule_of_readN hx)

/-- A lane finishes exactly when it shows finished already, or transfer-complete or an
error is scheduled on it. -/
theorem finishes_iff (b : Bank) (l : Lane) : b.Finishes l ↔
    b.finished l = true ∨ ∃ x ∈ b.schedule, x.lane = l ∧ (x.event = .complete ∨ x.event = .error) := by
  constructor
  · rintro ⟨k, hk⟩
    cases hf : b.finished l with
    | true => exact Or.inl rfl
    | false =>
      refine Or.inr (Classical.byContradiction fun hn => ?_)
      have hq : ∀ x ∈ b.schedule, x.lane = l → x.event ≠ .complete ∧ x.event ≠ .error :=
        fun x hx hl => ⟨fun h => hn ⟨x, hx, hl, Or.inl h⟩, fun h => hn ⟨x, hx, hl, Or.inr h⟩⟩
      rw [not_finished_readN hf hq] at hk
      cases hk
  · rintro (hf | ⟨x, hx, rfl, he⟩)
    · exact ⟨0, (rises_readN l b 1).finished hf⟩
    · exact finishes_of_scheduled hx he

/-- A lane that finishes but has not finished yet is waiting for a scheduled event. -/
theorem schedule_ne_nil_of_finishes {b : Bank} {l : Lane} (h : b.Finishes l)
    (hf : b.finished l = false) : b.schedule ≠ [] := by
  intro he
  rw [finishes_iff, hf, he] at h
  simp at h

/-! ## The test before a wait -/

/-- Two words share a bit exactly when their conjunction is not zero. -/
theorem and_ne_zero_iff (w m : UInt32) : (w &&& m != 0) = true ↔
    ∃ k, w.toBitVec.getLsbD k = true ∧ m.toBitVec.getLsbD k = true := by
  rw [bne_iff_ne, ne_eq]
  constructor
  · intro h
    refine Classical.byContradiction fun hn => h ?_
    apply UInt32.toBitVec_inj.mp
    apply BitVec.eq_of_getLsbD_eq
    intro k _
    simp only [UInt32.toBitVec_and, BitVec.getLsbD_and, UInt32.toBitVec_zero, BitVec.getLsbD_zero]
    cases hw : w.toBitVec.getLsbD k with
    | false => rfl
    | true =>
      cases hm : m.toBitVec.getLsbD k with
      | false => rfl
      | true => exact absurd ⟨k, hw, hm⟩ hn
  · rintro ⟨k, hw, hm⟩ heq
    have hk := congrArg (fun x : UInt32 => x.toBitVec.getLsbD k) heq
    simp [BitVec.getLsbD_and, hw, hm] at hk

/-- The status word shows the lane finished exactly when it shares a bit with the lane's
complete and error flags. -/
theorem and_complete_or_error_ne_zero (b : Bank) (l : Lane) :
    (b.flags &&& (l.completeFlag ||| l.errorFlag) != 0) = b.finished l := by
  rw [Bool.eq_iff_iff, and_ne_zero_iff, finished_eq]
  simp only [UInt32.toBitVec_or, BitVec.getLsbD_or, Lane.completeFlag_getLsbD,
    Lane.errorFlag_getLsbD, Bool.or_eq_true, decide_eq_true_eq]
  constructor
  · rintro ⟨k, hk, rfl | rfl⟩
    · exact Or.inr hk
    · exact Or.inl hk
  · rintro (h | h)
    · exact ⟨_, h, Or.inr rfl⟩
    · exact ⟨_, h, Or.inl rfl⟩

/-- The events pending on a lane are those of the events scheduled on it. -/
theorem any_pending (b : Bank) (l : Lane) (p : Event → Bool) :
    (b.pending l).any p = true ↔ ∃ x ∈ b.schedule, x.lane = l ∧ p x.event = true := by
  simp only [pending, List.any_map, List.any_eq_true, List.mem_filter, decide_eq_true_eq,
    Function.comp_apply, and_assoc]

end Bank

/-- The machine after a wait made `k` status reads, with a poll counted for each. -/
def Machine.polled (s : Machine) (k : Nat) : Machine :=
  { s with bank := s.bank.readN k,
           counters := { s.counters with polls := s.counters.polls + k.toUInt32 } }

@[simp] theorem Machine.polled_bank (s : Machine) (k : Nat) : (s.polled k).bank = s.bank.readN k :=
  rfl

/-- Reads made in two runs are the reads of one run, polls included. -/
theorem Machine.polled_polled (s : Machine) (j k : Nat) : (s.polled j).polled k = s.polled (j + k) := by
  simp only [Machine.polled, Bank.readN_add, Nat.toUInt32, UInt32.ofNat_add, UInt32.add_assoc]

namespace Transfer

/-- The test a caller can make before a wait holds exactly when the wait's lane finishes. -/
theorem settles_iff_finishes (b : Bank) (l : Lane) : settles b l = true ↔ b.Finishes l := by
  rw [Bank.finishes_iff, settles, Bool.or_eq_true, Bank.and_complete_or_error_ne_zero,
    Bank.any_pending]
  simp only [Bool.or_eq_true, decide_eq_true_eq]

/-! ## The loop of a wait -/

/-- The reads one turn of a wait steps over before the read it makes: none when the lane
shows finished, else those at which nothing falls due. -/
def stepOver (b : Bank) (l : Lane) : Nat := if b.finished l then 0 else b.quietReads

/-- The reads a turn steps over find the lane as it was. -/
theorem finished_readN_of_le_stepOver {b : Bank} {l : Lane} {j : Nat} (hj : j ≤ stepOver b l) :
    (b.readN j).finished l = b.finished l := by
  cases hf : b.finished l
  · have hq : j ≤ b.quietReads := by simpa [stepOver, hf] using hj
    rw [Bank.readN_of_le_quietReads b hq, ← hf]
    rfl
  · have h0 : j = 0 := by simpa [stepOver, hf] using hj
    rw [h0, Bank.readN_zero, hf]

/-- A turn never steps over a read that finds the lane finished. -/
theorem stepOver_le {b : Bank} {l : Lane} {k : Nat} (hk : (b.readN (k + 1)).finished l = true) :
    stepOver b l ≤ k := by
  refine Nat.le_of_not_lt fun hlt => ?_
  have hsame := finished_readN_of_le_stepOver (l := l) (Nat.succ_le_of_lt hlt)
  cases hf : b.finished l
  · rw [hk, hf] at hsame
    cases hsame
  · simp only [stepOver, hf, if_true] at hlt
    omega

/-- The read a turn makes after the reads it steps over takes the earliest scheduled event
off the schedule, unless the lane shows finished. -/
theorem length_schedule_turn {b : Bank} {l : Lane} (hf : b.finished l = false)
    (h : b.schedule ≠ []) : (b.readN (stepOver b l + 1)).schedule.length < b.schedule.length := by
  obtain ⟨m, hm⟩ : ∃ m, (b.schedule.map (·.due)).min? = some m :=
    Option.ne_none_iff_exists'.mp (by simp [List.min?_eq_none_iff, h])
  obtain ⟨x, hx, rfl⟩ := List.mem_map.mp (List.min?_eq_some_iff.mp hm).1
  have hq : stepOver b l = (x.due - ((b.reads + 1 : Nat) : Int)).toNat := by
    simp only [stepOver, hf, Bool.false_eq_true, if_false, Bank.quietReads, hm]
  rw [Bank.readN_succ, Bank.readN_of_le_quietReads b (by simp [stepOver, hf]),
    Bank.schedule_status]
  -- the earliest event falls due at that read
  refine List.length_filter_lt_length_iff_exists.mpr ⟨x, hx, ?_⟩
  simp only [hq, Bool.not_eq_eq_eq_not, Bool.not_true, decide_eq_false_iff_not, Int.not_le,
    Int.not_lt]
  omega

/-- One turn of a wait's loop: unless the lane shows finished, it steps over the reads at
which nothing falls due, and gives up when nothing is scheduled at all; then it makes one
more read, and ends if that read shows the lane finished. -/
theorem run_spin_turn (l : Lane) (fuel : Nat) (s : Machine) :
    (spin l (fuel + 1)).run s =
      if !s.bank.finished l && s.bank.schedule.isEmpty then .error .spins s
      else if (LaneStatus.ofWord l (s.polled (stepOver s.bank l + 1)).bank.flags).error then
        .ok (.error .transferError) (s.polled (stepOver s.bank l + 1))
      else if (LaneStatus.ofWord l (s.polled (stepOver s.bank l + 1)).bank.flags).complete then
        .ok (.ok ()) (s.polled (stepOver s.bank l + 1))
      else (spin l fuel).run (s.polled (stepOver s.bank l + 1)) := by
  have hrun : (!(LaneStatus.ofWord l s.bank.flags).error &&
      !(LaneStatus.ofWord l s.bank.flags).complete) = !s.bank.finished l := by
    simp only [Bank.finished, Bool.not_or]
  have hq : (if (!s.bank.finished l) = true then s.bank.quietReads else 0) = stepOver s.bank l := by
    unfold stepOver
    cases s.bank.finished l <;> rfl
  have hp : s.counters.polls + (stepOver s.bank l).toUInt32 + 1 =
      s.counters.polls + (stepOver s.bank l + 1).toUInt32 := by
    rw [UInt32.add_assoc]
    exact congrArg _ (UInt32.ofNat_add _ 1).symm
  rw [run_spin_succ]
  simp only [hrun, hq, hp]
  rfl

/-- A wait's loop on a lane that read `k + 1` finds finished, and no read before it, ends
after exactly those `k + 1` reads, with the error if that read shows one. Fuel beyond the
number of scheduled events is enough: each turn that goes on takes an event off the
schedule. -/
theorem spin_of_finishes (l : Lane) {fuel k : Nat} {s : Machine}
    (hfuel : s.bank.schedule.length < fuel) (hk : (s.bank.readN (k + 1)).finished l = true)
    (hfirst : ∀ j < k, (s.bank.readN (j + 1)).finished l = false) :
    (spin l fuel).run s = .ok
      (if (LaneStatus.ofWord l (s.bank.readN (k + 1)).flags).error then .error .transferError
        else .ok ()) (s.polled (k + 1)) := by
  induction fuel generalizing s k with
  | zero => omega
  | succ fuel ih =>
    -- the turn does not give up: the lane shows finished, or something is scheduled
    have hgo : (!s.bank.finished l && s.bank.schedule.isEmpty) = false := by
      cases hf : s.bank.finished l
      · simpa using Bank.schedule_ne_nil_of_finishes ⟨k, hk⟩ hf
      · rfl
    simp only [run_spin_turn, hgo, Bool.false_eq_true, if_false, Machine.polled_bank]
    rcases Nat.lt_or_eq_of_le (stepOver_le hk) with hlt | heq
    · -- the turn's read finds the lane unfinished, and the loop goes on from there
      have hnot : (s.bank.readN (stepOver s.bank l + 1)).finished l = false := hfirst _ hlt
      have hf : s.bank.finished l = false := Bool.eq_false_iff.mpr fun hf => by
        rw [(Bank.rises_readN l _ _).finished hf] at hnot
        cases hnot
      have hshrink : (s.polled (stepOver s.bank l + 1)).bank.schedule.length < fuel := by
        have := length_schedule_turn hf (Bank.schedule_ne_nil_of_finishes ⟨k, hk⟩ hf)
        rw [Machine.polled_bank]
        omega
      obtain ⟨d, rfl⟩ : ∃ d, k = stepOver s.bank l + 1 + d := ⟨k - (stepOver s.bank l + 1), by omega⟩
      have hk' : ((s.polled (stepOver s.bank l + 1)).bank.readN (d + 1)).finished l = true := by
        rw [Machine.polled_bank, Bank.readN_add]
        exact hk
      have hfirst' : ∀ j < d,
          ((s.polled (stepOver s.bank l + 1)).bank.readN (j + 1)).finished l = false := by
        intro j hj
        rw [Machine.polled_bank, Bank.readN_add]
        exact hfirst (stepOver s.bank l + 1 + j) (by omega)
      simp only [Bank.finished, Bool.or_eq_false_iff] at hnot
      simp only [hnot.1, hnot.2, Bool.false_eq_true, if_false]
      rw [ih hshrink hk' hfirst', Machine.polled_polled, Machine.polled_bank, Bank.readN_add]
      rfl
    · -- it is read `k + 1` that finds the lane finished
      subst heq
      by_cases he : (LaneStatus.ofWord l (s.bank.readN (stepOver s.bank l + 1)).flags).error = true
      · simp only [he, if_true]
      · have hc : (LaneStatus.ofWord l (s.bank.readN (stepOver s.bank l + 1)).flags).complete =
            true := by
          simpa [Bank.finished, he] using hk
        simp only [he, hc, Bool.false_eq_true, if_true, if_false]

/-- A wait's loop on a lane that no read ever finds finished gives up, whatever its fuel. -/
theorem spin_of_never_finishes (l : Lane) (fuel : Nat) {s : Machine} (h : ¬ s.bank.Finishes l) :
    ∃ s', (spin l fuel).run s = .error .spins s' := by
  induction fuel generalizing s with
  | zero => exact ⟨s, rfl⟩
  | succ fuel ih =>
    have hf : s.bank.finished l = false :=
      Bool.eq_false_iff.mpr fun hf => h ⟨0, (Bank.rises_readN l _ 1).finished hf⟩
    simp only [run_spin_turn, hf]
    cases he : s.bank.schedule.isEmpty
    · -- the turn reads on; its read finds the lane unfinished, and so does every read after it
      have hnot : (s.bank.readN (stepOver s.bank l + 1)).finished l = false :=
        Bool.eq_false_iff.mpr fun hq => h ⟨_, hq⟩
      simp only [Bank.finished, Bool.or_eq_false_iff] at hnot
      simp only [Bool.not_false, Bool.true_and, Bool.false_eq_true, if_false, Machine.polled_bank,
        hnot.1, hnot.2]
      refine ih fun ⟨k, hk⟩ => h ⟨stepOver s.bank l + 1 + k, ?_⟩
      rw [Machine.polled_bank, Bank.readN_add] at hk
      exact hk
    · exact ⟨s, by simp⟩

/-! ## A wait -/

/-- A wait on a transfer in flight whose lane read `k + 1` finds finished, and no read before
it, hands the transfer back from the machine after exactly those reads, with a poll counted
for each: after an error with all four flags of the lane cleared and the error counted,
otherwise with its complete flag cleared and a completion counted. -/
theorem run_wait_of_first_finish {s : Machine} {id : Nat} {t : Transfer}
    (ht : s.transfers[id]? = some t) (hlive : t.released = false) {k : Nat}
    (hk : (s.bank.readN (k + 1)).finished t.lane = true)
    (hfirst : ∀ j < k, (s.bank.readN (j + 1)).finished t.lane = false) :
    (wait id).run s =
      if (LaneStatus.ofWord t.lane (s.bank.readN (k + 1)).flags).error then
        .ok (⟨t.lane, t.buffer, t.peripheral⟩, some .transferError)
          ((s.polled (k + 1)).handBack id t t.lane.flags
            ((s.polled (k + 1)).counters.record .transferError))
      else
        .ok (⟨t.lane, t.buffer, t.peripheral⟩, none)
          ((s.polled (k + 1)).handBack id t t.lane.completeFlag
            { (s.polled (k + 1)).counters with
              completions := (s.polled (k + 1)).counters.completions + 1 }) := by
  rw [run_wait, ht]
  simp only [hlive, Bool.false_eq_true, if_false]
  rw [spin_of_finishes t.lane (Nat.lt_succ_self _) hk hfirst]
  by_cases he : (LaneStatus.ofWord t.lane (s.bank.readN (k + 1)).flags).error = true
  · simp only [he, if_true]
  · simp only [he, Bool.false_eq_true, if_false]

/-- A wait on a transfer in flight whose lane read `k + 1` finds finished, and no read
before it, makes exactly those `k + 1` status reads, then hands back the transfer's parts,
with the error if that read shows one. -/
theorem wait_of_first_finish {s : Machine} {id : Nat} {t : Transfer}
    (ht : s.transfers[id]? = some t) (hlive : t.released = false) {k : Nat}
    (hk : (s.bank.readN (k + 1)).finished t.lane = true)
    (hfirst : ∀ j < k, (s.bank.readN (j + 1)).finished t.lane = false) :
    ∃ s', (wait id).run s = .ok (⟨t.lane, t.buffer, t.peripheral⟩,
        if (LaneStatus.ofWord t.lane (s.bank.readN (k + 1)).flags).error then some .transferError
        else none) s' ∧ s'.bank.reads = s.bank.reads + (k + 1) := by
  rw [run_wait_of_first_finish ht hlive hk hfirst]
  -- the hand-back clears flags and writes a control word, and reads nothing
  by_cases he : (LaneStatus.ofWord t.lane (s.bank.readN (k + 1)).flags).error = true
  · simp only [he, if_true]
    exact ⟨_, rfl, Bank.reads_readN _ _⟩
  · simp only [he, Bool.false_eq_true, if_false]
    exact ⟨_, rfl, Bank.reads_readN _ _⟩

/-- A wait on a transfer in flight returns exactly when its lane finishes; otherwise it
gives up with `spins`, a wait that would never return. -/
theorem wait_returns_iff_finishes {s : Machine} {id : Nat} {t : Transfer}
    (ht : s.transfers[id]? = some t) (hlive : t.released = false) :
    ((∃ r s', (wait id).run s = .ok r s') ↔ s.bank.Finishes t.lane) ∧
      (¬ s.bank.Finishes t.lane → ∃ s', (wait id).run s = .error .spins s') := by
  have hgive : ¬ s.bank.Finishes t.lane → ∃ s', (wait id).run s = .error .spins s' := by
    intro hn
    obtain ⟨s', hs'⟩ := spin_of_never_finishes t.lane (s.bank.schedule.length + 1) hn
    refine ⟨s', ?_⟩
    rw [run_wait, ht]
    simp only [hlive, Bool.false_eq_true, if_false, hs']
  refine ⟨⟨fun ⟨r, s', hr⟩ => Classical.byContradiction fun hn => ?_, fun hfin => ?_⟩, hgive⟩
  · obtain ⟨s'', hs''⟩ := hgive hn
    rw [hr] at hs''
    cases hs''
  · -- the wait ends at the first read that finds the lane finished
    obtain ⟨s', hs', -⟩ := wait_of_first_finish ht hlive (Nat.find_spec hfin)
      fun j hj => Bool.eq_false_iff.mpr (Nat.find_min hfin hj)
    exact ⟨_, s', hs'⟩

end Transfer

end DmaOwnership
