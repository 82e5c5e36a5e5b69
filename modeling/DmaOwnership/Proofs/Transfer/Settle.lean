import Mathlib
import DmaOwnership.Proofs.Transfer.Wait
/-!
# How many status reads a wait makes

A wait ends at the first status read that finds its lane's complete or error flag up. When
one of the two is up already, that is the wait's first read. Otherwise it is the read at
which the earliest transfer-complete or error scheduled on the lane falls due: an event
scheduled for read `at` falls due at the first read numbered `at` or later, so a wait that
starts after `R` reads makes `max 1 (at - R)` of them (`Bank.waitReads`). Events that fall
due before it, half-transfers, codes that name no event and events of other lanes, never
end the wait.

The wait counts a poll for every read it makes and answers the error exactly when its last
read shows the lane's error flag, so an error raised at the same read as a completion wins
(`Transfer.wait_reads_to_first_finish`).
-/

namespace DmaOwnership

namespace Bank

/-- The read numbers of the events scheduled to finish lane `l`: transfer-complete and
errors on that lane. -/
def finishingDues (b : Bank) (l : Lane) : List Int :=
  (b.schedule.filter fun x => x.lane = l && (x.event = .complete || x.event = .error)).map
    (·.due)

/-- The status reads a wait on lane `l` makes: one when the lane shows finished already,
else as many as it takes to reach the read at which the earliest event that finishes the lane
falls due, and at least one. -/
def waitReads (b : Bank) (l : Lane) : Nat :=
  if b.finished l then 1
  else match (b.finishingDues l).min? with
    | some m => max 1 (m - b.reads).toNat
    | none => 0

theorem mem_finishingDues {b : Bank} {l : Lane} {m : Int} : m ∈ b.finishingDues l ↔
    ∃ x ∈ b.schedule, x.lane = l ∧ (x.event = .complete ∨ x.event = .error) ∧ x.due = m := by
  simp only [finishingDues, List.mem_map, List.mem_filter, Bool.and_eq_true, decide_eq_true_eq,
    Bool.or_eq_true, and_assoc]

/-- A read before the time of every event that would finish the lane leaves it unfinished:
the events falling due at it are others. -/
theorem not_finished_status_before {b : Bank} {l : Lane} (hf : b.finished l = false)
    (hq : ∀ x ∈ b.schedule, x.lane = l → (x.event = .complete ∨ x.event = .error) →
      ((b.reads + 1 : Nat) : Int) < x.due) :
    b.status.2.finished l = false := by
  have hdue : ∀ x ∈ b.fallingDue, x.lane = l → x.event ≠ .complete ∧ x.event ≠ .error := by
    intro x hx hl
    obtain ⟨hs, hle⟩ := List.mem_filter.mp hx
    simp only [decide_eq_true_eq] at hle
    refine ⟨fun hc => ?_, fun he => ?_⟩
    · exact absurd (hq x hs hl (Or.inl hc)) (Int.not_lt.mpr hle)
    · exact absurd (hq x hs hl (Or.inr he)) (Int.not_lt.mpr hle)
  rw [status_snd, finished_foldl_raise_of_quiet hdue]
  exact hf

/-- The reads made before the time of every event that would finish the lane leave it
unfinished. -/
theorem not_finished_readN_before {b : Bank} {l : Lane} (hf : b.finished l = false) {k : Nat}
    (hq : ∀ x ∈ b.schedule, x.lane = l → (x.event = .complete ∨ x.event = .error) →
      ((b.reads + k : Nat) : Int) < x.due) :
    (b.readN k).finished l = false := by
  induction k with
  | zero => exact hf
  | succ k ih =>
    -- the schedule only shrinks, so the events left still come after read `k + 1`
    rw [readN_succ]
    refine not_finished_status_before (ih fun x hx hl he => ?_) fun x hx hl he => ?_
    · have := hq x hx hl he
      omega
    · have := hq x (mem_schedule_of_readN hx) hl he
      rw [reads_readN]
      omega

/-- A lane that finishes does so at read `waitReads`, and at no read before it. -/
theorem waitReads_first {b : Bank} {l : Lane} (h : b.Finishes l) :
    1 ≤ b.waitReads l ∧ (b.readN (b.waitReads l)).finished l = true ∧
      ∀ j, j + 1 < b.waitReads l → (b.readN (j + 1)).finished l = false := by
  cases hf : b.finished l
  case true =>
    have hk : b.waitReads l = 1 := by simp [waitReads, hf]
    refine ⟨by omega, ?_, fun j hj => by omega⟩
    rw [hk]
    exact (rises_readN l b 1).finished hf
  -- otherwise the earliest event scheduled to finish the lane decides
  obtain ⟨x, hx, hl, he⟩ : ∃ x ∈ b.schedule, x.lane = l ∧ (x.event = .complete ∨ x.event = .error) := by
    simpa [hf] using (finishes_iff b l).mp h
  obtain ⟨m, hm⟩ : ∃ m, (b.finishingDues l).min? = some m := by
    cases hmin : (b.finishingDues l).min? with
    | some m => exact ⟨m, rfl⟩
    | none =>
      have hmem := mem_finishingDues.mpr ⟨x, hx, hl, he, rfl⟩
      rw [List.min?_eq_none_iff.mp hmin] at hmem
      cases hmem
  obtain ⟨hmem, hmin⟩ := List.min?_eq_some_iff.mp hm
  obtain ⟨y, hy, hyl, hye, rfl⟩ := mem_finishingDues.mp hmem
  have hk : b.waitReads l = max 1 (y.due - b.reads).toNat := by simp [waitReads, hf, hm]
  have hfirst : (y.due - ((b.reads + 1 : Nat) : Int)).toNat + 1 = b.waitReads l := by
    rw [hk]
    omega
  refine ⟨by omega, ?_, fun j hj => not_finished_readN_before hf fun z hz hzl hze => ?_⟩
  · rw [← hfirst, ← hyl]
    exact finished_readN_of_scheduled hy hye
  · have := hmin _ (mem_finishingDues.mpr ⟨z, hz, hzl, hze, rfl⟩)
    omega

end Bank

namespace Transfer

/-- A wait on a transfer in flight whose lane finishes makes `waitReads` status reads and
hands the transfer back from the machine after them: after an error with all four flags of
the lane cleared and the error counted, otherwise with its complete flag cleared and a
completion counted. -/
theorem run_wait_of_finishes {s : Machine} {id : Nat} {t : Transfer}
    (ht : s.transfers[id]? = some t) (hlive : t.released = false) (h : s.bank.Finishes t.lane) :
    (wait id).run s =
      if (LaneStatus.ofWord t.lane (s.bank.readN (s.bank.waitReads t.lane)).flags).error then
        .ok (⟨t.lane, t.buffer, t.peripheral⟩, some .transferError)
          ((s.polled (s.bank.waitReads t.lane)).handBack id t t.lane.flags
            ((s.polled (s.bank.waitReads t.lane)).counters.record .transferError))
      else
        .ok (⟨t.lane, t.buffer, t.peripheral⟩, none)
          ((s.polled (s.bank.waitReads t.lane)).handBack id t t.lane.completeFlag
            { (s.polled (s.bank.waitReads t.lane)).counters with
              completions := (s.polled (s.bank.waitReads t.lane)).counters.completions + 1 }) := by
  obtain ⟨hpos, hk, hfirst⟩ := Bank.waitReads_first h
  -- the wait ends at read `waitReads`, the first to find the lane finished
  obtain ⟨k, hkw⟩ : ∃ k, s.bank.waitReads t.lane = k + 1 := ⟨_, (Nat.sub_add_cancel hpos).symm⟩
  rw [hkw] at hk hfirst ⊢
  exact run_wait_of_first_finish ht hlive hk fun j hj => hfirst j (by omega)

/-- A wait on a transfer in flight on lane `l` returns exactly when a flag of `l` that ends
it is up or an event that raises one is scheduled on `l`, else it gives up with `spins`.
When it returns it has made exactly `waitReads` status reads, one poll each, and answers a
transfer error exactly when its last read shows the lane's error flag. -/
theorem wait_reads_to_first_finish {s : Machine} {id : Nat} {t : Transfer}
    (ht : s.transfers[id]? = some t) (hlive : t.released = false) :
    ((∃ r s', (wait id).run s = .ok r s') ↔
      s.bank.finished t.lane = true ∨ ∃ x ∈ s.bank.schedule, x.lane = t.lane ∧
        (x.event = .complete ∨ x.event = .error)) ∧
    ((¬ ∃ r s', (wait id).run s = .ok r s') → ∃ s', (wait id).run s = .error .spins s') ∧
    ∀ r s', (wait id).run s = .ok r s' →
      1 ≤ s.bank.waitReads t.lane ∧
      r = (⟨t.lane, t.buffer, t.peripheral⟩,
        if (LaneStatus.ofWord t.lane (s.bank.readN (s.bank.waitReads t.lane)).flags).error then
          some .transferError
        else none) ∧
      s'.bank.reads = s.bank.reads + s.bank.waitReads t.lane ∧
      s'.counters.polls = s.counters.polls + (s.bank.waitReads t.lane).toUInt32 := by
  obtain ⟨hiff, hspins⟩ := wait_returns_iff_finishes ht hlive
  refine ⟨hiff.trans (Bank.finishes_iff s.bank t.lane), fun hn => hspins (hn ∘ hiff.mpr), ?_⟩
  intro r s' hrun
  have hfin := hiff.mp ⟨r, s', hrun⟩
  rw [run_wait_of_finishes ht hlive hfin] at hrun
  refine ⟨(Bank.waitReads_first hfin).1, ?_⟩
  by_cases he : (LaneStatus.ofWord t.lane
    (s.bank.readN (s.bank.waitReads t.lane)).flags).error = true
  · simp only [he, if_true, EStateM.Result.ok.injEq] at hrun ⊢
    obtain ⟨rfl, rfl⟩ := hrun
    exact ⟨rfl, Bank.reads_readN _ _, rfl⟩
  · simp only [he, Bool.false_eq_true, if_false, EStateM.Result.ok.injEq] at hrun ⊢
    obtain ⟨rfl, rfl⟩ := hrun
    exact ⟨rfl, Bank.reads_readN _ _, rfl⟩

/-- A write in flight on lane `l` before any status read, whose engine raises half-transfer
at the first read and transfer-complete at the third. -/
def completeAtThird (l : Lane) : Machine where
  bank := { schedule := [⟨1, l, .half⟩, ⟨3, l, .complete⟩] }
  transfers := #[⟨l, 0, 0, .toPeripheral, false⟩]

/-- Waiting on lane 4 takes three status reads: the half-transfer falling due earlier does not
end the wait. -/
theorem wait_on_complete_at_third :
    (completeAtThird ⟨3⟩).transfers[0]? = some ⟨⟨3⟩, 0, 0, .toPeripheral, false⟩ ∧
    (completeAtThird ⟨3⟩).bank.waitReads ⟨3⟩ = 3 ∧
    ((∃ r s', (wait 0).run (completeAtThird ⟨3⟩) = .ok r s') ↔
      (completeAtThird ⟨3⟩).bank.finished ⟨3⟩ = true ∨ ∃ x ∈ (completeAtThird ⟨3⟩).bank.schedule,
        x.lane = ⟨3⟩ ∧ (x.event = .complete ∨ x.event = .error)) ∧
    ((¬ ∃ r s', (wait 0).run (completeAtThird ⟨3⟩) = .ok r s') →
      ∃ s', (wait 0).run (completeAtThird ⟨3⟩) = .error .spins s') ∧
    ∀ r s', (wait 0).run (completeAtThird ⟨3⟩) = .ok r s' →
      1 ≤ (completeAtThird ⟨3⟩).bank.waitReads ⟨3⟩ ∧
      r = (⟨⟨3⟩, 0, 0⟩,
        if (LaneStatus.ofWord ⟨3⟩
            ((completeAtThird ⟨3⟩).bank.readN ((completeAtThird ⟨3⟩).bank.waitReads ⟨3⟩)).flags).error then
          some .transferError
        else none) ∧
      s'.bank.reads = (completeAtThird ⟨3⟩).bank.reads + (completeAtThird ⟨3⟩).bank.waitReads ⟨3⟩ ∧
      s'.counters.polls =
        (completeAtThird ⟨3⟩).counters.polls + ((completeAtThird ⟨3⟩).bank.waitReads ⟨3⟩).toUInt32 :=
  ⟨rfl, by decide, wait_reads_to_first_finish (t := ⟨⟨3⟩, 0, 0, .toPeripheral, false⟩) rfl rfl⟩

end Transfer

end DmaOwnership
