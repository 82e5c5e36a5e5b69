import DmaOwnership.Bank
/-!
# Reads of the status word

Every read of the status word counts itself, then raises the scheduled events that
have fallen due. `readN b k` is the bank after `k` reads and nothing else.

A read at which nothing falls due only counts itself. The reads before the earliest
scheduled event are all such reads, which is what lets a wait step over them in one go:
stepping over them is the same as making them.
-/

namespace DmaOwnership.Bank

/-- The bank after `k` reads of the status word and nothing else. -/
def readN (b : Bank) : Nat → Bank
  | 0 => b
  | k + 1 => (b.readN k).status.2

@[simp] theorem readN_zero (b : Bank) : b.readN 0 = b := rfl

/-- The scheduled events that fall due at the next read of the status word, in schedule
order. -/
def fallingDue (b : Bank) : List Scheduled :=
  b.schedule.filter fun x => decide (x.due ≤ ((b.reads + 1 : Nat) : Int))

/-- A read raises the events falling due, one after the other, on the bank with the read
counted and those events taken off the schedule. -/
theorem status_snd (b : Bank) : b.status.2 =
    b.fallingDue.foldl (fun acc x => acc.raise x.lane x.event)
      { b with reads := b.reads + 1,
               schedule := b.schedule.filter fun x => !decide (x.due ≤ ((b.reads + 1 : Nat) : Int)) } :=
  rfl

/-- The word a read answers is the status word it leaves. -/
theorem status_fst (b : Bank) : b.status.1 = b.status.2.flags := rfl

theorem readN_succ (b : Bank) (k : Nat) : b.readN (k + 1) = (b.readN k).status.2 := rfl

theorem readN_one (b : Bank) : b.readN 1 = b.status.2 := rfl

/-- Reads made in two runs are the reads of one run. -/
theorem readN_add (b : Bank) (j k : Nat) : (b.readN j).readN k = b.readN (j + k) := by
  induction k with
  | zero => rfl
  | succ k ih => rw [readN_succ, ih, ← Nat.add_assoc, readN_succ]

@[simp] theorem reads_readN (b : Bank) (k : Nat) : (b.readN k).reads = b.reads + k := by
  induction k with
  | zero => rfl
  | succ k ih => rw [readN_succ, status_reads, ih, Nat.add_assoc]

@[simp] theorem schedule_raise (b : Bank) (l : Lane) (e : Event) :
    (b.raise l e).schedule = b.schedule := by
  unfold raise
  split
  · rfl
  · split
    · rfl
    · split <;> rfl

theorem schedule_foldl_raise (due : List Scheduled) (b : Bank) :
    (due.foldl (fun acc x => acc.raise x.lane x.event) b).schedule = b.schedule := by
  induction due generalizing b with
  | nil => rfl
  | cons x rest ih => rw [List.foldl_cons, ih, schedule_raise]

/-- A read takes the events falling due off the schedule and keeps the others, in order. -/
theorem schedule_status (b : Bank) : b.status.2.schedule =
    b.schedule.filter fun x => !decide (x.due ≤ ((b.reads + 1 : Nat) : Int)) := by
  rw [status_snd, schedule_foldl_raise]

/-- A read at which nothing falls due only counts itself. -/
theorem status_of_none_due (b : Bank) (h : ∀ x ∈ b.schedule, (b.reads + 1 : Int) < x.due) :
    b.status = (b.flags, { b with reads := b.reads + 1 }) := by
  have hdue : (b.schedule.filter fun x => decide (x.due ≤ ((b.reads + 1 : Nat) : Int))) = [] := by
    rw [List.filter_eq_nil_iff]
    intro x hx
    have := h x hx
    simp only [decide_eq_true_eq, Int.not_le]
    omega
  have hkept : (b.schedule.filter fun x => !decide (x.due ≤ ((b.reads + 1 : Nat) : Int))) =
      b.schedule := by
    rw [List.filter_eq_self]
    intro x hx
    have := h x hx
    simp only [Bool.not_eq_eq_eq_not, Bool.not_true, decide_eq_false_iff_not, Int.not_le]
    omega
  simp only [status, hdue, hkept, List.foldl_nil]

/-- The reads before the earliest scheduled event only count themselves. -/
theorem readN_of_le_quietReads (b : Bank) {k : Nat} (hk : k ≤ b.quietReads) :
    b.readN k = { b with reads := b.reads + k } := by
  induction k with
  | zero => rfl
  | succ k ih =>
    have hnone : ∀ x ∈ b.schedule, ((b.reads + k : Nat) + 1 : Int) < x.due := by
      intro x hx
      unfold quietReads at hk
      cases hm : (b.schedule.map (·.due)).min? with
      | none => simp only [hm] at hk; omega
      | some m =>
        simp only [hm] at hk
        have hle : m ≤ x.due := (List.min?_eq_some_iff.mp hm).2 _ (List.mem_map_of_mem hx)
        omega
    rw [readN_succ, ih (by omega), status_of_none_due _ hnone]
    simp only [Nat.add_assoc]

end DmaOwnership.Bank
