import Mathlib
import DmaOwnership.Proofs.Calls.Logged
import DmaOwnership.Proofs.Ownership.AtRest
/-!
# The counters count the calls

The controller's counters are a tally of the calls a run makes (`Counters.tally`): a start
that began counts in `starts`; a wait counts its status reads in `polls`, and then a
completion or a transfer error by what it returned; a read of a circular transfer counts
in `reads` when it returns no refusal, and in `wouldBlock`, `overruns` or `transferErrors`
by its refusal. Every count is a number of calls taken modulo `2^32`, as the counters wrap.
Nothing else counts: asking whether a transfer is done, polling it, a refused start, a
pause, a resume, a stop, a read that breaks off before or after its callback.

Each operation is checked once against its equation; `Logged.counters` puts them together by
induction on the log of a run, and `counters_count_calls` says it of every client program.
-/

namespace DmaOwnership

namespace Call

/-- The status reads of a wait; none for other calls. -/
def polls : Call → Nat
  | .wait n _ => n
  | _ => 0

/-- Whether the call is a wait that returned with no refusal. -/
def completed : Call → Bool
  | .wait _ (some none) => true
  | _ => false

/-- Whether the call is a wait that returned a transfer error. -/
def failed : Call → Bool
  | .wait _ (some (some .transferError)) => true
  | _ => false

end Call

namespace Counters

/-- The counters `c` with the calls of `log` counted, each count modulo `2^32`. -/
def tally (c : Counters) (log : List Call) : Counters where
  starts := c.starts + (log.count (.start true)).toUInt32
  completions := c.completions + (log.countP Call.completed).toUInt32
  polls := c.polls + (log.map Call.polls).sum.toUInt32
  reads := c.reads + (log.count (.read none)).toUInt32
  wouldBlock := c.wouldBlock + (log.count (.read (some .wouldBlock))).toUInt32
  overruns := c.overruns + (log.count (.read (some .overrun))).toUInt32
  transferErrors := c.transferErrors +
    (log.count (.read (some .transferError)) + log.countP Call.failed).toUInt32

variable (c : Counters)

@[simp] theorem tally_nil : c.tally [] = c := by
  simp [tally]

/-- Counting two stretches of a run one after the other counts the whole run. -/
theorem tally_append (log₁ log₂ : List Call) : c.tally (log₁ ++ log₂) = (c.tally log₁).tally log₂ := by
  -- the transfer errors of each stretch are its failed reads and its failed waits
  have herr : ∀ a₁ a₂ b₁ b₂ : Nat, a₁ + a₂ + (b₁ + b₂) = a₁ + b₁ + (a₂ + b₂) := by omega
  simp only [tally, List.count_append, List.countP_append, List.map_append, List.sum_append, herr,
    Nat.toUInt32_eq, UInt32.ofNat_add, UInt32.add_assoc]

@[simp] theorem tally_listen (l : Lane) (e : Event) (on : Bool) : c.tally [.listen l e on] = c := by
  simp [tally, Call.completed, Call.failed, Call.polls]

@[simp] theorem tally_start_begun : c.tally [.start true] = { c with starts := c.starts + 1 } := by
  simp [tally, Call.completed, Call.failed, Call.polls]

@[simp] theorem tally_start_refused : c.tally [.start false] = c := by
  simp [tally, Call.completed, Call.failed, Call.polls]

@[simp] theorem tally_wait_broke (n : Nat) :
    c.tally [.wait n none] = { c with polls := c.polls + n.toUInt32 } := by
  simp [tally, Call.completed, Call.failed, Call.polls]

@[simp] theorem tally_wait_completed (n : Nat) :
    c.tally [.wait n (some none)] =
      { c with polls := c.polls + n.toUInt32, completions := c.completions + 1 } := by
  simp [tally, Call.completed, Call.failed, Call.polls]

@[simp] theorem tally_wait_failed (n : Nat) :
    c.tally [.wait n (some (some .transferError))] =
      { c with polls := c.polls + n.toUInt32, transferErrors := c.transferErrors + 1 } := by
  simp [tally, Call.completed, Call.failed, Call.polls]

@[simp] theorem tally_read : c.tally [.read none] = { c with reads := c.reads + 1 } := by
  simp [tally, Call.completed, Call.failed, Call.polls]

/-- A refused read counts as the refusal is recorded. -/
@[simp] theorem tally_read_refused (r : Refusal) : c.tally [.read (some r)] = c.record r := by
  cases r <;> simp [tally, record, Call.completed, Call.failed, Call.polls]

end Counters

namespace Call

/-- What the checks before a read's callback leave in the log: the read, if they refuse it. -/
def ofTakeHalf {α : Type} : EStateM.Result Fault Machine (Except Refusal α) → List Call
  | .ok (.error r) _ => [.read (some r)]
  | .ok (.ok _) _ => []
  | .error _ _ => []

end Call

namespace Machine

variable (s : Machine) (id : Nat) (t : Transfer) (mask : UInt32) (c : Counters)

@[simp] theorem afterRead_counters : s.afterRead.counters = s.counters := rfl

@[simp] theorem handBack_counters : (s.handBack id t mask c).counters = c := rfl

@[simp] theorem reads_handBack : (s.handBack id t mask c).bank.reads = s.bank.reads := rfl

end Machine

namespace Transfer

open Machine

/-- The loop of a wait counts one poll for each status read it makes. -/
theorem spin_counts (l : Lane) (fuel : Nat) (s : Machine) :
    ∃ k, finalState ((spin l fuel).run s) = { s with
      bank := s.bank.readN k
      counters := { s.counters with polls := s.counters.polls + k.toUInt32 } } := by
  induction fuel generalizing s with
  | zero =>
    have h0 : (spin l 0).run s = .error .spins s := rfl
    exact ⟨0, by simp [h0, Bank.readN_zero]⟩
  | succ fuel ih =>
    rw [run_spin_succ]
    dsimp only
    split
    · exact ⟨0, by simp [Bank.readN_zero]⟩
    generalize (if (!(LaneStatus.ofWord l s.bank.flags).error &&
      !(LaneStatus.ofWord l s.bank.flags).complete) = true then s.bank.quietReads else 0) = q
    -- the `q` reads stepped over and the one read made are `q + 1` polls
    have hq : s.counters.polls + q.toUInt32 + 1 = s.counters.polls + (q + 1).toUInt32 := by
      simp [Nat.toUInt32_eq, UInt32.add_assoc]
    obtain ⟨k, hk⟩ := ih { s with
      bank := (s.bank.readN q).status.2
      counters := { s.counters with polls := s.counters.polls + q.toUInt32 + 1 } }
    split
    · exact ⟨q + 1, by rw [finalState_ok, hq, Bank.readN_succ]⟩
    split
    · exact ⟨q + 1, by rw [finalState_ok, hq, Bank.readN_succ]⟩
    · refine ⟨q + 1 + k, ?_⟩
      rw [hk, ← Bank.readN_add, Bank.readN_succ, hq]
      simp [Nat.toUInt32_eq, UInt32.add_assoc]

/-- The only refusal of a wait's loop is a transfer error. -/
theorem spin_refusal {l : Lane} {fuel : Nat} {s s' : Machine} {r : Refusal}
    (h : (spin l fuel).run s = .ok (.error r) s') : r = .transferError := by
  induction fuel generalizing s with
  | zero => cases h
  | succ fuel ih =>
    rw [run_spin_succ] at h
    dsimp only at h
    split at h
    · cases h
    generalize (if (!(LaneStatus.ofWord l s.bank.flags).error &&
      !(LaneStatus.ofWord l s.bank.flags).complete) = true then s.bank.quietReads else 0) = q at h
    split at h
    · cases h
      rfl
    split at h
    · cases h
    · exact ih h

/-- A wait counts the status reads it makes as polls, then its completion or its
transfer error, if it returns. -/
theorem wait_counters (id : Nat) (s : Machine) :
    (finalState ((wait id).run s)).counters = s.counters.tally [Call.ofWait s ((wait id).run s)] := by
  rw [run_wait]
  cases ht : s.transfers[id]? with
  | none => simp [Call.ofWait]
  | some t =>
    dsimp only
    cases hr : t.released
    case true => simp [Call.ofWait]
    simp only [Bool.false_eq_true, if_false]
    obtain ⟨k, hk⟩ := spin_counts t.lane (s.bank.schedule.length + 1) s
    cases hsp : (spin t.lane (s.bank.schedule.length + 1)).run s with
    | ok v s' =>
      rw [hsp, finalState_ok] at hk
      subst hk
      cases v with
      | ok u => simp [Call.ofWait]
      | error r =>
        obtain rfl := spin_refusal hsp
        simp [Call.ofWait, Counters.record]
    | error e s' =>
      rw [hsp, finalState_error] at hk
      subst hk
      simp [Call.ofWait]

/-- A start counts one start if it begins, and nothing if it is refused or breaks off. -/
theorem start_counters (dir : Direction) (l : Lane) (buf periph : Nat) (s : Machine) :
    (finalState ((Machine.peripheral periph >>= fun _ => start dir l buf periph).run s)).counters =
      s.counters.tally (Call.ofStart ((Machine.peripheral periph >>= fun _ => start dir l buf periph).run s)) := by
  cases hp : s.peripherals[periph]? with
  | none =>
    rw [EStateM.run_bind, run_peripheral, hp]
    simp [Call.ofStart]
  | some p =>
    rw [run_peripheral_bind hp]
    generalize hr : (start dir l buf periph).run s = r
    rw [run_start] at hr
    -- refusals and faults leave the counters as they were; a begun start counts one
    repeat' split at hr
    all_goals subst hr; simp [Call.ofStart]

end Transfer

namespace Stream

open Machine

/-- A circular start counts one start if it begins, and nothing if it is refused or breaks
off. -/
theorem start_counters (l : Lane) (ring periph : Nat) (s : Machine) :
    (finalState ((Machine.peripheral periph >>= fun _ => start l ring periph).run s)).counters =
      s.counters.tally (Call.ofStart ((Machine.peripheral periph >>= fun _ => start l ring periph).run s)) := by
  cases hp : s.peripherals[periph]? with
  | none =>
    rw [EStateM.run_bind, run_peripheral, hp]
    simp [Call.ofStart]
  | some p =>
    rw [run_peripheral_bind hp]
    generalize hr : (start l ring periph).run s = r
    rw [run_start] at hr
    repeat' split at hr
    all_goals subst hr; simp [Call.ofStart]

/-- The checks before a read's callback count the refusal if they refuse, and nothing
else. -/
theorem takeHalf_counters {id : Nat} {s : Machine}
    {r : EStateM.Result Fault Machine (Except Refusal (Half × Array UInt32 × Option Nat))}
    (hr : (takeHalf id).run s = r) : (finalState r).counters = s.counters.tally (Call.ofTakeHalf r) := by
  rw [run_takeHalf] at hr
  dsimp only at hr
  repeat' split at hr
  all_goals subst hr; simp [Call.ofTakeHalf, Machine.recorded]

/-- The checks after a read's callback count the read by its refusal, if they return. -/
theorem giveBack_counters (id : Nat) (h : Half) (start : Option Nat) (s : Machine) :
    (finalState ((giveBack id h start).run s)).counters =
      s.counters.tally (Call.ofGiveBack ((giveBack id h start).run s)) := by
  generalize hr : (giveBack id h start).run s = r
  rw [run_giveBack] at hr
  dsimp only at hr
  repeat' split at hr
  all_goals subst hr; simp [Call.ofGiveBack, Machine.recorded]

end Stream

/-- The operations that neither count nor listen leave the counters as they were. -/
theorem Silent.counters {α : Type} {x : Act α} (hx : Silent x) (s : Machine) :
    (finalState (x.run s)).counters = s.counters :=
  (hx.quiet s).counters

namespace Logged

variable {α : Type} {x : Act α} {s : Machine} {log : List Call} {r : EStateM.Result Fault Machine α}

/-- The counters at the end of a run are the counters at its start with the run's calls
counted. -/
theorem counters (h : Logged x s log r) : (finalState r).counters = s.counters.tally log := by
  induction h with
  | pure a s => simp
  | get s => simp
  | throw e s => simp
  | bind _ _ ihx ihk =>
    rw [ihk, Counters.tally_append, ← ihx]
    rfl
  | bind_error _ ihx => exact ihx
  | tryCatch_ok _ ihx => exact ihx
  | tryCatch_error _ _ ihx ihh =>
    rw [ihh, Counters.tally_append, ← ihx]
    rfl
  | silent hx s => simpa using hx.counters s
  | listen l e s =>
    rw [Lane.run_listen]
    simp
  | unlisten l e s =>
    rw [Lane.run_unlisten]
    simp
  | startTransfer dir l buf periph s => exact Transfer.start_counters dir l buf periph s
  | startStream l ring periph s => exact Stream.start_counters l ring periph s
  | wait id s => exact Transfer.wait_counters id s
  | borrow_refused id f h =>
    rw [Buffer.run_borrow]
    split
    · simp
    · rename_i b hb
      simp [h b hb]
  | borrow hb hw _ ih =>
    rw [finalState_mapMachine]
    exact ih
  | borrowMut_refused id f h =>
    rw [Buffer.run_borrowMut]
    split
    · simp
    · rename_i b hb
      simp [h b hb]
  | borrowMut hb hw _ ih =>
    rw [finalState_mapMachine]
    exact ih
  | peek_fault f ht => exact Stream.takeHalf_counters ht
  | peek_refused f ht => exact Stream.takeHalf_counters ht
  | peek_broke ht _ ih =>
    -- the checks before the callback count nothing when they hand a half out
    have h₁ := Stream.takeHalf_counters ht
    simp only [finalState_ok, finalState_error, Call.ofTakeHalf, Counters.tally_nil] at h₁ ih ⊢
    rw [ih, h₁]
  | peek ht _ ih =>
    have h₁ := Stream.takeHalf_counters ht
    simp only [finalState_ok, Call.ofTakeHalf, Counters.tally_nil] at h₁ ih
    rw [finalState_answer, Stream.giveBack_counters, Counters.tally_append, ih, h₁]

end Logged

/-- The counters count calls. Every run of a client program has a log, and at its end the
counters hold what they held at the start plus each start, wait and read of the log counted
by what it returned, modulo `2^32`; the operations that neither count nor listen leave the
counters as they were. -/
theorem counters_count_calls :
    (∀ {α : Type} (x : Act α), Client x → ∀ s : Machine, ∃ log, Logged x s log (x.run s)) ∧
    (∀ {α : Type} (x : Act α) (s : Machine) (log : List Call), Logged x s log (x.run s) →
      (finalState (x.run s)).counters = s.counters.tally log) ∧
    (∀ {α : Type} (x : Act α), Silent x → ∀ s : Machine,
      (finalState (x.run s)).counters = s.counters) :=
  ⟨fun _ hx s => hx.logged s, fun _ _ _ h => h.counters, fun _ hx s => hx.counters s⟩

open Machine in
/-- A start of a write from a machine with a buffer and a peripheral has a log that accounts
for the counters, and a poll after it leaves them as they were. -/
theorem start_and_poll_counted :
    let s := finalState ((addBuffer { width := .w8, items := #[1, 2] } >>= fun _ =>
      addPeripheral { address := 64 }).run (finalState (takeLanes.run ({} : Machine))))
    let x : Act (Except Refusal Nat) :=
      peripheral 0 >>= fun _ => Transfer.start .toPeripheral ⟨0⟩ 0 0
    (∃ log, Logged x s log (x.run s) ∧ (finalState (x.run s)).counters = s.counters.tally log) ∧
    (finalState ((Transfer.poll 0).run (finalState (x.run s)))).counters =
      (finalState (x.run s)).counters := by
  intro s x
  obtain ⟨hlogged, htally, hsilent⟩ := counters_count_calls
  obtain ⟨log, hlog⟩ := hlogged x (.startTransfer .toPeripheral ⟨0⟩ 0 0) s
  exact ⟨⟨log, hlog, htally _ _ _ hlog⟩, hsilent _ (.poll 0) _⟩


end DmaOwnership
