import DmaOwnership.Proofs.Spec.Channel
import DmaOwnership.Scenario.Session
import Mathlib.Data.List.Induction
import Mathlib.Logic.ExistsUnique
import Mathlib.Data.Nat.Find
/-!
# When scheduled events are raised

A test drives the register bank by calls (`Bank.Call`); only a read of the status word raises
scheduled events. Each event of a run is booked in its history (`Bank.history`) with the
reads made when it was scheduled, and `Booking.raisedAt` is the first read after that whose
number reaches its due number. Over every run the read count grows by one at each status read
and at nothing else (`Bank.reads_run`), the schedule holds the booked events not yet raised,
in scheduling order (`Bank.schedule_run`), and the read numbered `N`, made exactly once
(`Bank.status_reaches_once`), raises exactly the events booked for `N`, in that order
(`Bank.status_run`).
-/

namespace DmaOwnership

namespace Bank

/-- A call a test makes on the register bank. -/
inductive Call where
  /-- Schedules event `e` on lane `l` for the status read `polls` reads from now. -/
  | after (polls : Int) (l : Lane) (e : Event)
  /-- Reads the status word. -/
  | status
  /-- Looks at the status word without counting a read. -/
  | flags
  /-- Looks at the events pending on a lane. -/
  | pending (l : Lane)
  /-- Looks at a lane's registers. -/
  | snapshot (l : Lane)
  /-- Raises an event on a lane at once. -/
  | raise (l : Lane) (e : Event)
  /-- Writes a mask to the clear register. -/
  | clear (mask : UInt32)
  /-- Writes a lane's control word. -/
  | setControl (l : Lane) (v : UInt32)
  /-- Writes a lane's count. -/
  | setCount (l : Lane) (v : UInt32)
  /-- Writes a lane's peripheral address. -/
  | setPeripheral (l : Lane) (a : UInt64)
  /-- Writes a lane's memory reference. -/
  | setMemory (l : Lane) (m : MemRef)
deriving DecidableEq, Repr

/-- The bank after a call; the calls that only look leave it as it was. -/
def call (b : Bank) : Call → Bank
  | .after polls l e => b.scheduleAfter polls l e
  | .status => b.status.2
  | .flags | .pending _ | .snapshot _ => b
  | .raise l e => b.raise l e
  | .clear mask => b.clear mask
  | .setControl l v => b.setControl l v
  | .setCount l v => b.setCount l v
  | .setPeripheral l a => b.setPeripheral l a
  | .setMemory l m => b.setMemory l m

/-- The bank after a sequence of calls. -/
def run (b : Bank) (cs : List Call) : Bank := cs.foldl call b

@[simp] theorem run_nil (b : Bank) : b.run [] = b := rfl

@[simp] theorem run_cons (b : Bank) (c : Call) (cs : List Call) :
    b.run (c :: cs) = (b.call c).run cs := rfl

theorem run_append (b : Bank) (cs ds : List Call) : b.run (cs ++ ds) = (b.run cs).run ds :=
  List.foldl_append

/-! ## Bookings -/

/-- A scheduled event with the number of status reads made when it was scheduled. -/
structure Booking where
  /-- The status reads made when the event was scheduled. -/
  since : Nat
  /-- The event with its due number. -/
  event : Scheduled
deriving DecidableEq, Repr

/-- The read that raises a booked event: the first after its booking whose number is at
least its due number. -/
def Booking.raisedAt (k : Booking) : Nat := max (k.since + 1) k.event.due.toNat

/-- Read `N` is at or past an event's raising read exactly when it comes after the booking
and its number is at least the due number. -/
theorem Booking.raisedAt_le_iff (k : Booking) (N : Nat) :
    k.raisedAt ≤ N ↔ k.since < N ∧ k.event.due ≤ N := by
  unfold raisedAt
  omega

/-- The events on a bank's schedule, booked at its read count. -/
def booked (b : Bank) : List Booking := b.schedule.map fun x => ⟨b.reads, x⟩

/-- The event a call schedules, booked at the read count it is scheduled at. -/
def Call.booking (b : Bank) : Call → List Booking
  | .after polls l e => [⟨b.reads, ⟨wrap64 (b.reads + polls), l, e⟩⟩]
  | _ => []

/-- The events the calls of a run schedule, in order. -/
def bookings (b : Bank) : List Call → List Booking
  | [] => []
  | c :: cs => c.booking b ++ (b.call c).bookings cs

/-- Every event of a run: those on the schedule at its start, then those its calls
schedule. -/
def history (b : Bank) (cs : List Call) : List Booking := b.booked ++ b.bookings cs

theorem bookings_append (b : Bank) (cs ds : List Call) :
    b.bookings (cs ++ ds) = b.bookings cs ++ (b.run cs).bookings ds := by
  induction cs generalizing b with
  | nil => rfl
  | cons c cs ih => rw [List.cons_append, bookings, bookings, ih, List.append_assoc, run_cons]

theorem history_append (b : Bank) (cs ds : List Call) :
    b.history (cs ++ ds) = b.history cs ++ (b.run cs).bookings ds := by
  rw [history, history, bookings_append, List.append_assoc]

/-! ## What one call does to the schedule -/

/-- A call that schedules nothing and reads nothing leaves the schedule and the read count. -/
theorem call_frame (b : Bank) {c : Call} (ha : c.booking b = []) (hs : c ≠ .status) :
    (b.call c).schedule = b.schedule ∧ (b.call c).reads = b.reads := by
  cases c with
  | after p l e => simp [Call.booking] at ha
  | status => exact absurd rfl hs
  | raise l e => exact ⟨schedule_raise b l e, raise_reads b l e⟩
  | setCount l v =>
    show (b.setCount l v).schedule = b.schedule ∧ (b.setCount l v).reads = b.reads
    unfold setCount
    split <;> exact ⟨rfl, rfl⟩
  | flags | pending _ | snapshot _ | clear _ | setControl _ _ | setPeripheral _ _ | setMemory _ _ =>
    exact ⟨rfl, rfl⟩

/-- A status read counts one read; no other call counts one. -/
theorem reads_call (b : Bank) (c : Call) :
    (b.call c).reads = b.reads + if c = .status then 1 else 0 := by
  by_cases hs : c = .status
  · subst hs
    rw [if_pos rfl]
    exact status_reads b
  · rw [if_neg hs, Nat.add_zero]
    cases c with
    | after p l e => rfl
    | _ => exact (call_frame b rfl hs).2

/-- The read count of a run is the one it started from and one per status read. -/
theorem reads_run (b : Bank) (cs : List Call) :
    (b.run cs).reads = b.reads + cs.count .status := by
  induction cs generalizing b with
  | nil => rfl
  | cons c cs ih =>
    rw [run_cons, ih, reads_call, List.count_cons]
    by_cases hs : c = .status
    · simp [hs]
      omega
    · simp [hs]

/-- The events booked by a run lie between the read counts it starts and ends at. -/
theorem since_of_mem_bookings {b : Bank} {cs : List Call} {k : Booking} (hk : k ∈ b.bookings cs) :
    b.reads ≤ k.since ∧ k.since ≤ (b.run cs).reads := by
  induction cs generalizing b with
  | nil => cases hk
  | cons c cs ih =>
    rw [bookings, List.mem_append] at hk
    have hrun : (b.call c).reads ≤ ((b.call c).run cs).reads := by
      rw [reads_run]
      omega
    rcases hk with hk | hk
    · cases c with
      | after p l e =>
        simp only [Call.booking, List.mem_singleton] at hk
        subst hk
        exact ⟨Nat.le_refl _, by simpa [reads_call] using hrun⟩
      | _ => simp [Call.booking] at hk
    · have := ih hk
      have hc := reads_call b c
      exact ⟨by omega, this.2⟩

/-- Every event of a run's history was booked no later than the run's end. -/
theorem since_le_of_mem_history {b : Bank} {cs : List Call} {k : Booking}
    (hk : k ∈ b.history cs) : k.since ≤ (b.run cs).reads := by
  rw [history, List.mem_append] at hk
  rcases hk with hk | hk
  · simp only [booked, List.mem_map] at hk
    obtain ⟨x, -, rfl⟩ := hk
    rw [reads_run]
    exact Nat.le_add_right _ _
  · exact (since_of_mem_bookings hk).2

/-- Seen from a read count `F` no earlier than a call leaves, the events booked before the
call and by it that `F` has not raised are those the bank after the call has booked: the
call only books again, at its own read count, what it leaves on the schedule. -/
theorem booked_call_filter (b : Bank) (c : Call) {F : Nat} (hF : (b.call c).reads ≤ F) :
    ((b.booked ++ c.booking b).filter (fun k => F < k.raisedAt)).map (·.event) =
      ((b.call c).booked.filter (fun k => F < k.raisedAt)).map (·.event) := by
  by_cases hs : c = .status
  · subst hs
    -- a status read takes off what falls due; the rest is booked one read later
    have hF' : b.reads + 1 ≤ F := by rw [reads_call] at hF; simpa using hF
    simp only [Call.booking, List.append_nil, booked, call, schedule_status, status_reads,
      List.filter_map, List.map_map, List.filter_filter, Function.comp_def, List.map_id']
    apply List.filter_congr
    intro x _
    rw [Bool.eq_iff_iff]
    simp only [Bool.and_eq_true, decide_eq_true_eq, Bool.not_eq_true', decide_eq_false_iff_not]
    simp only [Booking.raisedAt]
    omega
  · cases c with
    | after p l e => simp [call, scheduleAfter, booked, Call.booking]
    | status => exact absurd rfl hs
    | _ =>
      obtain ⟨hsch, hr⟩ := call_frame b rfl hs
      simp only [booked, hsch, hr, Call.booking, List.append_nil]

/-! ## The schedule over a run -/

/-- The schedule after a run holds the booked events whose raising read has not come, in
the order they were scheduled. -/
theorem schedule_run (b : Bank) (cs : List Call) :
    (b.run cs).schedule =
      ((b.history cs).filter fun k => (b.run cs).reads < k.raisedAt).map (·.event) := by
  induction cs generalizing b with
  | nil =>
    -- nothing booked at the start has come due
    have hkeep : b.booked.filter (fun k => b.reads < k.raisedAt) = b.booked := by
      rw [List.filter_eq_self]
      intro k hk
      simp only [booked, List.mem_map] at hk
      obtain ⟨x, -, rfl⟩ := hk
      show decide (b.reads < max (b.reads + 1) x.due.toNat) = true
      rw [decide_eq_true_eq]
      omega
    rw [run_nil, history, bookings, List.append_nil, hkeep, booked, List.map_map]
    exact (List.map_id _).symm
  | cons c cs ih =>
    have hF : (b.call c).reads ≤ ((b.call c).run cs).reads := by
      rw [reads_run]
      omega
    rw [run_cons, ih, history, history, bookings, ← List.append_assoc, List.filter_append,
      List.filter_append, List.map_append, List.map_append, booked_call_filter b c hF]

/-- The events pending on a lane are the booked events of that lane not yet raised, in the
order they were scheduled. -/
theorem pending_run (b : Bank) (cs : List Call) (l : Lane) :
    (b.run cs).pending l =
      ((b.history cs).filter fun k => (b.run cs).reads < k.raisedAt ∧ k.event.lane = l).map
        (·.event.event) := by
  rw [pending, schedule_run, List.filter_map, List.map_map, List.filter_filter]
  congr 1
  apply List.filter_congr
  intro k _
  rw [Bool.eq_iff_iff]
  simp only [Function.comp, Bool.and_eq_true, decide_eq_true_eq]
  exact and_comm

/-- The events falling due at the next read are the booked events whose raising read it is,
in the order they were scheduled. -/
theorem fallingDue_run (b : Bank) (cs : List Call) :
    (b.run cs).fallingDue =
      ((b.history cs).filter fun k => k.raisedAt = (b.run cs).reads + 1).map (·.event) := by
  rw [fallingDue, schedule_run, List.filter_map, List.filter_filter]
  congr 1
  apply List.filter_congr
  intro k hk
  have hs := since_le_of_mem_history hk
  rw [Bool.eq_iff_iff]
  simp only [Function.comp, Bool.and_eq_true, decide_eq_true_eq]
  simp only [Booking.raisedAt]
  omega

/-- Events booked after a read come due at later reads only, so the events a read raises
are read off the history of the whole run as well. -/
theorem fallingDue_split (b : Bank) (pre post : List Call) :
    (b.run pre).fallingDue =
      ((b.history (pre ++ .status :: post)).filter fun k => k.raisedAt = (b.run pre).reads + 1).map
        (·.event) := by
  have hlater : ((b.run pre).bookings (.status :: post)).filter
      (fun k => k.raisedAt = (b.run pre).reads + 1) = [] := by
    rw [List.filter_eq_nil_iff]
    intro k hk
    have hnone : Call.booking (b.run pre) .status = [] := rfl
    rw [bookings, hnone, List.nil_append] at hk
    have h := (since_of_mem_bookings hk).1
    rw [call, status_reads] at h
    simp only [decide_eq_true_eq]
    simp only [Booking.raisedAt]
    omega
  rw [history_append, List.filter_append, hlater, List.append_nil, fallingDue_run]

/-- A status read raises, one after the other in the order they were scheduled, the booked
events whose raising read it is, and keeps the rest on the schedule. -/
theorem status_run (b : Bank) (cs : List Call) :
    (b.run cs).status.2 =
      ((b.history cs).filter fun k => k.raisedAt = (b.run cs).reads + 1).foldl
        (fun acc k => acc.raise k.event.lane k.event.event)
        { b.run cs with
          reads := (b.run cs).reads + 1
          schedule := ((b.history cs).filter fun k => (b.run cs).reads + 1 < k.raisedAt).map
            (·.event) } := by
  -- the schedule kept is the schedule of the run that ends with this read
  have hkept := schedule_run b (cs ++ [.status])
  have hnone : Call.booking (b.run cs) .status = [] := rfl
  rw [history_append, bookings, bookings, hnone, List.append_nil, List.append_nil,
    run_append, run_cons, run_nil, call, status_reads, schedule_status] at hkept
  rw [status_snd, fallingDue_run, List.foldl_map, ← hkept]

/-! ## Each number is reached by one status read -/

/-- The reads made by the first `n` calls of a run: one more after a status read. -/
theorem reads_take_succ (b : Bank) {cs : List Call} {n : Nat} (hn : n < cs.length) :
    (b.run (cs.take (n + 1))).reads =
      (b.run (cs.take n)).reads + if cs[n] = .status then 1 else 0 := by
  rw [List.take_add_one, List.getElem?_eq_getElem hn, Option.toList_some, run_append,
    run_cons, run_nil, reads_call]

/-- The reads made by a prefix never exceed those of a longer prefix; a status read in
between counts one more. -/
theorem reads_take_lt {b : Bank} {cs : List Call} {n m : Nat} (hnm : n < m) (hn : n < cs.length)
    (hs : cs[n] = .status) : (b.run (cs.take n)).reads < (b.run (cs.take m)).reads := by
  have hstep := reads_take_succ b hn
  rw [if_pos hs] at hstep
  have hmono : (b.run (cs.take (n + 1))).reads ≤ (b.run (cs.take m)).reads := by
    rw [reads_run, reads_run]
    exact Nat.add_le_add_left ((List.take_prefix_take_left hnm).sublist.count_le _) _
  omega

/-- Every read number a run reaches past its start is reached by exactly one of its status
reads: the `n`-th call is a status read and the reads before it are one fewer. -/
theorem status_reaches_once (b : Bank) (cs : List Call) {T : Nat} (h1 : b.reads < T)
    (h2 : T ≤ (b.run cs).reads) :
    ∃! n, cs[n]? = some .status ∧ (b.run (cs.take n)).reads + 1 = T := by
  -- the first prefix whose reads reach `T` ends with the status read that reaches it
  have hex : ∃ n, T ≤ (b.run (cs.take (n + 1))).reads :=
    ⟨cs.length, by rwa [List.take_of_length_le (by omega)]⟩
  classical
  let n := Nat.find hex
  have hreach : T ≤ (b.run (cs.take (n + 1))).reads := Nat.find_spec hex
  have hbefore : (b.run (cs.take n)).reads < T := by
    rcases hn : n with _ | m
    · simpa using h1
    · have := Nat.find_min hex (show m < n by omega)
      rw [← hn] at this ⊢
      omega
  have hlt : n < cs.length := by
    by_contra hge
    rw [List.take_of_length_le (by omega), ← List.take_of_length_le (Nat.le_of_not_lt hge)] at hreach
    omega
  have hstep := reads_take_succ b hlt
  have hs : cs[n] = .status := by
    by_contra hns
    rw [if_neg hns] at hstep
    omega
  rw [if_pos hs] at hstep
  refine ⟨n, ⟨by rw [List.getElem?_eq_getElem hlt, hs], by omega⟩, ?_⟩
  -- two status reads reach different numbers
  rintro m ⟨hm, hmT⟩
  obtain ⟨hml, hms⟩ := List.getElem?_eq_some_iff.mp hm
  rcases Nat.lt_trichotomy m n with hmn | hmn | hmn
  · have := reads_take_lt (b := b) hmn hml hms
    omega
  · exact hmn
  · have := reads_take_lt (b := b) hmn hlt hs
    omega

/-! ## The count a read leaves -/

end Bank

/-- Whether an event writes its lane's count: half-transfer and transfer-complete do. -/
def Event.writesCount (e : Event) : Bool := e = .half || e = .complete

namespace Bank

/-- The count an event that writes it leaves on lane `l`: transfer-complete reloads it in
circular mode and empties it otherwise, half-transfer sets it to half the reload value. -/
def countLeftBy (b : Bank) (l : Lane) (e : Event) : UInt32 :=
  if e = .complete then (if Control.circular (b.control l) then l.entry b.reload else 0)
  else l.entry b.reload / 2

@[simp] theorem reload_raise (b : Bank) (l : Lane) (e : Event) : (b.raise l e).reload = b.reload := by
  unfold raise
  split
  · rfl
  split
  · rfl
  split <;> rfl

/-- A raise writes the count of its own lane when its event writes counts, and no other. -/
theorem count_raise (b : Bank) (l m : Lane) (e : Event) :
    (b.raise l e).count m = if l = m ∧ e.writesCount then b.countLeftBy m e else b.count m := by
  -- the two events that write a count write that of their own lane only
  have hwrite : ∀ n : UInt32, (b.modifyLane l fun r => { r with count := n }).count m =
      if l = m then n else b.count m := by
    intro n
    by_cases hlm : l = m
    · subst hlm
      simp only [count, lane_modifyLane_self, if_true]
    · simp only [count, lane_modifyLane_of_ne b _ hlm, hlm, if_false]
  by_cases hc : e = .complete
  · subst hc
    have h : (b.raise l .complete).count m = (b.modifyLane l fun r =>
        { r with count := if Control.circular (b.control l) then l.entry b.reload else 0 }).count m :=
      rfl
    rw [h, hwrite]
    by_cases hlm : l = m
    · subst hlm
      simp [countLeftBy, Event.writesCount]
    · simp [hlm]
  by_cases hh : e = .half
  · subst hh
    have h : (b.raise l .half).count m =
        (b.modifyLane l fun r => { r with count := l.entry b.reload / 2 }).count m := rfl
    rw [h, hwrite]
    by_cases hlm : l = m
    · subst hlm
      simp [countLeftBy, Event.writesCount, Event.half, Event.complete]
    · simp [hlm]
  · have hw : e.writesCount = false := by simp [Event.writesCount, hc, hh]
    rw [hw]
    simp only [Bool.false_eq_true, and_false, if_false]
    unfold raise
    rw [if_neg hc, if_neg hh]
    split <;> rfl

/-- Raising events one after the other leaves a lane's count as the last of them on that
lane that writes a count leaves it, or as it was when none does. -/
theorem count_foldl_raise (due : List Scheduled) (acc : Bank) (l : Lane) :
    (due.foldl (fun a x => a.raise x.lane x.event) acc).count l =
      match (due.filter fun x => decide (x.lane = l) && x.event.writesCount).getLast? with
      | some x => acc.countLeftBy l x.event
      | none => acc.count l := by
  -- the settings the count is computed from stay as they were
  have hkeep : ∀ xs : List Scheduled,
      (xs.foldl (fun a x => a.raise x.lane x.event) acc).countLeftBy l = acc.countLeftBy l := by
    intro xs
    induction xs using List.reverseRecOn with
    | nil => rfl
    | append_singleton rest x ih =>
      rw [List.foldl_append, List.foldl_cons, List.foldl_nil, ← ih]
      funext e
      simp only [countLeftBy, control_raise, reload_raise]
  induction due using List.reverseRecOn with
  | nil => rfl
  | append_singleton rest x ih =>
    rw [List.foldl_append, List.foldl_cons, List.foldl_nil, count_raise, List.filter_append,
      List.getLast?_append, hkeep]
    by_cases hx : x.lane = l ∧ x.event.writesCount
    · rw [if_pos hx]
      simp [hx.1, hx.2]
    · rw [if_neg hx, ih]
      have hnil : ([x].filter fun x => decide (x.lane = l) && x.event.writesCount) = [] := by
        simp only [List.filter_cons, List.filter_nil]
        simp only [Bool.and_eq_true, decide_eq_true_eq]
        rw [if_neg hx]
      rw [hnil, List.getLast?_nil, Option.none_or]

/-- After a status read a lane's count is as the last event falling due on it that writes
a count leaves it: reload in circular mode or zero for transfer-complete, half the reload
for half-transfer; with no such event it is as it was. -/
theorem count_status (b : Bank) (l : Lane) :
    b.status.2.count l =
      match (b.fallingDue.filter fun x => decide (x.lane = l) && x.event.writesCount).getLast? with
      | some x => b.countLeftBy l x.event
      | none => b.count l := by
  rw [status_snd, count_foldl_raise]
  rfl

end Bank

/-! ## The bank's lanes in a scenario

The register bank takes a lane, one of the seven, wherever it takes one, so every event on
its schedule names a lane and a status read always answers. A scenario names lanes by
number; its step that schedules an event turns the number into a lane first and breaks off
with the bank's fault for a number outside `1 … 7`, before anything is scheduled.
-/

namespace Scenario

/-- A step that schedules an event on a lane number outside `1 … 7` breaks off with the
bank's fault and leaves the session as it was. -/
theorem after_step_refuses_unknown_lane (s : Session) (r : Request) {n p : Int} {e : String}
    {ev : Event} (hop : r.op = "after") (hch : r.ch = some n) (hn : n.natAbs ≤ 1000000)
    (hl : Lane.ofNumber? n = none) (hev : r.event = some (.name e)) (he : Event.ofName? e = some ev)
    (hpolls : r.polls = some p) (hp : -100000 ≤ p ∧ p ≤ 100000) :
    (bankWork r).run.run s = .error (.noLane n) s := by
  simp only [bankWork, hop, laneNumber, need, hch, ensure, Scenario.event, hev, bounded, hpolls,
    bankLane, he, hp, hn, fault, pure_bind, decide_true, if_true, and_self]
  simp only [hl]
  rfl

/-- A step that reads a lane number, as far as its checks go, leaves the session as the rest
of the step does. -/
theorem laneNumber_keeps (s : Session) (r : Request) {β : Type} (k : Int → Work β)
    (hk : ∀ n, finalState ((k n).run.run s) = s) :
    finalState ((laneNumber r >>= k).run.run s) = s := by
  unfold laneNumber need ensure
  cases r.ch with
  | none => rfl
  | some n =>
    by_cases h : n.natAbs ≤ 1000000
    · simpa [h] using hk n
    · simp [h]

theorem bankLane_keeps (s : Session) (n : Int) {β : Type} (k : Lane → Work β)
    (hk : ∀ l, finalState ((k l).run.run s) = s) :
    finalState ((bankLane n >>= k).run.run s) = s := by
  unfold bankLane
  cases Lane.ofNumber? n with
  | none => rfl
  | some l => simpa using hk l

/-- The flags, the pending events and the snapshot of a lane only look: whether they answer
or break off, the session is left as it was, its read count with it. -/
theorem looking_step_keeps_session (s : Session) (r : Request)
    (hop : r.op = "flags" ∨ r.op = "pending" ∨ r.op = "snapshot") :
    finalState ((bankWork r).run.run s) = s := by
  rcases hop with h | h | h
  · simp only [bankWork, h]
    rfl
  · simp only [bankWork, h]
    exact laneNumber_keeps s r _ fun n => bankLane_keeps s n _ fun _ => rfl
  · simp only [bankWork, h]
    exact laneNumber_keeps s r _ fun n => bankLane_keeps s n _ fun _ => rfl

/-- A status step always answers the status word. -/
theorem status_step_answers (s : Session) (r : Request) (hop : r.op = "status") :
    ∃ w s', (bankWork r).run.run s = .ok (.ok { value := some (.nat w) }) s' := by
  simp only [bankWork, hop]
  exact ⟨_, _, rfl⟩

end Scenario

/-- When scheduled events are raised, over every sequence of calls on the register bank: a
booked event is raised at the first status read after its booking that reaches its due
number, all such events in the order they were scheduled; only status reads count; a lane's
pending events are its booked events not yet raised; and in a scenario a step on a lane
outside `1 … 7` breaks off before scheduling, while a status step always answers. -/
theorem scheduled_events_fall_due_once :
    (∀ (k : Bank.Booking) (N : Nat), k.raisedAt ≤ N ↔ k.since < N ∧ k.event.due ≤ N) ∧
    (∀ (b : Bank) (cs : List Bank.Call), (b.run cs).reads = b.reads + cs.count .status) ∧
    (∀ (b : Bank) (cs : List Bank.Call) (l : Lane), (b.run cs).pending l =
      ((b.history cs).filter fun k => (b.run cs).reads < k.raisedAt ∧ k.event.lane = l).map
        (·.event.event)) ∧
    (∀ (b : Bank) (cs : List Bank.Call), (b.run cs).status.2 =
      ((b.history cs).filter fun k => k.raisedAt = (b.run cs).reads + 1).foldl
        (fun acc k => acc.raise k.event.lane k.event.event)
        { b.run cs with
          reads := (b.run cs).reads + 1
          schedule := ((b.history cs).filter fun k => (b.run cs).reads + 1 < k.raisedAt).map
            (·.event) }) ∧
    (∀ (b : Bank) (pre post : List Bank.Call), (b.run pre).fallingDue =
      ((b.history (pre ++ .status :: post)).filter fun k => k.raisedAt = (b.run pre).reads + 1).map
        (·.event)) ∧
    (∀ (b : Bank) (cs : List Bank.Call) (T : Nat), b.reads < T → T ≤ (b.run cs).reads →
      ∃! n, cs[n]? = some .status ∧ (b.run (cs.take n)).reads + 1 = T) ∧
    (∀ (b : Bank) (l : Lane), b.status.2.count l =
      match (b.fallingDue.filter fun x => decide (x.lane = l) && x.event.writesCount).getLast? with
      | some x => b.countLeftBy l x.event
      | none => b.count l) ∧
    (∀ (s : Scenario.Session) (r : Scenario.Request) (n p : Int) (e : String) (ev : Event),
      r.op = "after" → r.ch = some n → n.natAbs ≤ 1000000 → Lane.ofNumber? n = none →
      r.event = some (.name e) → Event.ofName? e = some ev → r.polls = some p →
      -100000 ≤ p ∧ p ≤ 100000 → (Scenario.bankWork r).run.run s = .error (.noLane n) s) ∧
    (∀ (s : Scenario.Session) (r : Scenario.Request), r.op = "status" →
      ∃ w s', (Scenario.bankWork r).run.run s = .ok (.ok { value := some (.nat w) }) s') ∧
    (∀ (s : Scenario.Session) (r : Scenario.Request),
      r.op = "flags" ∨ r.op = "pending" ∨ r.op = "snapshot" →
      finalState ((Scenario.bankWork r).run.run s) = s) :=
  ⟨Bank.Booking.raisedAt_le_iff, Bank.reads_run, Bank.pending_run, Bank.status_run,
    Bank.fallingDue_split, fun b cs _ h1 h2 => Bank.status_reaches_once b cs h1 h2,
    Bank.count_status,
    fun s r _ _ _ _ hop hch hn hl hev he hpolls hp =>
      Scenario.after_step_refuses_unknown_lane s r hop hch hn hl hev he hpolls hp,
    Scenario.status_step_answers, Scenario.looking_step_keeps_session⟩

/-- A request to book transfer-complete on lane 9 breaks off, a status request answers, and
of the calls status, flags, status, exactly one makes read number two. -/
theorem lane_nine_refused_status_answers :
    (Scenario.bankWork
      { op := "after", ch := some 9, event := some (.name "complete"), polls := some 2 }).run.run
        Scenario.Session.initial = .error (.noLane 9) Scenario.Session.initial ∧
    (∃ w s', (Scenario.bankWork { op := "status" }).run.run Scenario.Session.initial =
      .ok (.ok { value := some (.nat w) }) s') ∧
    ∃! n, [Bank.Call.status, .flags, .status][n]? = some .status ∧
      (({} : Bank).run ([Bank.Call.status, .flags, .status].take n)).reads + 1 = 2 := by
  obtain ⟨-, -, -, -, -, hunique, -, hnoLane, hstatus, -⟩ := scheduled_events_fall_due_once
  exact ⟨hnoLane _ _ 9 2 "complete" .complete rfl rfl (by decide) rfl rfl rfl rfl (by decide),
    hstatus _ _ rfl, hunique {} _ 2 (by decide) (by decide)⟩


end DmaOwnership
