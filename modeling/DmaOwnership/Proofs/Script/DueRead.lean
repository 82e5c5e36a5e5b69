import DmaOwnership.Proofs.Bank.Schedule
import DmaOwnership.Script.Simulator
import Mathlib
/-!
# The read at which a script's booking falls due

The `after` line of a script takes any poll count from one up to the largest signed 64-bit
number, and books its event at the bank's read count plus the poll count, kept to 64 signed
bits as the machine keeps it. A status read raises a booked event once its number reaches
the stored due number.

The bank counts its reads without bound; the code's signed counter shows the same count
below `2⁶³` reads (`fallingDue_eq_counter`). While the sum fits, the event is raised by the
read `reads + polls` and by none before it.
Past the top the sum wraps to a negative number, which every later read reaches: the event
is raised by the very next status read. One status read already made is enough for the
largest poll count the line accepts to wrap (`booking_past_the_top_falls_due_next`).
-/

namespace DmaOwnership

/-! ## The 64-bit sum -/

/-- A value in the signed 64-bit range is kept as it is. -/
theorem wrap64_of_lt {x : Int} (h0 : -2 ^ 63 ≤ x) (h1 : x < 2 ^ 63) : wrap64 x = x :=
  Int.bmod_eq_of_le (by omega) (by omega)

/-- A value in the next 2⁶³ past the top wraps to a negative number. -/
theorem wrap64_of_ge {x : Int} (h0 : 2 ^ 63 ≤ x) (h1 : x < 2 ^ 64 + 2 ^ 63) :
    wrap64 x = x - 2 ^ 64 := by
  have hx : x = x - 2 ^ 64 + ((18446744073709551616 : Nat) : Int) := by omega
  rw [wrap64]
  conv_lhs => rw [hx]
  rw [Int.add_bmod_right]
  exact Int.bmod_eq_of_le (by omega) (by omega)

/-- A count of status reads shows unchanged on the code's signed 64-bit counter exactly while
it is below `2⁶³`; the count `2⁶³` wraps to a negative number. -/
theorem wrap64_natCast_eq_iff (n : Nat) : wrap64 n = n ↔ n < 2 ^ 63 := by
  constructor
  · intro h
    -- a wrapped value lies below the top
    have hlt : wrap64 n < 2 ^ 63 := by
      have := Int.bmod_lt (x := (n : Int)) (m := 18446744073709551616) (by norm_num)
      unfold wrap64
      omega
    omega
  · intro h
    exact wrap64_of_lt (by omega) (by exact_mod_cast h)

/-- Every numeral a script accepts lies below the signed 64-bit top. -/
theorem Text.parseInt?_lt {s : String} {v : Int} (h : Text.parseInt? s = some v) : v < 2 ^ 63 := by
  unfold Text.parseInt? at h
  split at h
  split at h
  · cases h
  · dsimp only at h
    rw [Option.ite_none_right_eq_some] at h
    obtain ⟨⟨_, hlt⟩, hv⟩ := h
    rw [← Option.some.inj hv]
    omega

/-! ## The raising read of a booking -/

namespace Bank

/-- The bank counts its status reads without bound, where the code keeps the count in a signed
64-bit counter. Each read adds one (`reads_readN`), and up to the read numbered `2⁶³` the two
counts agree, so each such read raises exactly the events the code's counter finds due. -/
theorem fallingDue_eq_counter (b : Bank) (h : b.reads + 1 < 2 ^ 63) :
    b.fallingDue = b.schedule.filter fun x => decide (x.due ≤ wrap64 ((b.reads + 1 : Nat) : Int)) := by
  rw [fallingDue, (wrap64_natCast_eq_iff _).mpr h]

/-- The booking an `after` call makes is raised by the read `reads + polls` while that sum
fits in 63 bits, and by the next read when it does not. -/
theorem raisedAt_after (b : Bank) {polls : Int} (l : Lane) (e : Event) (hR : b.reads < 2 ^ 63)
    (h1 : 1 ≤ polls) (h2 : polls < 2 ^ 63) :
    (Call.booking b (.after polls l e)).map Booking.raisedAt =
      [if (b.reads : Int) + polls < 2 ^ 63 then (b.reads + polls).toNat else b.reads + 1] := by
  unfold Call.booking Booking.raisedAt
  simp only [List.map_cons, List.map_nil, List.cons.injEq, and_true]
  split_ifs with hfit
  · rw [wrap64_of_lt (by omega) hfit]
    omega
  · rw [wrap64_of_ge (by omega) (by omega)]
    omega

end Bank

/-! ## The `after` line -/

namespace Script

/-- A lane's number, written as a word, names the lane. -/
theorem laneWord_number (l : Lane) : laneWord (toString l.number) = pure l := by
  obtain ⟨i⟩ := l
  fin_cases i <;> rfl

/-- An `after` line with a poll count it accepts, an event and a lane schedules the event
on the bank and changes nothing else. -/
theorem exec_after (s : Simulator) (l : Lane) {p e : String} {polls : Int} {ev : Event}
    (hp : Text.parseInt? p = some polls) (h1 : 1 ≤ polls) (he : Event.ofName? e = some ev) :
    (exec "after" [p, e, toString l.number]).run.run s =
      .ok (.ok ()) { s with machine := { s.machine with bank := s.machine.bank.call (.after polls l ev) } } := by
  have hf : (Text.parseInt? p).filter (1 ≤ ·) = some polls := by
    rw [hp, Option.filter_some, decide_eq_true h1, if_pos rfl]
  simp only [exec, hf, eventWord, he, laneWord_number, pure_bind]
  rfl

/-- The raising read of an `after` line. From a simulator that has made `R < 2⁶³` status
reads, a line booking an event `p` reads ahead, for any poll count `p ≥ 1` it accepts,
schedules it on the bank and changes nothing else; its booking is raised by the read `R + p`
when `R + p < 2⁶³` and by the read `R + 1` otherwise; and a status read after the booking
finds the event due exactly when its number is at least that read. -/
theorem after_line_raising_read (s : Simulator) (l : Lane) {p e : String} {polls : Int}
    {ev : Event} (hp : Text.parseInt? p = some polls) (h1 : 1 ≤ polls)
    (he : Event.ofName? e = some ev) (hR : s.machine.bank.reads < 2 ^ 63) :
    (exec "after" [p, e, toString l.number]).run.run s =
        .ok (.ok ()) { s with machine := { s.machine with bank := s.machine.bank.call (.after polls l ev) } } ∧
      (Bank.Call.booking s.machine.bank (.after polls l ev)).map Bank.Booking.raisedAt =
        [if (s.machine.bank.reads : Int) + polls < 2 ^ 63 then (s.machine.bank.reads + polls).toNat
          else s.machine.bank.reads + 1] ∧
      ∀ N : Nat, s.machine.bank.reads < N →
        (wrap64 (s.machine.bank.reads + polls) ≤ N ↔
          (if (s.machine.bank.reads : Int) + polls < 2 ^ 63 then (s.machine.bank.reads + polls).toNat
            else s.machine.bank.reads + 1) ≤ N) := by
  have hraised := Bank.raisedAt_after s.machine.bank l ev hR h1 (Text.parseInt?_lt hp)
  refine ⟨exec_after s l hp h1 he, hraised, fun N hN => ?_⟩
  -- the read's test is the booking's raising read, by the rule of the bank's reads
  have hk := Bank.Booking.raisedAt_le_iff ⟨s.machine.bank.reads, ⟨wrap64 (s.machine.bank.reads + polls), l, ev⟩⟩ N
  simp only [Bank.Call.booking, List.map_cons, List.map_nil, List.cons.injEq, and_true] at hraised
  rw [hraised] at hk
  simp only [hN, true_and] at hk
  exact hk.symm

/-- The fresh simulator books an event five reads ahead for the read five. -/
theorem after_line_raising_read_fresh :
    Text.parseInt? "5" = some 5 ∧ (1 : Int) ≤ 5 ∧ Event.ofName? "complete" = some .complete ∧
      ({} : Simulator).machine.bank.reads < 2 ^ 63 ∧
      (Bank.Call.booking ({} : Simulator).machine.bank (.after 5 ⟨0⟩ .complete)).map
        Bank.Booking.raisedAt = [5] := by
  have h := (after_line_raising_read {} ⟨0⟩ (p := "5") (e := "complete") rfl (by decide) rfl
    (by decide)).2.1
  exact ⟨rfl, by decide, rfl, by decide, h⟩

/-- One status read made, a transfer in flight on lane 1 and an event booked the largest
number of reads ahead that the line accepts: the sum wraps, and the very next poll finds the
transfer complete. -/
theorem booking_past_the_top_falls_due_next :
    ∃ s₁ s₂ s₃ s₄, (exec "rx" ["1", "4"]).run.run {} = .ok (.ok ()) s₁ ∧
      (exec "poll" ["1"]).run.run s₁ = .ok (.ok ()) s₂ ∧ s₂.last = "would block" ∧
      (exec "after" ["9223372036854775807", "complete", "1"]).run.run s₂ = .ok (.ok ()) s₃ ∧
      s₃.machine.bank.reads = 1 ∧
      (exec "poll" ["1"]).run.run s₃ = .ok (.ok ()) s₄ ∧ s₄.last = "ok" :=
  ⟨_, _, _, _, rfl, rfl, rfl, rfl, rfl, rfl, rfl⟩

end Script

end DmaOwnership
