import DmaOwnership.Proofs.Script.Plain
import DmaOwnership.Proofs.Transfer.Wait
import DmaOwnership.Proofs.Script.DueRead
/-!
# The bytes a one-shot transfer carries

A `tx` line sends the bytes of its hex words, an `rx` line reads into a buffer of zeros of the
length given, and each `deliver` line lands the peripheral's bytes at the start of that
buffer, as far as it reaches. Once the engine completes the transfer, a `wait` line hands
the buffer back and reports its bytes in lower-case hex.

`Carries l dir xs o s` says that lane `l` carries the one-shot transfer `o` of a buffer holding
the bytes `xs`: the simulator lists it, the machine runs it and will hand the buffer back
readable, and no error shows or is scheduled on the lane. A start line on a free lane
establishes it, a `deliver` line overwrites the bytes, a `complete` line keeps it and raises
the lane's complete flag, and a `wait` line then reports the bytes.
-/

namespace DmaOwnership

/-! ## Writes into an array -/

/-- `xs` with its first items replaced by `ds`, as far as `xs` reaches. -/
def overwrite {α : Type} (xs ds : List α) : List α := ds.take xs.length ++ xs.drop ds.length

@[simp] theorem length_overwrite {α : Type} (xs ds : List α) : (overwrite xs ds).length = xs.length := by
  simp only [overwrite, List.length_append, List.length_take, List.length_drop]
  omega

@[simp] theorem overwrite_nil {α : Type} (xs : List α) : overwrite xs [] = xs := by
  simp [overwrite]

@[simp] theorem nil_overwrite {α : Type} (ds : List α) : overwrite [] ds = [] := by
  simp [overwrite]

theorem overwrite_cons_cons {α : Type} (x v : α) (xs ds : List α) :
    overwrite (x :: xs) (v :: ds) = v :: overwrite xs ds := by
  simp [overwrite]

theorem overwrite_map {α β : Type} (f : α → β) (xs ds : List α) :
    overwrite (xs.map f) (ds.map f) = (overwrite xs ds).map f := by
  simp [overwrite, List.map_take, List.map_drop]

/-- The engine's write of `data` from item `offset` on: the items before `offset` stay, and
from there on `data` overwrites the rest as far as the array reaches. -/
theorem toList_foldl_setIfInBounds {α : Type} (data : List α) (offset : Nat) (a : Array α) :
    ((data.zipIdx offset).foldl (fun a (v, i) => a.setIfInBounds i v) a).toList =
      a.toList.take offset ++ overwrite (a.toList.drop offset) data := by
  induction data generalizing offset a with
  | nil => simp
  | cons v ds ih =>
    rw [List.zipIdx_cons, List.foldl_cons, ih, Array.toList_setIfInBounds]
    generalize a.toList = l
    by_cases ho : offset < l.length
    · -- the write lands at `offset`, and the rest goes on from the item after it
      obtain ⟨x, rest, hdrop⟩ : ∃ x rest, l.drop offset = x :: rest :=
        List.exists_cons_of_ne_nil (by simp; omega)
      obtain ⟨pre, rfl, rfl⟩ : ∃ pre, l = pre ++ x :: rest ∧ pre.length = offset :=
        ⟨l.take offset, by rw [← hdrop, List.take_append_drop], by simp; omega⟩
      simp [overwrite_cons_cons, List.take_append]
    · have hlen : l.length ≤ offset := by omega
      rw [List.set_eq_of_length_le hlen, List.take_of_length_le (by omega),
        List.drop_of_length_le (by omega), List.take_of_length_le hlen,
        List.drop_of_length_le hlen]
      simp

/-! ## The error flag across reads -/

namespace Bank

/-- Raising anything but an error on the lane leaves the lane's error flag as it was. -/
theorem error_raise_of_ne (b : Bank) {l m : Lane} {e : Event} (h : m = l → e ≠ .error) :
    (LaneStatus.ofWord l (b.raise m e).flags).error = (LaneStatus.ofWord l b.flags).error := by
  by_cases hm : m = l
  · subst hm
    have he := h rfl
    by_cases hc : e = .complete
    · subst hc
      rw [LaneStatus.ofWord_raise_complete]
    by_cases hh : e = .half
    · subst hh
      rw [LaneStatus.ofWord_raise_half]
    · have hb : b.raise m e = b := by
        unfold raise
        simp only [hc, hh, he, if_false]
      rw [hb]
  · rw [LaneStatus.ofWord_raise_of_ne b hm]

theorem error_foldl_raise_of_quiet {l : Lane} {due : List Scheduled}
    (hdue : ∀ x ∈ due, x.lane = l → x.event ≠ .error) (acc : Bank) :
    (LaneStatus.ofWord l (due.foldl (fun acc x => acc.raise x.lane x.event) acc).flags).error =
      (LaneStatus.ofWord l acc.flags).error := by
  induction due generalizing acc with
  | nil => rfl
  | cons x rest ih =>
    rw [List.foldl_cons, ih (fun y hy => hdue y (List.mem_cons_of_mem x hy))]
    exact error_raise_of_ne acc (hdue x List.mem_cons_self)

/-- While no error is scheduled on the lane, reads keep its error flag down. -/
theorem error_readN_of_quiet {b : Bank} {l : Lane}
    (he : (LaneStatus.ofWord l b.flags).error = false)
    (hq : ∀ x ∈ b.schedule, x.lane = l → x.event ≠ .error) (k : Nat) :
    (LaneStatus.ofWord l (b.readN k).flags).error = false := by
  induction k with
  | zero => exact he
  | succ k ih =>
    have hdue : ∀ x ∈ (b.readN k).fallingDue, x.lane = l → x.event ≠ .error := fun x hx =>
      hq x (mem_schedule_of_readN (List.mem_filter.mp hx).1)
    rw [readN_succ, status_snd, error_foldl_raise_of_quiet hdue]
    exact ih

end Bank

namespace Script

open Machine Text

/-! ## Lines on a lane -/

/-- A line of a lane's command reads the lane from its first argument and runs the command
there; a line without arguments stops with a message. -/
theorem exec_of_mem {cmd : String} (hcmd : cmd ∈ laneCommands) (args : List String) :
    exec cmd args = match args with
      | w :: rest => laneWord w >>= fun l => laneCommand cmd l rest
      | [] => throw "missing channel" := by
  have hc : laneCommands.contains cmd = true := List.contains_iff_mem.mpr hcmd
  unfold exec
  split
  · exact absurd hcmd (by decide)
  · exact absurd hcmd (by decide)
  · exact absurd hcmd (by decide)
  · simp only [hc]
    rw [if_pos trivial]
    cases args <;> rfl

/-- A line whose first argument names a lane runs the lane's command there. -/
theorem exec_lane {cmd : String} (hcmd : cmd ∈ laneCommands) {w : String} {l : Lane}
    (hw : laneWord w = pure l) (args : List String) :
    exec cmd (w :: args) = laneCommand cmd l args := by
  rw [exec_of_mem hcmd]
  dsimp only
  rw [hw, pure_bind]

/-- A line naming a lane by its number runs the lane's command there. -/
theorem exec_number {cmd : String} (hcmd : cmd ∈ laneCommands) (l : Lane) (args : List String) :
    exec cmd (toString l.number :: args) = laneCommand cmd l args :=
  exec_lane hcmd (laneWord_number l) args

/-- A line whose words are those of a command runs the command, one line on. -/
theorem run_runLines_cons {split : String → Except String (List String)} {text : String}
    {cmd : String} {args : List String} (hw : split text = .ok (cmd :: args)) {s s' : Simulator}
    (hx : (exec cmd args).run.run { s with line := s.line + 1 } = .ok (.ok ()) s')
    (rest : List String) : (runLines split (text :: rest)).run s = (runLines split rest).run s' := by
  simp only [runLines, EStateM.run_bind, hw, EStateM.run_modify, EStateM.run_get]
  rw [hx]

/-! ## A transfer in flight with its bytes -/

/-- A byte survives the trip through a 32-bit item. -/
theorem toNat_toUInt32_of_lt {x : Nat} (h : x < 256) : x.toUInt32.toNat = x := by
  rw [Nat.toUInt32_eq, UInt32.toNat_ofNat']
  omega

theorem map_toNat_toUInt32 {xs : List Nat} (h : ∀ x ∈ xs, x < 256) :
    (xs.map Nat.toUInt32).map UInt32.toNat = xs := by
  conv_rhs => rw [← List.map_id xs]
  rw [List.map_map]
  exact List.map_congr_left fun x hx => toNat_toUInt32_of_lt (h x hx)

/-- Lane `l` carries the one-shot transfer `o` of a buffer of the bytes `xs`, in direction
`dir`: the simulator lists it, the machine runs it with the buffer and the peripheral listed,
the buffer holds the bytes and is readable once handed back, and no error shows or is
scheduled on the lane. -/
structure Carries (l : Lane) (dir : Direction) (xs : List Nat) (o : OneShot) (s : Simulator) :
    Prop where
  /-- The simulator lists the transfer on the lane. -/
  listed : l.entry s.oneShots = some o
  /-- It is marked as a read exactly when it reads from the peripheral. -/
  reads : o.reads = decide (dir = .fromPeripheral)
  /-- The machine runs it on the lane, with the buffer and the peripheral listed. -/
  transfer : s.machine.transfers[o.transfer]? = some ⟨l, o.buffer, o.peripheral, dir, false⟩
  /-- The buffer holds the bytes, and nobody writes it once the transfer hands it back. -/
  buffer : ∃ b, s.machine.buffers[o.buffer]? = some b ∧ b.items.toList = xs.map Nat.toUInt32 ∧
    b.unlock.writing = false
  /-- The items are bytes. -/
  bytes : ∀ x ∈ xs, x < 256
  /-- No error shows on the lane. -/
  noError : (LaneStatus.ofWord l s.machine.bank.flags).error = false
  /-- No error is scheduled on the lane. -/
  noErrorDue : ∀ x ∈ s.machine.bank.schedule, x.lane = l → x.event ≠ .error

/-- Writing a control word leaves the status word. -/
@[simp] theorem Bank.flags_setControl (b : Bank) (l : Lane) (v : UInt32) :
    (b.setControl l v).flags = b.flags := rfl

/-- A start on a free lane, of a buffer that locks, with a peripheral that exists, begins the
transfer as the newest one: the buffer locked, the lane's flags cleared, nothing scheduled. -/
theorem Transfer.start_of_free {m : Machine} {dir : Direction} {l : Lane} {buf periph : Nat}
    {b b' : Buffer} {p : Peripheral} (hu : m.inUse l = false) (hb : m.buffers[buf]? = some b)
    (hlen : ¬(b.length = 0 ∨ b.length > maxCount)) (hlock : dir.lock b = some b')
    (hp : m.peripherals[periph]? = some p) :
    ∃ m', (Transfer.start dir l buf periph).run m = .ok (.ok m.transfers.size) m' ∧
      m'.transfers = m.transfers.push ⟨l, buf, periph, dir, false⟩ ∧
      m'.buffers = m.buffers.modify buf (fun _ => b') ∧
      LaneStatus.ofWord l m'.bank.flags = ⟨false, false, false⟩ ∧
      m'.bank.schedule = m.bank.schedule := by
  rw [Transfer.run_start, hu, hb]
  simp only [Bool.false_eq_true, if_false, hlen, hlock, hp]
  refine ⟨_, rfl, rfl, rfl, ?_, ?_⟩
  · rw [Bank.flags_setControl, Bank.flags_program, LaneStatus.ofWord_clear_flags]
  · simp only [Bank.schedule_setControl, Bank.schedule_program]

/-- A new buffer locks for a transfer in either direction, and once handed back nobody writes
it. -/
theorem lock_byteBuffer (dir : Direction) (xs : List Nat) :
    ∃ b, dir.lock (byteBuffer xs) = some b ∧ b.items = (byteBuffer xs).items ∧
      b.unlock.writing = false := by
  cases dir <;> exact ⟨_, rfl, rfl, rfl⟩

/-- A lane that lists no transfer is not in use: the books hold no transfer on it, so nothing
holds it. -/
theorem Simulator.Books.inUse_eq_false {s : Simulator} (hs : s.Books) {l : Lane}
    (hfree : l.entry s.oneShots = none ∧ l.entry s.circulars = none) : s.machine.inUse l = false := by
  have hown : (s.machine.laneState l).owned = false := by
    cases h : (s.machine.laneState l).owned
    · rfl
    · rcases (hs.owned_iff l).mp h with ⟨o, ho⟩ | ⟨c, hc⟩
      · rw [hfree.1] at ho
        cases ho
      · rw [hfree.2] at hc
        cases hc
  rw [hs.atRest.ownership.inUse_eq, hown]

/-- A start of a one-shot transfer of the bytes `xs` on a lane that lists no transfer begins
it: the lane carries it, and the line reports `ok`. -/
theorem startOneShot_carries {s : Simulator} (hs : s.Books) {l : Lane}
    (hfree : l.entry s.oneShots = none ∧ l.entry s.circulars = none)
    (hq : ∀ x ∈ s.machine.bank.schedule, x.lane = l → x.event ≠ .error) (dir : Direction)
    {xs : List Nat} (hne : xs ≠ []) (hlen : xs.length ≤ maxCount) (hbytes : ∀ x ∈ xs, x < 256)
    (cmd : String) :
    ∃ o s', (startOneShot l dir xs cmd).run.run s = .ok (.ok ()) s' ∧ Carries l dir xs o s' ∧
      s'.printed = s.printed.push
        (({ command := cmd, lane := some l, result := "ok" } : Report).render s.line) ∧
      s'.line = s.line := by
  have hu := hs.inUse_eq_false hfree
  obtain ⟨b, hlock, hitems, hunlock⟩ := lock_byteBuffer dir xs
  have hsize : ¬((byteBuffer xs).length = 0 ∨ (byteBuffer xs).length > maxCount) := by
    have hpos : xs.length ≠ 0 := fun h => hne (List.eq_nil_of_length_eq_zero h)
    simp only [byteBuffer, Buffer.length, List.size_toArray, List.length_map]
    omega
  obtain ⟨m, hstart, htr, hbuf, hflags, hsched⟩ := Transfer.start_of_free
    (m := { s.machine with buffers := s.machine.buffers.push (byteBuffer xs),
                           peripherals := s.machine.peripherals.push (peripheralFor l) })
    hu Array.getElem?_push_size hsize hlock Array.getElem?_push_size
  unfold startOneShot
  rw [run_act_bind]
  simp only [addBuffer, EStateM.run_modifyGet]
  rw [run_act_bind]
  simp only [addPeripheral, EStateM.run_modifyGet]
  rw [run_act_bind, hstart]
  dsimp only at htr hbuf hsched ⊢
  rw [run_modify_bind]
  refine ⟨⟨s.machine.transfers.size, s.machine.buffers.size, s.machine.peripherals.size,
    decide (dir = .fromPeripheral)⟩, _, rfl, ⟨?_, rfl, ?_, ?_, hbytes, ?_, ?_⟩, rfl, rfl⟩
  · exact Lane.entry_setEntry _ _ _
  · show m.transfers[s.machine.transfers.size]? = _
    rw [htr, Array.getElem?_push_size]
  · refine ⟨b, ?_, ?_, hunlock⟩
    · show m.buffers[s.machine.buffers.size]? = _
      rw [hbuf, Array.getElem?_modify, if_pos rfl, Array.getElem?_push_size]
      rfl
    · rw [hitems]
      simp [byteBuffer]
  · show (LaneStatus.ofWord l m.bank.flags).error = false
    rw [hflags]
  · show ∀ x ∈ m.bank.schedule, _
    rw [hsched]
    exact hq

/-- Counting a line keeps what a lane carries. -/
theorem Carries.count {l : Lane} {dir : Direction} {xs : List Nat} {o : OneShot} {s : Simulator}
    (h : Carries l dir xs o s) (n : Nat) : Carries l dir xs o { s with line := n } :=
  ⟨h.listed, h.reads, h.transfer, h.buffer, h.bytes, h.noError, h.noErrorDue⟩

/-- Handing a buffer back leaves its items. -/
@[simp] theorem Buffer.items_unlock (b : Buffer) : b.unlock.items = b.items := by
  obtain ⟨w, items, r, wr, acc⟩ := b
  cases acc <;> rfl

/-- A write of bytes into a buffer leaves how it is held. -/
theorem Buffer.unlock_fill_writing (b : Buffer) (offset : Nat) (data : List UInt32) :
    (b.fill offset data).unlock.writing = b.unlock.writing := by
  obtain ⟨w, items, r, wr, acc⟩ := b
  cases acc <;> rfl

/-- Overwriting bytes with bytes leaves bytes. -/
theorem bytes_overwrite {xs ds : List Nat} (hxs : ∀ x ∈ xs, x < 256) (hds : ∀ x ∈ ds, x < 256) :
    ∀ x ∈ overwrite xs ds, x < 256 := by
  intro x hx
  rcases List.mem_append.mp hx with h | h
  · exact hds x (List.mem_of_mem_take h)
  · exact hxs x (List.mem_of_mem_drop h)

/-- A `deliver` line on a lane carrying a read lands the bytes of its words at the start of
the buffer, as far as the buffer reaches, and changes nothing else. -/
theorem deliver_carries {s : Simulator} {l : Lane} {xs : List Nat} {o : OneShot}
    (h : Carries l .fromPeripheral xs o s) {ws : List String} {bs : List Nat}
    (hbs : List.Forall₂ HexByte ws bs) :
    ∃ s', (exec "deliver" (toString l.number :: ws)).run.run s = .ok (.ok ()) s' ∧
      Carries l .fromPeripheral (overwrite xs bs) o s' ∧ s'.printed = s.printed ∧
      s'.line = s.line := by
  obtain ⟨b, hb, hitems, hunlock⟩ := h.buffer
  have hread : o.reads = true := by rw [h.reads]; rfl
  rw [exec_number (by decide), laneCommand]
  simp only
  rw [run_get_bind, h.listed, Option.filter_some, hread, if_pos rfl]
  dsimp only
  rw [run_bind_of_stays ((run_bytesWords_eq_ok_iff ws bs s).mpr hbs)]
  refine ⟨_, rfl, ⟨h.listed, h.reads, h.transfer,
    ⟨b.fill 0 (bs.map Nat.toUInt32), ?_, ?_, ?_⟩, ?_, h.noError, h.noErrorDue⟩, rfl, rfl⟩
  · show (s.machine.buffers.modify o.buffer _)[o.buffer]? = _
    rw [Array.getElem?_modify, if_pos rfl, hb]
    rfl
  · simp only [Buffer.fill, toList_foldl_setIfInBounds, List.take_zero, List.drop_zero,
      List.nil_append, hitems, overwrite_map]
  · rw [Buffer.unlock_fill_writing, hunlock]
  · exact bytes_overwrite h.bytes (lt_of_forall₂_hexByte hbs)

/-- A `complete` line raises the lane's complete flag and keeps what the lane carries. -/
theorem complete_carries {s : Simulator} {l : Lane} {dir : Direction} {xs : List Nat}
    {o : OneShot} (h : Carries l dir xs o s) :
    ∃ s', (exec "complete" [toString l.number]).run.run s = .ok (.ok ()) s' ∧
      Carries l dir xs o s' ∧ (LaneStatus.ofWord l s'.machine.bank.flags).complete = true ∧
      s'.printed = s.printed ∧ s'.line = s.line := by
  rw [exec_number (by decide), laneCommand]
  simp only [eventWord, show Event.ofName? "complete" = some .complete from rfl, pure_bind]
  refine ⟨_, rfl, ⟨h.listed, h.reads, h.transfer, h.buffer, h.bytes, ?_, ?_⟩, ?_, rfl, rfl⟩
  · show (LaneStatus.ofWord l (s.machine.bank.raise l .complete).flags).error = false
    rw [LaneStatus.ofWord_raise_complete]
    exact h.noError
  · show ∀ x ∈ (s.machine.bank.raise l .complete).schedule, _
    rw [Bank.schedule_raise]
    exact h.noErrorDue
  · show (LaneStatus.ofWord l (s.machine.bank.raise l .complete).flags).complete = true
    rw [LaneStatus.ofWord_raise_complete]

/-- A `wait` line on a lane carrying the bytes `xs`, once its complete flag is up, hands the
buffer back and reports `ok` with the bytes in lower-case hex. -/
theorem wait_reports_bytes {s : Simulator} {l : Lane} {dir : Direction} {xs : List Nat}
    {o : OneShot} (h : Carries l dir xs o s)
    (hc : (LaneStatus.ofWord l s.machine.bank.flags).complete = true) :
    ∃ s', (exec "wait" [toString l.number]).run.run s = .ok (.ok ()) s' ∧
      s'.printed = s.printed.push
        (({ command := "wait", lane := some l, result := "ok", data := lowerHex xs } : Report).render
          s.line) ∧ s'.line = s.line := by
  obtain ⟨b, hb, hitems, hunlock⟩ := h.buffer
  -- the complete flag is up, so the simulator lets the wait run and its first read ends it
  have hfin : s.machine.bank.finished l = true := by
    rw [Bank.finished, hc, Bool.or_true]
  have hset : settles s.machine.bank l = true := (settles_iff _ _).mpr (Or.inl hfin)
  have hk : (s.machine.bank.readN (0 + 1)).finished l = true :=
    Bank.finished_readN_of_le (Nat.zero_le _) hfin
  have herr : (LaneStatus.ofWord l (s.machine.bank.readN (0 + 1)).flags).error = false :=
    Bank.error_readN_of_quiet h.noError h.noErrorDue _
  have hwait := Transfer.run_wait_of_first_finish h.transfer rfl hk
    (fun j hj => absurd hj (Nat.not_lt_zero j))
  simp only [herr, Bool.false_eq_true, if_false] at hwait
  rw [exec_number (by decide), laneCommand]
  simp only
  rw [run_oneShotOn_bind, h.listed]
  dsimp only
  rw [run_get_bind]
  simp only [hset]
  rw [if_pos trivial, run_act_bind, hwait]
  dsimp only
  rw [run_modify_bind, borrow_pure_within, run_lift_bind, run_within, Buffer.run_borrow]
  -- the buffer handed back is the one the lane carried, unlocked
  have hback : ∀ c, ((s.machine.polled (0 + 1)).handBack o.transfer
      ⟨l, o.buffer, o.peripheral, dir, false⟩ l.completeFlag c).buffers[o.buffer]? = some b.unlock := by
    intro c
    simp only [Machine.handBack, Machine.polled, Array.getElem?_modify, if_true, hb,
      Option.map_some]
  dsimp only
  rw [hback]
  dsimp only
  rw [if_neg (by rw [hunlock]; exact Bool.false_ne_true)]
  refine ⟨_, rfl, ?_, rfl⟩
  -- the bytes read back are those the buffer held
  have hdata : hexOfBytes (b.unlock.items.toList.map UInt32.toNat) = lowerHex xs := by
    rw [Buffer.items_unlock, hitems, map_toNat_toUInt32 h.bytes, hexOfBytes_eq_lowerHex h.bytes]
  simp only [hdata, handbackText_self, resultText]

/-! ## Whole lines -/

/-- The line of a command on a lane: the command, the lane's number and the arguments, one
space apart. -/
def laneLine (cmd : String) (l : Lane) (args : List String) : String :=
  " ".intercalate (cmd :: toString l.number :: args)

section Split

variable {split : String → Except String (List String)}

/-- A lane's line of a plain command and plain arguments splits into its words. -/
theorem split_laneLine (hsplit : SplitsPlain split) {cmd : String} (hcmd : Plain cmd) (l : Lane)
    {args : List String} (hargs : ∀ a ∈ args, Plain a) :
    split (laneLine cmd l args) = .ok (cmd :: toString l.number :: args) := by
  refine hsplit _ fun w hw => ?_
  rcases List.mem_cons.mp hw with rfl | hw
  · exact hcmd
  rcases List.mem_cons.mp hw with rfl | hw
  · exact plain_toString _
  · exact hargs w hw

/-- A lane's line of a plain command and no arguments splits into its words. -/
theorem split_laneLine_nil (hsplit : SplitsPlain split) {cmd : String} (hcmd : Plain cmd)
    (l : Lane) : split (laneLine cmd l []) = .ok [cmd, toString l.number] :=
  split_laneLine hsplit hcmd l fun _ h => absurd h List.not_mem_nil

/-- A lane's line of a plain command and a number splits into its words. -/
theorem split_laneLine_number (hsplit : SplitsPlain split) {cmd : String} (hcmd : Plain cmd)
    (l : Lane) (n : Nat) : split (laneLine cmd l [toString n]) = .ok [cmd, toString l.number, toString n] :=
  split_laneLine hsplit hcmd l fun a ha => by
    rw [List.mem_singleton.mp ha]
    exact plain_toString n

/-- A `tx` line of hex words on a free lane starts sending their bytes and reports `ok`. -/
theorem tx_carries {s : Simulator} (hs : s.Books) {l : Lane}
    (hfree : l.entry s.oneShots = none ∧ l.entry s.circulars = none)
    (hq : ∀ x ∈ s.machine.bank.schedule, x.lane = l → x.event ≠ .error)
    {ws : List String} {bs : List Nat} (hbs : List.Forall₂ HexByte ws bs) (hne : bs ≠ [])
    (hlen : bs.length ≤ maxCount) :
    ∃ o s', (exec "tx" (toString l.number :: ws)).run.run s = .ok (.ok ()) s' ∧
      Carries l .toPeripheral bs o s' ∧
      s'.printed = s.printed.push
        (({ command := "tx", lane := some l, result := "ok" } : Report).render s.line) ∧
      s'.line = s.line := by
  rw [exec_number (by decide), laneCommand]
  rw [run_bind_of_stays ((run_bytesWords_eq_ok_iff ws bs s).mpr hbs)]
  exact startOneShot_carries hs hfree hq _ hne hlen (lt_of_forall₂_hexByte hbs) _

/-- An `rx` line of a length from 1 to the largest count, on a free lane, starts reading into
a buffer of that many zeros and reports `ok`. -/
theorem rx_carries {s : Simulator} (hs : s.Books) {l : Lane}
    (hfree : l.entry s.oneShots = none ∧ l.entry s.circulars = none)
    (hq : ∀ x ∈ s.machine.bank.schedule, x.lane = l → x.event ≠ .error)
    {n : Nat} (h1 : 1 ≤ n) (hn : n ≤ maxCount) :
    ∃ o s', (exec "rx" [toString l.number, toString n]).run.run s = .ok (.ok ()) s' ∧
      Carries l .fromPeripheral (List.replicate n 0) o s' ∧
      s'.printed = s.printed.push
        (({ command := "rx", lane := some l, result := "ok" } : Report).render s.line) ∧
      s'.line = s.line := by
  have hzeros : zeros n = List.replicate n 0 := by
    rw [zeros, Nat.min_eq_left (by omega)]
  have hnum : lengthWords [toString n] = pure n := lengthWords_number (by unfold maxCount at hn; omega)
  rw [exec_number (by decide), laneCommand]
  simp only [hnum, pure_bind, hzeros]
  exact startOneShot_carries hs hfree hq _ (by simp; omega) (by simp; omega)
    (fun x hx => by rw [(List.mem_replicate.mp hx).2]; omega) _

/-- The `deliver` lines of a run, each of hex words, land their bytes one after the other:
the buffer holds the bytes overwritten by each line's in turn. -/
theorem delivers_carry (hsplit : SplitsPlain split) {l : Lane} {o : OneShot}
    {dws : List (List String)} {dbs : List (List Nat)}
    (hd : List.Forall₂ (List.Forall₂ HexByte) dws dbs) (rest : List String) :
    ∀ {s : Simulator} {xs : List Nat}, Carries l .fromPeripheral xs o s →
      ∃ s', (runLines split (dws.map (laneLine "deliver" l) ++ rest)).run s =
          (runLines split rest).run s' ∧
        Carries l .fromPeripheral (dbs.foldl overwrite xs) o s' ∧ s'.printed = s.printed ∧
        s'.line = s.line + dws.length := by
  induction hd with
  | nil => exact fun h => ⟨_, rfl, h, rfl, rfl⟩
  | @cons ws bs dws dbs hbs _ ih =>
    intro s xs h
    obtain ⟨s₁, hrun₁, hc₁, hp₁, hl₁⟩ := deliver_carries (h.count (s.line + 1)) hbs
    obtain ⟨s', hrun, hc, hp, hl⟩ := ih hc₁
    have hwords := split_laneLine hsplit (plain_keywords "deliver" (by simp)) l
      (plain_of_forall₂_hexByte hbs)
    refine ⟨s', ?_, hc, ?_, ?_⟩
    · rw [List.map_cons, List.cons_append, run_runLines_cons hwords hrun₁, hrun]
    · rw [hp, hp₁]
    · simp only [hl, hl₁, List.length_cons]
      omega

/-- A `complete` line and then a `wait` line on a lane carrying the bytes `xs`: the script goes
on, and the `wait` line reports `ok` with the bytes in lower-case hex. -/
theorem complete_wait_reports (hsplit : SplitsPlain split) {s : Simulator} {l : Lane}
    {dir : Direction} {xs : List Nat} {o : OneShot} (h : Carries l dir xs o s) :
    ∃ s', (runLines split [laneLine "complete" l [], laneLine "wait" l []]).run s = .ok none s' ∧
      s'.printed = s.printed.push
        (({ command := "wait", lane := some l, result := "ok", data := lowerHex xs } : Report).render
          (s.line + 2)) := by
  obtain ⟨s₁, hrun₁, hc₁, hcomp, hp₁, hl₁⟩ := complete_carries (h.count (s.line + 1))
  obtain ⟨s₂, hrun₂, hp₂, hl₂⟩ := wait_reports_bytes (hc₁.count (s₁.line + 1)) hcomp
  refine ⟨s₂, ?_, ?_⟩
  · rw [run_runLines_cons (split_laneLine_nil hsplit (plain_keywords "complete" (by simp)) l) hrun₁,
      run_runLines_cons (split_laneLine_nil hsplit (plain_keywords "wait" (by simp)) l) hrun₂]
    rfl
  · rw [hp₂, hl₁]
    simp only [hp₁]

/-- A `tx` line of hex words on a lane that lists no transfer and has no error scheduled, then
a `complete` line and a `wait` line on it: the script goes on, the `tx` line reports `ok`, and
the `wait` line reports `ok` with the bytes of the words in lower-case hex. A line within the
reader's limit has room for fewer bytes than the largest count. -/
theorem tx_complete_wait_reports (hsplit : SplitsPlain split) {s : Simulator} (hs : Reaches s)
    {l : Lane}
    (hfree : l.entry s.oneShots = none ∧ l.entry s.circulars = none)
    (hq : ∀ x ∈ s.machine.bank.schedule, x.lane = l → x.event ≠ .error)
    {ws : List String} {bs : List Nat} (hbs : List.Forall₂ HexByte ws bs) (hne : bs ≠ [])
    (hline : (laneLine "tx" l ws).utf8ByteSize ≤ maxLineBytes) :
    ∃ s', (runLines split [laneLine "tx" l ws, laneLine "complete" l [], laneLine "wait" l []]).run
        s = .ok none s' ∧
      s'.printed = (s.printed.push
        (({ command := "tx", lane := some l, result := "ok" } : Report).render (s.line + 1))).push
        (({ command := "wait", lane := some l, result := "ok", data := lowerHex bs } : Report).render
          (s.line + 3)) := by
  have hplain : ∀ w ∈ "tx" :: toString l.number :: ws, Plain w := by
    intro w hw
    rcases List.mem_cons.mp hw with rfl | hw
    · exact plain_keywords "tx" (by simp)
    rcases List.mem_cons.mp hw with rfl | hw
    · exact plain_toString _
    · exact plain_of_forall₂_hexByte hbs w hw
  -- a line within the limit holds fewer words than the largest count
  have hlen : bs.length ≤ maxCount := by
    have h2 := two_mul_length_le_utf8ByteSize _ hplain
    rw [← hbs.length_eq]
    simp only [List.length_cons] at h2
    unfold laneLine maxLineBytes at *
    unfold maxCount
    omega
  obtain ⟨o, s₁, hrun₁, hc₁, hp₁, hl₁⟩ :=
    tx_carries (hs.books.count (s.line + 1)) hfree hq hbs hne hlen
  obtain ⟨s₂, hrun₂, hp₂⟩ := complete_wait_reports hsplit hc₁
  refine ⟨s₂, ?_, ?_⟩
  · rw [run_runLines_cons (split_laneLine hsplit (plain_keywords "tx" (by simp)) l
      (plain_of_forall₂_hexByte hbs)) hrun₁]
    exact hrun₂
  · rw [hp₂, hp₁, hl₁]

/-- An `rx` line of a length from 1 to the largest count on a lane that lists no transfer and
has no error scheduled, `deliver` lines of hex words, then a `complete` line and a `wait`
line: the script goes on, the `rx` line reports `ok`, and the `wait` line reports `ok` with
the bytes of a buffer of zeros of that length overwritten by each `deliver` line's bytes in
turn, in lower-case hex. -/
theorem rx_deliver_wait_reports (hsplit : SplitsPlain split) {s : Simulator} (hs : Reaches s)
    {l : Lane}
    (hfree : l.entry s.oneShots = none ∧ l.entry s.circulars = none)
    (hq : ∀ x ∈ s.machine.bank.schedule, x.lane = l → x.event ≠ .error)
    {n : Nat} (h1 : 1 ≤ n) (hn : n ≤ 65535) {dws : List (List String)} {dbs : List (List Nat)}
    (hd : List.Forall₂ (List.Forall₂ HexByte) dws dbs) :
    ∃ s', (runLines split (laneLine "rx" l [toString n] :: dws.map (laneLine "deliver" l) ++
        [laneLine "complete" l [], laneLine "wait" l []])).run s = .ok none s' ∧
      s'.printed = (s.printed.push
        (({ command := "rx", lane := some l, result := "ok" } : Report).render (s.line + 1))).push
        (({ command := "wait", lane := some l, result := "ok",
            data := lowerHex (dbs.foldl overwrite (List.replicate n 0)) } : Report).render
          (s.line + dws.length + 3)) := by
  obtain ⟨o, s₁, hrun₁, hc₁, hp₁, hl₁⟩ :=
    rx_carries (hs.books.count (s.line + 1)) hfree hq h1 hn
  obtain ⟨s₂, hrun₂, hc₂, hp₂, hl₂⟩ := delivers_carry hsplit hd _ hc₁
  obtain ⟨s₃, hrun₃, hp₃⟩ := complete_wait_reports hsplit hc₂
  refine ⟨s₃, ?_, ?_⟩
  · rw [List.cons_append,
      run_runLines_cons (split_laneLine_number hsplit (plain_keywords "rx" (by simp)) l n) hrun₁,
      hrun₂]
    exact hrun₃
  · have hline : s₂.line + 2 = s.line + dws.length + 3 := by
      rw [hl₂, hl₁]
      dsimp only
      omega
    rw [hp₃, hline, hp₂, hp₁]

end Split

end Script

end DmaOwnership
