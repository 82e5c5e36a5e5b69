import DmaOwnership.Proofs.Script.OneShotBytes
import DmaOwnership.Proofs.Stream.Halves
import DmaOwnership.Proofs.Stream.Lapped
/-!
# Lines that leave a circular transfer's ring alone

The library's operations move a ring's phase and never its items (`KeepsItems`), so a script
line changes the bytes of lane `l`'s ring only by writing them. A fill of another lane writes
another ring, since the books give every running transfer a ring of its own
(`Simulator.Books.ring_ne`), and a `circ` line on lane `l` while its transfer runs is refused.

`Streams l c xs s` says that lane `l` lists the circular transfer `c`, whose ring holds the
bytes `xs`. Every line that returns and neither fills nor stops lane `l` keeps it
(`streams_exec`).
-/

namespace DmaOwnership

/-! ## Operations that keep every ring's items -/

namespace Machine

/-- Ring `i` of the machine holds the items `ys`. -/
def RingHolds (i : Nat) (ys : Array UInt32) (m : Machine) : Prop :=
  (m.rings[i]?).map Ring.items = some ys

/-- Every ring keeps its items through `x`, whether it returns or breaks off. -/
def KeepsItems {α : Type} (x : Act α) : Prop := ∀ i ys, Keeps (RingHolds i ys) x

section RingHolds

variable {i : Nat} {ys : Array UInt32} {m : Machine}

theorem RingHolds.of_rings (h : RingHolds i ys m) {m' : Machine} (he : m'.rings = m.rings) :
    RingHolds i ys m' := by
  unfold RingHolds
  rw [he]
  exact h

/-- A change of another ring, or of a ring's phase, leaves ring `i`'s items. -/
theorem RingHolds.modify (h : RingHolds i ys m) {j : Nat} {f : Ring → Ring}
    (hf : j = i → ∀ r, (f r).items = r.items) : RingHolds i ys { m with rings := m.rings.modify j f } := by
  unfold RingHolds at h ⊢
  rw [Array.getElem?_modify]
  split
  · rename_i hj
    obtain ⟨r, hr, hys⟩ := Option.map_eq_some_iff.mp h
    rw [hr, Option.map_some, Option.map_some, hf hj r, hys]
  · exact h

/-- A new ring leaves the rings there were. -/
theorem RingHolds.push (h : RingHolds i ys m) (r : Ring) :
    RingHolds i ys { m with rings := m.rings.push r } := by
  unfold RingHolds at h ⊢
  obtain ⟨r₀, hr₀, -⟩ := Option.map_eq_some_iff.mp h
  show (m.rings.push r)[i]?.map Ring.items = _
  rw [Stream.Follows.getElem?_push_of_some hr₀, ← hr₀]
  exact h

end RingHolds

section KeepsItems

variable {α β : Type}

theorem keepsItems_of_rings {x : Act α} (h : ∀ m, (finalState (x.run m)).rings = m.rings) :
    KeepsItems x :=
  fun _ _ m hm => hm.of_rings (h m)

theorem keepsItems_modifyBank (f : Bank → Bank) : KeepsItems (modifyBank f) :=
  keepsItems_of_rings fun _ => rfl

theorem keepsItems_modifyBuffer (id : Nat) (f : Buffer → Buffer) : KeepsItems (modifyBuffer id f) :=
  keepsItems_of_rings fun _ => rfl

theorem keepsItems_addBuffer (b : Buffer) : KeepsItems (addBuffer b) :=
  keepsItems_of_rings fun _ => rfl

theorem keepsItems_addPeripheral (p : Peripheral) : KeepsItems (addPeripheral p) :=
  keepsItems_of_rings fun _ => rfl

theorem keepsItems_addRing (r : Ring) : KeepsItems (addRing r) :=
  fun _ _ _ hm => hm.push r

theorem keepsItems_ring (id : Nat) : KeepsItems (Machine.ring id) :=
  keepsItems_of_rings fun m => by
    rw [Machine.run_ring]
    split <;> rfl

theorem keepsItems_configure (l : Lane) (p : Priority) : KeepsItems (l.configure p) :=
  keepsItems_of_rings fun _ => rfl

theorem keepsItems_listen (l : Lane) (e : Event) : KeepsItems (l.listen e) :=
  keepsItems_of_rings fun m => by rw [Lane.run_listen]; rfl

theorem keepsItems_startTransfer (dir : Direction) (l : Lane) (buf periph : Nat) :
    KeepsItems (Transfer.start dir l buf periph) :=
  keepsItems_of_rings fun m => by
    rw [Transfer.run_start]
    repeat' split
    all_goals rfl

theorem keepsItems_poll (id : Nat) : KeepsItems (Transfer.poll id) :=
  keepsItems_of_rings fun m => by
    rw [Transfer.run_poll]
    repeat' split
    all_goals rfl

theorem keepsItems_transferRemaining (id : Nat) : KeepsItems (Transfer.remaining id) :=
  keepsItems_of_rings fun m => by
    rw [Transfer.run_remaining]
    repeat' split
    all_goals rfl

theorem keepsItems_wait (id : Nat) : KeepsItems (Transfer.wait id) :=
  keepsItems_of_rings fun m => by
    rcases Transfer.wait_final id m with h | ⟨t, k, p, -, -, h | ⟨mask, c, -, h⟩⟩ <;> rw [h]
    all_goals rfl

theorem keepsItems_startStream (l : Lane) (ring periph : Nat) :
    KeepsItems (Stream.start l ring periph) := by
  intro i ys m hm
  rw [Stream.run_start]
  repeat' split
  all_goals first
    | exact hm
    | exact hm.modify fun _ _ => rfl

theorem keepsItems_configureStream (id : Nat) (maxRead : Int) :
    KeepsItems (Stream.configure id maxRead) :=
  keepsItems_of_rings fun _ => rfl

theorem keepsItems_pause (id : Nat) : KeepsItems (Stream.pause id) :=
  keepsItems_of_rings fun m => by
    rw [Stream.run_pause]
    repeat' split
    all_goals rfl

theorem keepsItems_resume (id : Nat) : KeepsItems (Stream.resume id) :=
  keepsItems_of_rings fun m => by
    rw [Stream.run_resume]
    repeat' split
    all_goals rfl

theorem keepsItems_stop (id : Nat) : KeepsItems (Stream.stop id) := by
  intro i ys m hm
  rw [Stream.run_stop]
  repeat' split
  all_goals first
    | exact hm
    | exact hm.modify fun _ _ => rfl

theorem keepsItems_takeHalf (id : Nat) : KeepsItems (Stream.takeHalf id) := by
  intro i ys m hm
  rcases Stream.takeHalf_cases id m with ⟨e, he⟩ | ⟨r, he⟩ | ⟨t, r, h, start, -, -, -, -, he⟩ <;>
    rw [he]
  · exact hm
  · exact hm.of_rings rfl
  · exact hm.modify fun _ _ => rfl

theorem keepsItems_giveBack (id : Nat) (h : Half) (start : Option Nat) :
    KeepsItems (Stream.giveBack id h start) :=
  keepsItems_of_rings fun m => by
    rw [Stream.run_giveBack]
    dsimp only
    repeat' split
    all_goals rfl

/-- A read whose callback only answers moves the ring's phase and nothing of its items. -/
theorem keepsItems_peek {γ : Type} (id : Nat) (g : Array UInt32 → Half → γ) :
    KeepsItems (Stream.peek id fun items h => (pure (g items h) : Act γ)) :=
  fun i ys => Stream.keeps_peek id (keepsItems_takeHalf id i ys)
    (fun h start => keepsItems_giveBack id h start i ys) fun _ _ => keeps_pure _

/-- A borrow whose callback only answers changes the marks of a buffer and nothing else. -/
theorem keepsItems_borrow {γ : Type} (id : Nat) (g : Array UInt32 → γ) :
    KeepsItems (Buffer.borrow id fun items => (pure (g items) : Act γ)) :=
  fun _ _ => Buffer.keeps_borrow_of id _ (fun _ _ _ hm => hm.of_rings rfl) fun _ => keeps_pure _

end KeepsItems

end Machine

namespace Script

open Machine Text

/-! ## Steps of commands that keep an invariant -/

section Commands

variable {α β : Type} {I : Simulator → Prop}

theorem keeps_run_bind {x : Command α} {k : α → Command β} (hx : Keeps I x.run)
    (hk : ∀ a, Keeps I (k a).run) : Keeps I (x >>= k).run := by
  rw [ExceptT.run_bind]
  refine keeps_bind hx fun r => ?_
  cases r with
  | ok a => exact hk a
  | error e => exact keeps_pure _

theorem keeps_run_pure (a : α) : Keeps I (pure a : Command α).run := keeps_pure _

theorem keeps_run_throw (e : String) : Keeps I (throw e : Command α).run := keeps_pure _

/-- What follows a message never runs. -/
theorem keeps_run_throw_bind (e : String) (k : α → Command β) : Keeps I (throw e >>= k).run :=
  fun _ h => h

/-- What follows a fault never runs. -/
theorem keeps_run_throwThe_bind (f : Fault) (k : α → Command β) :
    Keeps I (throwThe Fault f >>= k).run :=
  fun _ h => h

theorem keeps_run_ite {c : Prop} [Decidable c] {x y : Command α} (hx : Keeps I x.run)
    (hy : Keeps I y.run) : Keeps I (if c then x else y).run := by
  split
  · exact hx
  · exact hy

theorem keeps_run_get : Keeps I (get : Command Simulator).run := fun _ h => h

theorem keeps_run_modify {f : Simulator → Simulator} (hf : ∀ s, I s → I (f s)) :
    Keeps I (modify f : Command PUnit).run :=
  hf

theorem keeps_run_lift {x : Sim α} (hx : Keeps I x) : Keeps I (ExceptT.lift x : Command α).run := by
  rw [ExceptT.run_lift, ← bind_pure_comp]
  exact keeps_bind hx fun _ => keeps_pure _

/-- A step that returns in a state with `I` from every state with `I` keeps `I`. -/
theorem Keeps.of_sure {x : Sim α} (h : Sure I x) : Keeps I x := fun s hs => by
  obtain ⟨a, s', hr, hI⟩ := h s hs
  rw [hr]
  exact hI

theorem keeps_oneShotOn (l : Lane) : Keeps I (oneShotOn l).run := by
  unfold oneShotOn
  refine keeps_run_bind keeps_run_get fun st => ?_
  split
  · exact keeps_run_pure _
  · exact keeps_run_throw _

end Commands

/-! ## A circular transfer's bytes -/

/-- Lane `l` lists the circular transfer `c`, whose ring holds the bytes `xs`. -/
structure Streams (l : Lane) (c : Circular) (xs : List Nat) (s : Simulator) : Prop where
  /-- The simulator lists the transfer on the lane. -/
  listed : l.entry s.circulars = some c
  /-- Its ring holds the bytes. -/
  ring : RingHolds c.ring (xs.map Nat.toUInt32).toArray s.machine
  /-- The items are bytes. -/
  bytes : ∀ x ∈ xs, x < 256

/-- The first argument of a line names lane `l`. -/
def OnLane (l : Lane) (args : List String) : Prop :=
  ∃ w rest, args = w :: rest ∧ laneWord w = pure l

/-- A fill and a read are commands on a lane's circular transfer. -/
theorem laneCommand_of_circular {cmd : String} (hcmd : cmd = "fill" ∨ cmd = "read") (l : Lane)
    (args : List String) : laneCommand cmd l args = circularCommand cmd l args := by
  rcases hcmd with rfl | rfl <;> rfl

/-- A word names a lane, or the line stops with a message. -/
theorem laneWord_cases (w : String) : (∃ m, laneWord w = pure m) ∨ ∃ e, laneWord w = throw e := by
  unfold laneWord
  dsimp only
  split
  · exact Or.inl ⟨_, rfl⟩
  · exact Or.inr ⟨_, rfl⟩

section Frame

variable {l : Lane} {c : Circular} {xs : List Nat} {α β : Type}

theorem Streams.of_eq {s s' : Simulator} (h : Streams l c xs s)
    (hm : s'.machine.rings = s.machine.rings) (hc : s'.circulars = s.circulars) :
    Streams l c xs s' := by
  refine ⟨?_, h.ring.of_rings hm, h.bytes⟩
  rw [hc]
  exact h.listed

/-- Setting another lane's entry keeps lane `l`'s transfer listed. -/
theorem Streams.setEntry {s : Simulator} (h : Streams l c xs s) {m : Lane} (hm : m ≠ l)
    (v : Option Circular) : Streams l c xs { s with circulars := m.setEntry s.circulars v } :=
  ⟨by rw [Lane.entry_setEntry_of_ne _ _ _ _ hm]; exact h.listed, h.ring, h.bytes⟩

theorem keeps_act_of {x : Act α} (hx : Keeps (RingHolds c.ring (xs.map Nat.toUInt32).toArray) x) :
    Keeps (Streams l c xs) (act x).run := by
  refine keeps_run_lift fun s hs => ?_
  have h := hx s.machine hs.ring
  rw [run_within]
  cases hr : x.run s.machine with
  | ok a m =>
    rw [hr] at h
    exact ⟨hs.listed, h, hs.bytes⟩
  | error e m =>
    rw [hr] at h
    exact ⟨hs.listed, h, hs.bytes⟩

theorem keeps_act {x : Act α} (hx : KeepsItems x) : Keeps (Streams l c xs) (act x).run :=
  keeps_act_of (hx _ _)

/-- A write into another ring keeps the transfer's bytes. -/
theorem keeps_modifyRing_of_ne {j : Nat} (hj : j ≠ c.ring) (f : Ring → Ring) :
    Keeps (Streams l c xs) (act (modifyRing j f)).run :=
  keeps_act_of fun _ hm => hm.modify fun h => absurd h hj

theorem keeps_report (r : Report) : Keeps (Streams l c xs) (report r).run := by
  unfold report
  exact keeps_run_modify fun _ hs => hs.of_eq rfl rfl

theorem keeps_startOneShot (m : Lane) (dir : Direction) (items : List Nat) (cmd : String) :
    Keeps (Streams l c xs) (startOneShot m dir items cmd).run := by
  unfold startOneShot
  refine keeps_run_bind (keeps_act (keepsItems_addBuffer _)) fun buf =>
    keeps_run_bind (keeps_act (keepsItems_addPeripheral _)) fun p =>
      keeps_run_bind (keeps_act (keepsItems_startTransfer _ _ _ _)) fun r => ?_
  split
  · exact keeps_run_bind (keeps_run_modify fun _ hs => hs.of_eq rfl rfl) fun _ => keeps_report _
  · exact keeps_report _

/-- The commands on a circular transfer other than a fill keep lane `l`'s bytes, and so does a
stop of another lane. -/
theorem keeps_circularCommand {cmd : String} (hfill : cmd ≠ "fill") {m : Lane}
    (hstop : cmd = "stop" → m ≠ l) (args : List String) :
    Keeps (Streams l c xs) (circularCommand cmd m args).run := by
  unfold circularCommand
  refine keeps_run_bind keeps_run_get fun st => ?_
  split
  · split
    · exact absurd rfl hfill
    · -- maxread
      split
      · rename_i w
        generalize Text.parseDuration w = d
        cases d
        · exact keeps_run_throw _
        · exact keeps_act (keepsItems_configureStream _ _)
      · exact keeps_run_throw _
    · -- read
      rw [peek_pure_within]
      refine keeps_run_bind (keeps_act (keepsItems_peek _ _)) fun o => ?_
      split
      exact keeps_report _
    · exact keeps_act (keepsItems_pause _)
    · exact keeps_act (keepsItems_resume _)
    · -- stop, of another lane
      exact keeps_run_bind (keeps_act (keepsItems_stop _)) fun _ =>
        keeps_run_bind (keeps_run_modify fun _ hs => hs.setEntry (hstop rfl) none) fun _ =>
          keeps_report _
    · exact keeps_run_throw _
  · exact keeps_run_throw _

/-- The commands on a lane other than a fill keep lane `l`'s bytes, and so do a stop and a
start of a circular transfer on another lane. -/
theorem keeps_laneCommand {cmd : String} (hfill : cmd ≠ "fill") {m : Lane}
    (hm : cmd = "stop" ∨ cmd = "circ" → m ≠ l) (args : List String) :
    Keeps (Streams l c xs) (laneCommand cmd m args).run := by
  unfold laneCommand
  split
  · exact keeps_run_bind (Keeps.of_sure (sure_eventWord _)) fun _ => keeps_act (keepsItems_modifyBank _)
  · exact keeps_run_bind (Keeps.of_sure (sure_eventWord _)) fun _ => keeps_act (keepsItems_modifyBank _)
  · exact keeps_run_bind (Keeps.of_sure (sure_eventWord _)) fun _ => keeps_act (keepsItems_modifyBank _)
  · -- priority
    split
    · rename_i w
      generalize Priority.ofName? w = r
      cases r
      · exact keeps_run_throw _
      · exact keeps_act (keepsItems_configure m _)
    · exact keeps_run_throw _
  · -- listen
    split
    · exact keeps_run_bind (Keeps.of_sure (sure_eventWord _)) fun e => keeps_act (keepsItems_listen m e)
    · exact keeps_run_throw _
  · exact keeps_run_bind (Keeps.of_sure (sure_bytesWords args)) fun _ => keeps_startOneShot m _ _ _
  · exact keeps_run_bind (Keeps.of_sure (sure_lengthWords args)) fun _ => keeps_startOneShot m _ _ _
  · -- deliver
    refine keeps_run_bind keeps_run_get fun st => ?_
    dsimp only
    split
    · exact keeps_run_bind (Keeps.of_sure (sure_bytesWords args)) fun _ =>
        keeps_act (keepsItems_modifyBuffer _ _)
    · exact keeps_run_throw _
  · exact keeps_run_bind (keeps_oneShotOn m) fun _ =>
      keeps_run_bind (keeps_act (keepsItems_poll _)) fun _ =>
        keeps_run_bind (keeps_act (keepsItems_transferRemaining _)) fun _ => keeps_report _
  · -- wait: the buffer handed back is read, the rings stay
    refine keeps_run_bind (keeps_oneShotOn m) fun o => keeps_run_bind keeps_run_get fun st => ?_
    dsimp only
    refine keeps_run_ite ?_ (keeps_run_throw_bind _ _)
    refine keeps_run_bind (keeps_act (keepsItems_wait _)) fun x => ?_
    obtain ⟨back, r⟩ := x
    dsimp only
    refine keeps_run_bind (keeps_run_modify fun _ hs => hs.of_eq rfl rfl) fun _ => ?_
    rw [borrow_pure_within]
    exact keeps_run_bind (keeps_act (keepsItems_borrow _ _)) fun _ => keeps_report _
  · -- circ, on another lane
    refine keeps_run_bind (Keeps.of_sure (sure_lengthWords args)) fun n => ?_
    dsimp only
    refine keeps_run_ite (keeps_run_throw_bind _ _) ?_
    generalize Ring.make .w8 ((zeros n).map (·.toUInt32)).toArray = mk
    cases mk with
    | error f => exact keeps_run_throwThe_bind _ _
    | ok ring =>
      refine keeps_run_bind (keeps_run_pure ring) fun ring =>
        keeps_run_bind (keeps_act (keepsItems_addRing _)) fun rh =>
          keeps_run_bind (keeps_act (keepsItems_addPeripheral _)) fun p =>
            keeps_run_bind (keeps_act (keepsItems_startStream _ _ _)) fun r => ?_
      split
      · exact keeps_run_bind (keeps_run_modify fun _ hs => hs.setEntry (hm (Or.inr rfl)) _)
          fun _ => keeps_report _
      · exact keeps_report _
  · exact keeps_circularCommand hfill (fun h => hm (Or.inl h)) args

/-- Every line other than a fill keeps lane `l`'s bytes, unless it stops lane `l` or starts a
circular transfer there. -/
theorem keeps_exec {cmd : String} (hfill : cmd ≠ "fill") {args : List String}
    (hm : cmd = "stop" ∨ cmd = "circ" → ¬ OnLane l args) :
    Keeps (Streams l c xs) (exec cmd args).run := by
  unfold exec
  split
  · -- expect
    dsimp only
    exact keeps_run_bind keeps_run_get fun _ => keeps_run_ite (keeps_run_throw _) (keeps_run_pure _)
  · exact keeps_run_bind keeps_run_get fun _ => keeps_report _
  · -- after
    split
    · rename_i p e ch
      generalize (Text.parseInt? p).filter (1 ≤ ·) = r
      cases r
      · exact keeps_run_throw _
      · exact keeps_run_bind (Keeps.of_sure (sure_eventWord e)) fun _ =>
          keeps_run_bind (Keeps.of_sure (sure_laneWord ch)) fun _ => keeps_act (keepsItems_modifyBank _)
    · exact keeps_run_throw _
  · -- a command on a lane, named by the first word after it
    dsimp only
    refine keeps_run_ite ?_ (keeps_run_throw_bind _ _)
    split
    · rename_i w rest
      rcases laneWord_cases w with ⟨m, hw⟩ | ⟨e, hw⟩
      · rw [hw, pure_bind]
        refine keeps_laneCommand hfill (fun hc hml => hm hc ⟨w, rest, rfl, ?_⟩) rest
        rw [hw, hml]
      · rw [hw]
        exact keeps_run_throw_bind _ _
    · exact keeps_run_throw _

/-! ### Lines that need the books -/

/-- A step that leaves the state, with a value or a message, then what follows. -/
theorem finalState_run_bind_stay {x : Command α} {k : α → Command β} {s : Simulator}
    (hx : Sure (· = s) x.run) {P : Simulator → Prop} (hs : P s)
    (hk : ∀ a, P (finalState ((k a).run.run s))) : P (finalState ((x >>= k).run.run s)) := by
  obtain ⟨r, s', hr, rfl⟩ := hx s rfl
  rw [ExceptT.run_bind, EStateM.run_bind, hr]
  cases r with
  | ok a => exact hk a
  | error e => exact hs

/-- The transfers the books list on two lanes hold different rings. -/
theorem Simulator.Books.ring_ne {s : Simulator} (hs : s.Books) {l m : Lane} {c c' : Circular}
    (hc : l.entry s.circulars = some c) (hc' : m.entry s.circulars = some c') (hm : m ≠ l) :
    c'.ring ≠ c.ring := by
  obtain ⟨t, ⟨ht, hstop⟩, hp⟩ := hs.circulars.listed l c hc
  obtain ⟨t', ⟨ht', hstop'⟩, hp'⟩ := hs.circulars.listed m c' hc'
  have hl : t.lane = l := congrArg Handback.lane hp
  have hl' : t'.lane = m := congrArg Handback.lane hp'
  have hr : t.ring = c.ring := congrArg Handback.memory hp
  have hr' : t'.ring = c'.ring := congrArg Handback.memory hp'
  -- the two transfers are live on different lanes, so they are different transfers
  have hid : c'.stream ≠ c.stream := by
    intro he
    rw [he, ht] at ht'
    cases ht'
    exact hm (hl'.symm.trans hl)
  rw [← hr, ← hr']
  exact (hs.atRest.ownership.stream_ne ht hstop ht' hstop' hid).2

/-- A fill of another lane writes that lane's ring, which is not lane `l`'s. -/
theorem streams_fill_of_ne {s : Simulator} (hs : s.Books) (h : Streams l c xs s) {m : Lane}
    (hm : m ≠ l) (args : List String) :
    Streams l c xs (finalState ((circularCommand "fill" m args).run.run s)) := by
  unfold circularCommand
  rw [run_get_bind]
  cases hc : m.entry s.circulars with
  | none => exact h
  | some c' =>
    have hne := hs.ring_ne h.listed hc hm
    simp only []
    refine (?_ : Keeps (Streams l c xs) _) s h
    split
    · rename_i half rest
      refine keeps_run_bind (Keeps.of_sure (sure_bytesWords rest)) fun _ =>
        keeps_run_bind (keeps_act (keepsItems_ring _)) fun _ => ?_
      split
      · exact keeps_run_bind (keeps_run_pure _) fun _ => keeps_modifyRing_of_ne hne _
      · exact keeps_run_bind (keeps_run_pure _) fun _ => keeps_modifyRing_of_ne hne _
      · exact keeps_run_throw_bind _ _
    · exact keeps_run_throw _

/-- A start of a circular transfer on lane `l` while lane `l` runs one is refused: the line
makes a ring and a peripheral and lists nothing. -/
theorem streams_circ_self {s : Simulator} (hs : s.Books) (h : Streams l c xs s)
    (args : List String) : Streams l c xs (finalState ((laneCommand "circ" l args).run.run s)) := by
  have hu : s.machine.inUse l = true := by
    rw [hs.atRest.ownership.inUse_eq]
    exact (hs.owned_iff l).mpr (Or.inr ⟨c, h.listed⟩)
  unfold laneCommand
  simp only []
  refine finalState_run_bind_stay (sure_lengthWords args) h fun n => ?_
  split
  · exact h
  rename_i hn
  rw [make_zeros hn]
  dsimp only
  rw [pure_bind, run_act_bind]
  simp only [addRing, EStateM.run_modifyGet]
  rw [run_act_bind]
  simp only [addPeripheral, EStateM.run_modifyGet]
  rw [run_act_bind, Stream.run_start, if_pos (by exact hu)]
  exact ⟨h.listed, (h.ring.push _).of_rings rfl, h.bytes⟩

/-- A line of a lane's command ends where its command on the lane named ends, or, when no
lane is named, where it began. -/
theorem finalState_exec_lane {cmd : String} (hcmd : cmd ∈ laneCommands) {args : List String}
    {s : Simulator} {P : Simulator → Prop} (hs : P s)
    (hlane : ∀ w rest m, args = w :: rest → laneWord w = pure m →
      P (finalState ((laneCommand cmd m rest).run.run s))) :
    P (finalState ((exec cmd args).run.run s)) := by
  rw [exec_of_mem hcmd]
  cases args with
  | nil => exact hs
  | cons w rest =>
    dsimp only
    rcases laneWord_cases w with ⟨m, hw⟩ | ⟨e, hw⟩
    · rw [hw, pure_bind]
      exact hlane w rest m rfl hw
    · rw [hw]
      exact hs

/-- Every line that neither fills nor stops lane `l` keeps lane `l`'s transfer and its bytes. -/
theorem streams_exec {s : Simulator} (hs : s.Books) (h : Streams l c xs s) {cmd : String}
    {args : List String} (hfill : cmd = "fill" → ¬ OnLane l args)
    (hstop : cmd = "stop" → ¬ OnLane l args) :
    Streams l c xs (finalState ((exec cmd args).run.run s)) := by
  by_cases hf : cmd = "fill"
  · -- a fill of another lane
    subst hf
    refine finalState_exec_lane (by decide) h fun w rest m hargs hw => ?_
    have hm : m ≠ l := fun he => hfill rfl ⟨w, rest, hargs, he ▸ hw⟩
    rw [laneCommand_of_circular (Or.inl rfl)]
    exact streams_fill_of_ne hs h hm rest
  by_cases hc : cmd = "circ" ∧ OnLane l args
  · -- a start on lane `l` itself, which is refused
    obtain ⟨rfl, w, rest, rfl, hw⟩ := hc
    rw [exec_lane (by decide) hw]
    exact streams_circ_self hs h rest
  · refine keeps_exec hf (fun hsc hon => ?_) s h
    rcases hsc with hsc | hsc
    · exact hstop hsc hon
    · exact hc ⟨hsc, hon⟩

theorem Streams.count {s : Simulator} (h : Streams l c xs s) (n : Nat) :
    Streams l c xs { s with line := n } :=
  h.of_eq rfl rfl

end Frame

end Script

end DmaOwnership
