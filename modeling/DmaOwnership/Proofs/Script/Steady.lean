import DmaOwnership.Proofs.Transfer.Wait
import DmaOwnership.Proofs.Spec.Stream
import DmaOwnership.Proofs.Spec.Borrow
import DmaOwnership.Script.Simulator
/-!
# Steps that schedule nothing and never hang

Only the simulator's `after` command adds to the schedule, and only a wait can loop without
end. `Machine.Retains s s'` says that `s'` has no scheduled event `s` lacked and keeps every
transfer of `s`; `Machine.Tame x` that every run of `x` retains its start and never breaks off
with `spins`. Every operation the simulator runs but scheduling and waiting is tame.
`Steady I x` says that from a state with `I`, `x` ends in a state with `I` and never gives up
on a wait; steady steps are closed under sequencing, choice and catching.
-/

namespace DmaOwnership

namespace Bank

theorem schedule_setCount (b : Bank) (l : Lane) (n : UInt32) : (b.setCount l n).schedule = b.schedule := by
  unfold setCount
  split <;> rfl

@[simp] theorem schedule_setControl (b : Bank) (l : Lane) (v : UInt32) :
    (b.setControl l v).schedule = b.schedule := rfl

/-- Programming a lane writes registers and clears flags; it schedules nothing. -/
@[simp] theorem schedule_program (b : Bank) (l : Lane) (p : UInt64) (m : MemRef) (n w : UInt32) :
    (b.program l p m n w).schedule = b.schedule := by
  simp only [program, setControl, modifyLane, schedule_setCount]
  rfl

end Bank

namespace Machine

/-- `s'` schedules no event that `s` did not, and keeps every transfer of `s` as it was. -/
structure Retains (s s' : Machine) : Prop where
  /-- The schedule only loses events. -/
  schedule : ∀ x ∈ s'.bank.schedule, x ∈ s.bank.schedule
  /-- Every transfer is kept. -/
  transfers : ∀ (i : Nat) (t : Transfer), s.transfers[i]? = some t → s'.transfers[i]? = some t

namespace Retains

variable {s s' s'' : Machine}

@[refl] theorem refl (s : Machine) : Retains s s := ⟨fun _ h => h, fun _ _ h => h⟩

theorem trans (h : Retains s s') (h' : Retains s' s'') : Retains s s'' :=
  ⟨fun x hx => h.schedule x (h'.schedule x hx), fun i t ht => h'.transfers i t (h.transfers i t ht)⟩

/-- A change that leaves the schedule and the transfers. -/
theorem of_eq (hb : s'.bank.schedule = s.bank.schedule) (ht : s'.transfers = s.transfers) :
    Retains s s' :=
  ⟨fun _ hx => hb ▸ hx, fun _ _ h => ht ▸ h⟩

/-- A read of the status word only takes events off the schedule. -/
theorem of_read (hb : s'.bank = s.bank.status.2) (ht : s'.transfers = s.transfers) :
    Retains s s' :=
  ⟨fun _ hx => Bank.mem_schedule_of_status (hb ▸ hx), fun _ _ h => ht ▸ h⟩

theorem afterRead (s : Machine) : Retains s s.afterRead := of_read rfl rfl

theorem recorded (s : Machine) (r : Refusal) : Retains s (s.afterRead.recorded r) :=
  of_read rfl rfl

/-- A new transfer leaves the transfers there were. -/
theorem push (hb : s'.bank.schedule = s.bank.schedule) {t : Transfer}
    (ht : s'.transfers = s.transfers.push t) : Retains s s' := by
  refine ⟨fun _ hx => hb ▸ hx, fun i u hu => ?_⟩
  obtain ⟨hi, rfl⟩ := Array.getElem?_eq_some_iff.mp hu
  rw [ht]
  exact Array.getElem?_push_lt hi

end Retains

/-- What a run from `s` may end in: a machine that retains `s`, and no `spins` fault. -/
def Calm {α : Type} (s : Machine) : EStateM.Result Fault Machine α → Prop
  | .ok _ s' => Retains s s'
  | .error e s' => e ≠ .spins ∧ Retains s s'

/-- Every run of `x` is calm. -/
def Tame {α : Type} (x : Act α) : Prop := ∀ s, Calm s (x.run s)

theorem Calm.retains {α : Type} {s : Machine} {r : EStateM.Result Fault Machine α}
    (h : Calm s r) : Retains s (finalState r) := by
  cases r with
  | ok a s' => exact h
  | error e s' => exact h.2

theorem Calm.of_ok {α : Type} {s s' : Machine} {a : α} (h : Retains s s') : Calm s (.ok a s') := h

theorem Calm.ite {α : Type} {s : Machine} {c : Prop} [Decidable c]
    {x y : EStateM.Result Fault Machine α} (hx : Calm s x) (hy : Calm s y) :
    Calm s (if c then x else y) := by
  split
  · exact hx
  · exact hy

/-! ## The tame operations -/

section Tame

variable {α : Type}

theorem tame_addBuffer (b : Buffer) : Tame (addBuffer b) := fun _ => Retains.of_eq rfl rfl

theorem tame_addRing (r : Ring) : Tame (addRing r) := fun _ => Retains.of_eq rfl rfl

theorem tame_addPeripheral (p : Peripheral) : Tame (addPeripheral p) := fun _ => Retains.of_eq rfl rfl

theorem tame_buffer (id : Nat) : Tame (Machine.buffer id) := fun s => by
  rw [run_buffer]
  split
  · exact Retains.refl s
  · exact ⟨nofun, Retains.refl s⟩

theorem tame_ring (id : Nat) : Tame (Machine.ring id) := fun s => by
  rw [run_ring]
  split
  · exact Retains.refl s
  · exact ⟨nofun, Retains.refl s⟩

theorem tame_modifyBuffer (id : Nat) (f : Buffer → Buffer) : Tame (modifyBuffer id f) :=
  fun _ => Retains.of_eq rfl rfl

theorem tame_modifyRing (id : Nat) (f : Ring → Ring) : Tame (modifyRing id f) :=
  fun _ => Retains.of_eq rfl rfl

/-- The engine raising an event changes flags and counts, not the schedule. -/
theorem tame_raise (l : Lane) (e : Event) : Tame (modifyBank (·.raise l e)) :=
  fun s => Retains.of_eq (Bank.schedule_raise s.bank l e) rfl

theorem tame_configure (l : Lane) (p : Priority) : Tame (l.configure p) :=
  fun _ => Retains.of_eq rfl rfl

theorem tame_listen (l : Lane) (e : Event) : Tame (l.listen e) := fun s => by
  rw [Lane.run_listen]
  exact Retains.of_eq rfl rfl

theorem tame_startTransfer (dir : Direction) (l : Lane) (buf periph : Nat) :
    Tame (Transfer.start dir l buf periph) := fun s => by
  rw [Transfer.run_start]
  split
  · exact Retains.refl s
  split
  · exact ⟨nofun, Retains.refl s⟩
  split
  · exact Retains.refl s
  split
  · exact Retains.refl s
  split
  · exact ⟨nofun, Retains.of_eq rfl rfl⟩
  · exact Retains.push (by simp only [Bank.schedule_setControl, Bank.schedule_program]) rfl

theorem tame_poll (id : Nat) : Tame (Transfer.poll id) := fun s => by
  rw [Transfer.run_poll]
  split
  · exact ⟨nofun, Retains.refl s⟩
  split
  · exact ⟨nofun, Retains.refl s⟩
  · exact Retains.afterRead s

theorem tame_transferRemaining (id : Nat) : Tame (Transfer.remaining id) := fun s => by
  rw [Transfer.run_remaining]
  split
  · exact ⟨nofun, Retains.refl s⟩
  split
  · exact ⟨nofun, Retains.refl s⟩
  · exact Retains.refl s

theorem tame_startStream (l : Lane) (ring periph : Nat) : Tame (Stream.start l ring periph) :=
  fun s => by
  rw [Stream.run_start]
  split
  · exact Retains.refl s
  split
  · exact ⟨nofun, Retains.refl s⟩
  split
  · exact Retains.refl s
  split
  · exact Retains.refl s
  split
  · exact ⟨nofun, Retains.of_eq rfl rfl⟩
  · exact Retains.of_eq (by simp only [Bank.schedule_setControl, Bank.schedule_program]) rfl

theorem tame_configureStream (id : Nat) (maxRead : Int) : Tame (Stream.configure id maxRead) :=
  fun _ => Retains.of_eq rfl rfl

theorem tame_pause (id : Nat) : Tame (Stream.pause id) := fun s => by
  rw [Stream.run_pause]
  split
  · exact ⟨nofun, Retains.refl s⟩
  split
  · exact ⟨nofun, Retains.refl s⟩
  · exact Retains.of_eq rfl rfl

theorem tame_resume (id : Nat) : Tame (Stream.resume id) := fun s => by
  rw [Stream.run_resume]
  split
  · exact ⟨nofun, Retains.refl s⟩
  split
  · exact ⟨nofun, Retains.refl s⟩
  · exact Retains.of_eq rfl rfl

theorem tame_stop (id : Nat) : Tame (Stream.stop id) := fun s => by
  rw [Stream.run_stop]
  split
  · exact ⟨nofun, Retains.refl s⟩
  split
  · exact ⟨nofun, Retains.refl s⟩
  · exact Retains.of_eq rfl rfl

theorem tame_takeHalf (id : Nat) : Tame (Stream.takeHalf id) := fun s => by
  rw [Stream.run_takeHalf]
  split
  · exact ⟨nofun, Retains.refl s⟩
  split
  · exact ⟨nofun, Retains.refl s⟩
  split
  · exact ⟨nofun, Retains.refl s⟩
  split
  · exact ⟨nofun, Retains.refl s⟩
  -- one status read; a half handed out also clears its flag and moves the ring on
  dsimp only
  exact Calm.ite (Calm.of_ok (Retains.recorded s _)) (Calm.ite (Calm.of_ok (Retains.recorded s _))
    (Calm.ite (Calm.of_ok (Retains.recorded s _))
      (Calm.of_ok ((Retains.afterRead s).trans (Retains.of_eq rfl rfl)))))

theorem tame_giveBack (id : Nat) (h : Half) (start : Option Nat) :
    Tame (Stream.giveBack id h start) := fun s => by
  rw [Stream.run_giveBack]
  split
  · exact ⟨nofun, Retains.refl s⟩
  split
  · exact ⟨nofun, Retains.refl s⟩
  dsimp only
  exact Calm.ite (Calm.of_ok (Retains.recorded s _)) (Calm.ite (Calm.of_ok (Retains.recorded s _))
    (Calm.of_ok (Retains.of_read rfl rfl)))

end Tame

end Machine

/-! ## Steady steps -/

section Steady

variable {σ α β : Type} {I : σ → Prop}

/-- From a state with `I`, `x` ends in a state with `I`, and never breaks off with `spins`. -/
def Steady (I : σ → Prop) (x : EStateM Fault σ α) : Prop :=
  ∀ s, I s → I (finalState (x.run s)) ∧ ∀ s', x.run s ≠ .error .spins s'

theorem steady_pure (a : α) : Steady I (pure a : EStateM Fault σ α) := fun _ h => ⟨h, nofun⟩

theorem steady_get : Steady I (get : EStateM Fault σ σ) := fun _ h => ⟨h, nofun⟩

theorem steady_throw {e : Fault} (he : e ≠ .spins) : Steady I (throw e : EStateM Fault σ α) :=
  fun _ h => ⟨h, fun _ heq => he (by cases heq; rfl)⟩

/-- What follows a fault never runs. -/
theorem steady_throw_bind {e : Fault} (he : e ≠ .spins) (k : α → EStateM Fault σ β) :
    Steady I (throw e >>= k) :=
  fun _ h => ⟨h, fun _ heq => he (by cases heq; rfl)⟩

theorem steady_modify {f : σ → σ} (hf : ∀ s, I s → I (f s)) :
    Steady I (modify f : EStateM Fault σ PUnit) :=
  fun s h => ⟨hf s h, nofun⟩

theorem steady_bind {x : EStateM Fault σ α} {k : α → EStateM Fault σ β} (hx : Steady I x)
    (hk : ∀ a, Steady I (k a)) : Steady I (x >>= k) := by
  intro s hs
  obtain ⟨hI, hne⟩ := hx s hs
  rw [EStateM.run_bind]
  cases hr : x.run s with
  | ok a s' =>
    rw [hr] at hI
    exact hk a s' hI
  | error e s' =>
    rw [hr] at hI hne
    refine ⟨hI, fun s'' heq => hne s'' ?_⟩
    cases heq
    rfl

theorem steady_map (f : α → β) {x : EStateM Fault σ α} (hx : Steady I x) : Steady I (f <$> x) := by
  rw [← bind_pure_comp]
  exact steady_bind hx fun a => steady_pure (f a)

/-- A caught fault is never `spins` when the action is steady, so the handler only has to
be steady for the other faults. -/
theorem steady_tryCatch {x : EStateM Fault σ α} {handle : Fault → EStateM Fault σ α}
    (hx : Steady I x) (hh : ∀ e, e ≠ .spins → Steady I (handle e)) :
    Steady I (tryCatch x handle : EStateM Fault σ α) := by
  intro s hs
  obtain ⟨hI, hne⟩ := hx s hs
  rw [run_tryCatch]
  cases hr : x.run s with
  | ok a s' =>
    rw [hr] at hI
    exact ⟨hI, nofun⟩
  | error e s' =>
    rw [hr] at hI hne
    exact hh e (fun he => hne s' (by rw [he])) s' hI

/-! ### Commands, which may also stop with a message -/

theorem steady_run_bind {x : ExceptT String (EStateM Fault σ) α}
    {k : α → ExceptT String (EStateM Fault σ) β} (hx : Steady I x.run)
    (hk : ∀ a, Steady I (k a).run) : Steady I (x >>= k).run := by
  rw [ExceptT.run_bind]
  refine steady_bind hx fun r => ?_
  cases r with
  | ok a => exact hk a
  | error e => exact steady_pure _

theorem steady_run_pure (a : α) : Steady I (pure a : ExceptT String (EStateM Fault σ) α).run := by
  rw [ExceptT.run_pure]
  exact steady_pure _

theorem steady_run_throw (e : String) :
    Steady I (throw e : ExceptT String (EStateM Fault σ) α).run := by
  rw [ExceptT.run_throw]
  exact steady_pure _

theorem steady_run_lift {x : EStateM Fault σ α} (hx : Steady I x) :
    Steady I (ExceptT.lift x : ExceptT String (EStateM Fault σ) α).run := by
  rw [ExceptT.run_lift]
  exact steady_map _ hx

theorem steady_run_ite {c : Prop} [Decidable c] {x y : ExceptT String (EStateM Fault σ) α}
    (hx : Steady I x.run) (hy : Steady I y.run) : Steady I (if c then x else y).run := by
  split
  · exact hx
  · exact hy

/-! ### Reads and borrows made of tame operations -/

variable [HoldsMachine σ]

/-- A read is steady when the operations of the machine and its callback are. -/
theorem steady_peek (hw : ∀ {γ : Type} (x : Act γ), Machine.Tame x →
      Steady I (Act.within x : EStateM Fault σ γ))
    {id : Nat} {f : Array UInt32 → Half → EStateM Fault σ α} (hf : ∀ items h, Steady I (f items h)) :
    Steady I (Stream.peek id f) := by
  unfold Stream.peek
  refine steady_bind (hw _ (Machine.tame_takeHalf id)) fun r => ?_
  cases r with
  | error r => exact steady_pure _
  | ok x =>
    obtain ⟨h, data, start⟩ := x
    exact steady_bind (hf data h) fun a =>
      steady_bind (hw _ (Machine.tame_giveBack id h start)) fun o => steady_pure _

/-- A borrow is steady when the operations of the machine and its callback are: the mark is
taken back also when the callback breaks off. -/
theorem steady_borrow (hw : ∀ {γ : Type} (x : Act γ), Machine.Tame x →
      Steady I (Act.within x : EStateM Fault σ γ))
    {id : Nat} {f : Array UInt32 → EStateM Fault σ α} (hf : ∀ items, Steady I (f items)) :
    Steady I (Buffer.borrow id f) := by
  unfold Buffer.borrow Buffer.withUndo
  have hunmark := hw _ (Machine.tame_modifyBuffer id fun b => { b with readers := b.readers - 1 })
  refine steady_bind (hw _ (Machine.tame_buffer id)) fun b => ?_
  dsimp only
  split
  · refine steady_throw_bind ?_ _
    exact nofun
  · refine steady_bind (hw _ (Machine.tame_modifyBuffer id _)) fun _ =>
      steady_bind (steady_tryCatch (hf _) fun e he => ?_) fun a => steady_bind hunmark fun _ =>
        steady_pure a
    exact steady_bind hunmark fun _ => steady_throw he

end Steady

end DmaOwnership
