import DmaOwnership.Machine
/-!
# Reasoning about actions

An action runs from a state and ends in one, whether it returns or breaks off with a
fault. A fault keeps the state it was raised in, so a fact about the state an action
ends in covers both outcomes at once.

An invariant is kept by an action when every run of the action from a state with the
invariant ends in a state with it (`Keeps`). Kept invariants are closed under the ways
actions are put together: sequencing, catching a fault, and running a callback.

The lookups of the machine (`Machine.buffer`, `Machine.ring`, ...) either answer the
entry and change nothing, or break off with `nilReference` and change nothing.
-/

namespace DmaOwnership

/-- The state a run ends in, whether it returned or broke off. -/
def finalState {ε σ α : Type} : EStateM.Result ε σ α → σ
  | .ok _ s => s
  | .error _ s => s

@[simp] theorem finalState_ok {ε σ α : Type} (a : α) (s : σ) :
    finalState (.ok a s : EStateM.Result ε σ α) = s := rfl

@[simp] theorem finalState_error {ε σ α : Type} (e : ε) (s : σ) :
    finalState (.error e s : EStateM.Result ε σ α) = s := rfl

/-- `x` keeps `I`: run from a state with `I`, it ends in a state with `I`, whether it
returns or breaks off. -/
def Keeps {ε σ α : Type} (I : σ → Prop) (x : EStateM ε σ α) : Prop :=
  ∀ s, I s → I (finalState (x.run s))

section Keeps

variable {ε σ α β : Type} {I : σ → Prop}

theorem keeps_pure (a : α) : Keeps I (pure a : EStateM ε σ α) := fun _ h => h

theorem keeps_throw (e : ε) : Keeps I (throw e : EStateM ε σ α) := fun _ h => h

theorem keeps_get : Keeps I (get : EStateM ε σ σ) := fun _ h => h

/-- Running one action after another keeps what both keep. -/
theorem keeps_bind {x : EStateM ε σ α} {k : α → EStateM ε σ β} (hx : Keeps I x)
    (hk : ∀ a, Keeps I (k a)) : Keeps I (x >>= k) := by
  intro s hs
  have h := hx s hs
  rw [EStateM.run_bind]
  cases hr : x.run s with
  | ok a s' =>
    rw [hr] at h
    exact hk a s' h
  | error e s' =>
    rw [hr] at h
    exact h

/-- A caught fault runs the handler from the state the fault left. -/
theorem run_tryCatch (x : EStateM ε σ α) (handle : ε → EStateM ε σ α) (s : σ) :
    (tryCatch x handle : EStateM ε σ α).run s =
      match x.run s with
      | .ok a s' => .ok a s'
      | .error e s' => (handle e).run s' := by
  change EStateM.tryCatch x handle s = _
  unfold EStateM.tryCatch
  have hx : x s = x.run s := rfl
  rw [hx]
  cases x.run s <;> rfl

/-- Catching a fault keeps what the action and every handler keep. -/
theorem keeps_tryCatch {x : EStateM ε σ α} {handle : ε → EStateM ε σ α} (hx : Keeps I x)
    (hh : ∀ e, Keeps I (handle e)) : Keeps I (tryCatch x handle : EStateM ε σ α) := by
  intro s hs
  have h := hx s hs
  rw [run_tryCatch]
  cases hr : x.run s with
  | ok a s' =>
    rw [hr] at h
    exact h
  | error e s' =>
    rw [hr] at h
    exact hh e s' h

/-- What a run keeps holds where it returns. -/
theorem Keeps.of_ok {x : EStateM ε σ α} (hx : Keeps I x) {s s' : σ} {a : α} (hs : I s)
    (h : x.run s = .ok a s') : I s' := by
  have h' := hx s hs
  rwa [h, finalState_ok] at h'

/-- `x` leaves the part `view` of the state as it was, whether it returns or breaks off. -/
def Untouched {β : Type} (view : σ → β) (x : EStateM ε σ α) : Prop :=
  ∀ s, view (finalState (x.run s)) = view s

/-- What depends only on a part that an action leaves is kept by it. -/
theorem Untouched.keeps {β : Type} {view : σ → β} {x : EStateM ε σ α} (hx : Untouched view x)
    (hI : ∀ s s', view s' = view s → I s → I s') : Keeps I x :=
  fun s hs => hI s _ (hx s) hs

end Keeps

/-- A machine action run inside the machine itself is the action. -/
@[simp] theorem Act.within_machine {α : Type} (x : Act α) : (Act.within x : Act α) = x := by
  funext s
  have hm : HoldsMachine.machine s = s := rfl
  unfold Act.within
  rw [hm]
  cases x s <;> rfl

/-- A run of `x` between two changes of state, the second made whether `x` returns or
breaks off, as a borrow runs its callback: the first change leads into what `x` keeps,
the second leads out of it. -/
theorem final_around {α : Type} {I J : Machine → Prop} {x : Act α} (before after : Machine → Machine)
    (s : Machine) (hbefore : J (before s)) (hx : Keeps J x) (hafter : ∀ s', J s' → I (after s')) :
    I (finalState (match x.run (before s) with
      | .ok a s' => (.ok a (after s') : EStateM.Result Fault Machine α)
      | .error e s' => .error e (after s'))) := by
  have h := hx _ hbefore
  cases hr : x.run (before s) with
  | ok a s' =>
    rw [hr] at h
    exact hafter s' h
  | error e s' =>
    rw [hr] at h
    exact hafter s' h

namespace Machine

section Lookups

variable {s : Machine} {id : Nat}

theorem run_buffer : (Machine.buffer id).run s =
    match s.buffers[id]? with
    | some b => .ok b s
    | none => .error .nilReference s := by
  cases h : s.buffers[id]? <;> simp only [Machine.buffer, EStateM.run_bind, EStateM.run_get, h] <;> rfl

theorem run_ring : (Machine.ring id).run s =
    match s.rings[id]? with
    | some r => .ok r s
    | none => .error .nilReference s := by
  cases h : s.rings[id]? <;> simp only [Machine.ring, EStateM.run_bind, EStateM.run_get, h] <;> rfl

theorem run_peripheral : (Machine.peripheral id).run s =
    match s.peripherals[id]? with
    | some p => .ok p s
    | none => .error .nilReference s := by
  cases h : s.peripherals[id]? <;> simp only [Machine.peripheral, EStateM.run_bind, EStateM.run_get, h] <;> rfl

theorem run_transfer : (Machine.transfer id).run s =
    match s.transfers[id]? with
    | some t => .ok t s
    | none => .error .nilReference s := by
  cases h : s.transfers[id]? <;> simp only [Machine.transfer, EStateM.run_bind, EStateM.run_get, h] <;> rfl

theorem run_stream : (Machine.stream id).run s =
    match s.streams[id]? with
    | some t => .ok t s
    | none => .error .nilReference s := by
  cases h : s.streams[id]? <;> simp only [Machine.stream, EStateM.run_bind, EStateM.run_get, h] <;> rfl

end Lookups

end Machine

end DmaOwnership
