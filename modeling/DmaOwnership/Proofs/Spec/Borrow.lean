import DmaOwnership.Buffer.Borrow
import DmaOwnership.Proofs.Act
/-!
# What a borrow does

A borrow marks the buffer, runs its callback and takes the mark back, also when the
callback breaks off: the fault then goes on from the machine with the mark taken back. A
borrow that may not begin is a fault that leaves the machine as it was.
-/

namespace DmaOwnership

namespace Buffer

open Machine

variable {α : Type} (id : Nat) (f : Array UInt32 → Act α) (s : Machine)

/-- Running `x` and then a change of state that cannot fail, also when `x` breaks off. -/
theorem run_withUndo (x : Act α) (g : Machine → Machine) :
    (withUndo x (modify g)).run s =
      match x.run s with
      | .ok a s' => .ok a (g s')
      | .error e s' => .error e (g s') := by
  simp only [withUndo, EStateM.run_bind, run_tryCatch]
  cases x.run s <;> rfl

/-- A shared borrow: refused while a writer holds the buffer; otherwise one more reader
for as long as the callback runs. -/
theorem run_borrow : (borrow id f).run s =
    match s.buffers[id]? with
    | none => .error .nilReference s
    | some b =>
      if b.writing then .error .bufferWritten s else
      let mark : Buffer → Buffer := fun b => { b with readers := b.readers + 1 }
      let unmark : Buffer → Buffer := fun b => { b with readers := b.readers - 1 }
      match (f b.items).run { s with buffers := s.buffers.modify id mark } with
      | .ok a s' => .ok a { s' with buffers := s'.buffers.modify id unmark }
      | .error e s' => .error e { s' with buffers := s'.buffers.modify id unmark } := by
  simp only [borrow, Act.within_machine, EStateM.run_bind, Machine.run_buffer]
  cases hb : s.buffers[id]? with
  | none => rfl
  | some b =>
    cases hw : b.writing
    · simp only [hw, Bool.false_eq_true, if_false, Machine.modifyBuffer, EStateM.run_bind,
        EStateM.run_modify, run_withUndo]
    · simp only [hw, if_true]; rfl

/-- An exclusive borrow: refused unless nobody holds the buffer at all; otherwise the
writer's mark for as long as the callback runs. -/
theorem run_borrowMut : (borrowMut id f).run s =
    match s.buffers[id]? with
    | none => .error .nilReference s
    | some b =>
      if !b.canWrite then .error .bufferShared s else
      match (f b.items).run
          { s with buffers := s.buffers.modify id fun b => { b with writing := true } } with
      | .ok a s' =>
        .ok a { s' with buffers := s'.buffers.modify id fun b => { b with writing := false } }
      | .error e s' =>
        .error e { s' with buffers := s'.buffers.modify id fun b => { b with writing := false } } := by
  simp only [borrowMut, Act.within_machine, EStateM.run_bind, Machine.run_buffer]
  cases hb : s.buffers[id]? with
  | none => rfl
  | some b =>
    cases hw : b.canWrite
    · simp only [hw, Bool.not_false, if_true]; rfl
    · simp only [hw, Bool.not_true, Bool.false_eq_true, if_false, Machine.modifyBuffer,
        EStateM.run_bind, EStateM.run_modify, run_withUndo]

/-- A shared borrow keeps every property that its callback keeps and that a change of the
buffer's marks keeps, as long as the change leaves how the buffer is held. -/
theorem keeps_borrow_of {I : Machine → Prop}
    (hmark : ∀ s (g : Buffer → Buffer), (∀ b, (g b).access = b.access) → I s →
      I { s with buffers := s.buffers.modify id g })
    (hf : ∀ items, Keeps I (f items)) : Keeps I (borrow id f) := by
  intro s hs
  rw [run_borrow]
  cases hb : s.buffers[id]? with
  | none => exact hs
  | some b =>
    dsimp only
    cases hw : b.writing
    case true => exact hs
    simp only [Bool.false_eq_true, if_false]
    exact final_around (I := I) (J := I)
      (fun s => { s with buffers := s.buffers.modify id fun b => { b with readers := b.readers + 1 } })
      (fun s => { s with buffers := s.buffers.modify id fun b => { b with readers := b.readers - 1 } })
      s (hmark s _ (fun _ => rfl) hs) (hf b.items) fun s' h => hmark s' _ (fun _ => rfl) h

/-- An exclusive borrow keeps every property that its callback keeps and that a change of the
buffer's marks keeps, as long as the change leaves how the buffer is held. -/
theorem keeps_borrowMut_of {I : Machine → Prop}
    (hmark : ∀ s (g : Buffer → Buffer), (∀ b, (g b).access = b.access) → I s →
      I { s with buffers := s.buffers.modify id g })
    (hf : ∀ items, Keeps I (f items)) : Keeps I (borrowMut id f) := by
  intro s hs
  rw [run_borrowMut]
  cases hb : s.buffers[id]? with
  | none => exact hs
  | some b =>
    dsimp only
    cases hw : b.canWrite
    case false => exact hs
    simp only [Bool.not_true, Bool.false_eq_true, if_false]
    exact final_around (I := I) (J := I)
      (fun s => { s with buffers := s.buffers.modify id fun b => { b with writing := true } })
      (fun s => { s with buffers := s.buffers.modify id fun b => { b with writing := false } })
      s (hmark s _ (fun _ => rfl) hs) (hf b.items) fun s' h => hmark s' _ (fun _ => rfl) h

/-- A shared borrow of a recorded buffer breaks off only when a writer holds the buffer, with
the library's own fault, or when its callback breaks off, with the callback's fault. -/
theorem borrow_fault {b : Buffer} (hb : s.buffers[id]? = some b) {e : Fault} {s' : Machine}
    (hrun : (borrow id f).run s = .error e s') :
    (b.writing = true ∧ e = .bufferWritten) ∨
      ∃ s₁, (f b.items).run
        { s with buffers := s.buffers.modify id fun b => { b with readers := b.readers + 1 } } =
          .error e s₁ := by
  rw [run_borrow, hb] at hrun
  cases hw : b.writing
  · simp only [hw, Bool.false_eq_true, if_false] at hrun
    split at hrun
    · cases hrun
    · rename_i e₁ s₁ hcb
      simp only [EStateM.Result.error.injEq] at hrun
      exact Or.inr ⟨s₁, hrun.1 ▸ hcb⟩
  · simp only [hw, if_true, EStateM.Result.error.injEq] at hrun
    exact Or.inl ⟨rfl, hrun.1.symm⟩

/-- An exclusive borrow of a recorded buffer breaks off only when someone else holds the
buffer, with the library's own fault, or when its callback breaks off, with the callback's
fault. -/
theorem borrowMut_fault {b : Buffer} (hb : s.buffers[id]? = some b) {e : Fault} {s' : Machine}
    (hrun : (borrowMut id f).run s = .error e s') :
    (b.canWrite = false ∧ e = .bufferShared) ∨
      ∃ s₁, (f b.items).run
        { s with buffers := s.buffers.modify id fun b => { b with writing := true } } =
          .error e s₁ := by
  rw [run_borrowMut, hb] at hrun
  cases hw : b.canWrite
  · simp only [hw, Bool.not_false, if_true, EStateM.Result.error.injEq] at hrun
    exact Or.inl ⟨rfl, hrun.1.symm⟩
  · simp only [hw, Bool.not_true, Bool.false_eq_true, if_false] at hrun
    split at hrun
    · cases hrun
    · rename_i e₁ s₁ hcb
      simp only [EStateM.Result.error.injEq] at hrun
      exact Or.inr ⟨s₁, hrun.1 ▸ hcb⟩

end Buffer

end DmaOwnership
