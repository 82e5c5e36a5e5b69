import DmaOwnership.Proofs.Stream.Reader
/-!
# A lane's flags only rise

The engine's events set flags and never clear one, and a read of the status word does
nothing to the flags but raise the events that fall due. Only a clear takes a flag down.
`Bank.Rises l b b'` says that every flag of lane `l` up in `b` is still up in `b'`. It
holds across every raise and every read, and across every change that agrees with the
bank outside another lane, so a lane's flags stay up until the library clears them for
that very lane.
-/

namespace DmaOwnership

theorem Lane.index_val_ne {l m : Lane} (h : l ≠ m) : l.index.val ≠ m.index.val :=
  fun e => h (congrArg Lane.mk (Fin.ext e))

namespace Bank

/-- Every flag of lane `l` that is up in `b` is up in `b'`. -/
def Rises (l : Lane) (b b' : Bank) : Prop :=
  ∀ k, k / 4 = l.index.val → b.flags.toBitVec.getLsbD k = true →
    b'.flags.toBitVec.getLsbD k = true

namespace Rises

variable {l : Lane} {b b' b'' : Bank}

@[refl] theorem refl (b : Bank) : Rises l b b := fun _ _ h => h

theorem trans (h : Rises l b b') (h' : Rises l b' b'') : Rises l b b'' :=
  fun k hk hb => h' k hk (h k hk hb)

/-- A change that leaves the status word leaves every flag. -/
theorem of_flags (h : b'.flags = b.flags) : Rises l b b' := fun _ _ hb => h ▸ hb

/-- A change that agrees with the bank outside another lane leaves lane `l`'s flags. -/
theorem of_agreeOff {m : Lane} (h : AgreeOff m b b') (hml : m ≠ l) : Rises l b b' := by
  intro k hk hb
  have hne : k / 4 ≠ m.index.val := by
    rw [hk]
    exact Lane.index_val_ne (Ne.symm hml)
  rw [← h.flag_eq k hne]
  exact hb

theorem error (h : Rises l b b') (he : (LaneStatus.ofWord l b.flags).error = true) :
    (LaneStatus.ofWord l b'.flags).error = true := by
  rw [LaneStatus.ofWord_eq] at he ⊢
  exact h _ (by omega) he

theorem complete (h : Rises l b b') (hc : (LaneStatus.ofWord l b.flags).complete = true) :
    (LaneStatus.ofWord l b'.flags).complete = true := by
  rw [LaneStatus.ofWord_eq] at hc ⊢
  exact h _ (by omega) hc

theorem filled (h : Rises l b b') {x : Half} (hf : (LaneStatus.ofWord l b.flags).filled x = true) :
    (LaneStatus.ofWord l b'.flags).filled x = true := by
  cases x
  · rw [LaneStatus.ofWord_eq] at hf ⊢
    exact h _ (by omega) hf
  · exact h.complete hf

end Rises

/-- A raise only sets bits of the status word. -/
theorem getLsbD_raise (b : Bank) (m : Lane) (e : Event) {k : Nat}
    (h : b.flags.toBitVec.getLsbD k = true) : (b.raise m e).flags.toBitVec.getLsbD k = true := by
  unfold raise
  dsimp only
  split
  · simp [BitVec.getLsbD_or, h]
  split
  · simp [BitVec.getLsbD_or, h]
  split
  · simp [BitVec.getLsbD_or, h]
  · exact h

theorem rises_raise (l m : Lane) (e : Event) (b : Bank) : Rises l b (b.raise m e) :=
  fun _ _ h => getLsbD_raise b m e h

/-- Raising events one after the other only sets bits of the status word. -/
theorem getLsbD_foldl_raise (due : List Scheduled) {b : Bank} {k : Nat}
    (h : b.flags.toBitVec.getLsbD k = true) :
    (due.foldl (fun acc x => acc.raise x.lane x.event) b).flags.toBitVec.getLsbD k = true := by
  induction due generalizing b with
  | nil => exact h
  | cons x rest ih => exact ih (getLsbD_raise b x.lane x.event h)

theorem rises_foldl_raise (l : Lane) (due : List Scheduled) (b : Bank) :
    Rises l b (due.foldl (fun acc x => acc.raise x.lane x.event) b) :=
  fun _ _ h => getLsbD_foldl_raise due h

/-- A read of the status word takes no flag down. -/
theorem rises_status (l : Lane) (b : Bank) : Rises l b b.status.2 := by
  rw [status_snd]
  -- the fold starts from the bank with the read counted, whose flags are `b`'s
  exact fun k hk hb => rises_foldl_raise l b.fallingDue _ k hk hb

theorem rises_readN (l : Lane) (b : Bank) (k : Nat) : Rises l b (b.readN k) := by
  induction k with
  | zero => exact Rises.refl b
  | succ k ih => exact ih.trans (rises_status l _)

end Bank

end DmaOwnership
