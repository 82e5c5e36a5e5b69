import DmaOwnership.Bank
/-!
# Clearing status flags

A write to the clear register takes away the bits of its mask, and the whole nibble
of every lane whose global flag is in the mask. Widening the mask in place, lane by
lane, never widens it further: a lane's nibble holds no other lane's global flag.

Main statement: `clear_flags_and_laws`, the bits a clear leaves, and that clears
compose by joining their masks, commute, and are idempotent.
-/

namespace DmaOwnership.Bank

/-- A clear takes away exactly the bits its widened mask stands for, so clears add
up: two clears are one clear with both masks, in either order, and a clear done
twice is done once. -/
theorem clear_flags_and_laws (b : Bank) (m x y : UInt32) :
    (∀ k, (b.clear m).flags.toBitVec.getLsbD k =
      (b.flags.toBitVec.getLsbD k && !clearedBy m k)) ∧
    (b.clear x).clear y = b.clear (x ||| y) ∧
    (b.clear x).clear y = (b.clear y).clear x ∧
    (b.clear m).clear m = b.clear m := by
  refine ⟨clear_flags_getLsbD b m, clear_clear b x y, ?_, ?_⟩
  · rw [clear_clear, clear_clear, UInt32.or_comm]
  · rw [clear_clear, UInt32.or_self]

end DmaOwnership.Bank
