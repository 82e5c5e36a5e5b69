/-!
# Item widths

A buffer holds items of one width: 8, 16 or 32 bits. The width decides the size
code written into a lane's control word and which values an item can hold.
-/

namespace DmaOwnership

/-- The width of the items of a buffer. -/
inductive Width where
  /-- Bytes. -/
  | w8
  /-- Half words. -/
  | w16
  /-- Words. -/
  | w32
deriving DecidableEq, Repr

namespace Width

/-- The number of bits of an item. -/
def bits : Width → Nat
  | w8 => 8
  | w16 => 16
  | w32 => 32

/-- The size code of the width in a control word. -/
def code : Width → UInt32
  | w8 => 0
  | w16 => 1
  | w32 => 2

/-- The width with the given number of bits, if it is 8, 16 or 32. -/
def ofBits? (n : Int) : Option Width :=
  if n = 8 then some w8 else if n = 16 then some w16 else if n = 32 then some w32 else none

/-- Whether an item of this width can hold the value. -/
def fits (w : Width) (v : Int) : Bool := 0 ≤ v && v < (Nat.pow 2 w.bits : Int)

theorem ofBits?_bits (w : Width) : ofBits? (w.bits : Int) = some w := by
  cases w <;> decide

theorem bits_le (w : Width) : w.bits ≤ 32 := by
  cases w <;> decide

end Width

end DmaOwnership
