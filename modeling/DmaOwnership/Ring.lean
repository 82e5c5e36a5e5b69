import DmaOwnership.Width
import DmaOwnership.Fault
/-!
# Rings

A ring is a buffer of an even number of items that a circular transfer fills
over and over, one half after the other. Its phase says which half the engine is
filling: while it fills one half, the other belongs to the reader. A free ring is
held by no transfer.
-/

namespace DmaOwnership

/-- Which half of a ring. -/
inductive Half where
  /-- The first half. -/
  | first
  /-- The second half. -/
  | second
deriving DecidableEq, Repr

/-- The name of a half. -/
def Half.name : Half → String
  | .first => "First"
  | .second => "Second"

/-- The other half. -/
def Half.other : Half → Half
  | .first => .second
  | .second => .first

/-- What the engine is doing with a ring. -/
inductive Phase where
  /-- No transfer holds the ring. -/
  | free
  /-- The engine fills the first half. -/
  | fillingFirst
  /-- The engine fills the second half. -/
  | fillingSecond
deriving DecidableEq, Repr

/-- The name of a phase. -/
def Phase.name : Phase → String
  | .free => "Free"
  | .fillingFirst => "MutatingFirstHalf"
  | .fillingSecond => "MutatingSecondHalf"

/-- A ring of items. -/
structure Ring where
  /-- The width of the items. -/
  width : Width
  /-- The items, both halves. -/
  items : Array UInt32
  /-- What the engine is doing with the ring. -/
  phase : Phase := .free
deriving Repr

namespace Ring

/-- A free ring over the items, if there is an even, non-zero number of them. -/
def make (width : Width) (items : Array UInt32) : Except Fault Ring :=
  if items.size = 0 ∨ items.size % 2 ≠ 0 then .error .ringLength
  else .ok { width, items }

/-- The number of items in each half. -/
def halfLength (r : Ring) : Nat := r.items.size / 2

/-- The items of one half. -/
def half (r : Ring) : Half → Array UInt32
  | .first => r.items.extract 0 r.halfLength
  | .second => r.items.extract r.halfLength r.items.size

/-- The ring with `data` written from item `offset` on, as the engine writes it. -/
def fill (r : Ring) (offset : Nat) (data : List UInt32) : Ring :=
  { r with items := (data.zipIdx offset).foldl (fun a (v, i) => a.setIfInBounds i v) r.items }

theorem make_phase {w : Width} {items : Array UInt32} {r : Ring} (h : make w items = .ok r) :
    r.phase = .free := by
  unfold make at h
  split at h
  · cases h
  · cases h; rfl

theorem make_length {w : Width} {items : Array UInt32} {r : Ring} (h : make w items = .ok r) :
    r.items.size = 2 * r.halfLength := by
  unfold make at h
  split at h
  · cases h
  · cases h
    simp only [halfLength]
    omega

end Ring

end DmaOwnership
