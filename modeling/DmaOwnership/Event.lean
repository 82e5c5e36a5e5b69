import DmaOwnership.Control
/-!
# Engine events

An event is what the engine reports on a lane: it reached the half of its count,
it completed the count, or it hit a bus error. An event is a byte code, `0`, `1`
and `2` for these three; any other code names no event, raises no flag and enables
no interrupt.
-/

namespace DmaOwnership

/-- An event of the engine, by its code. -/
structure Event where
  /-- The code of the event: `0` half transfer, `1` transfer complete, `2` error. -/
  code : UInt8
deriving DecidableEq, Repr

namespace Event

/-- The engine has moved half of its count. -/
def half : Event := ⟨0⟩

/-- The engine has moved its whole count. -/
def complete : Event := ⟨1⟩

/-- The engine hit a bus error. -/
def error : Event := ⟨2⟩

/-- The interrupt-enable bit of the control word that belongs to the event. -/
def enableBit (e : Event) : UInt32 :=
  if e = half then Control.halfIrq
  else if e = complete then Control.completeIrq
  else if e = error then Control.errorIrq
  else 0

/-- The name of the event, if its code names one. -/
def name? (e : Event) : Option String :=
  if e = half then some "half"
  else if e = complete then some "complete"
  else if e = error then some "error"
  else none

/-- The event with the given name. -/
def ofName? : String → Option Event
  | "half" => some half
  | "complete" => some complete
  | "error" => some error
  | _ => none

theorem ofName?_half : ofName? "half" = some half := rfl

theorem name?_ofName? {s : String} {e : Event} (h : ofName? s = some e) : e.name? = some s := by
  unfold ofName? at h
  split at h <;> simp_all <;> subst h <;> decide

end Event

end DmaOwnership
