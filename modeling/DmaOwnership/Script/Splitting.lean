/-!
# What the runner asks of its splitter

The script runner is given the splitter that cuts a line into words, the way a shell cuts a
command line. It asks one thing of it (`SplitsPlain`): a line of plain words, written with
one space between them, splits into exactly those words. A plain word has characters, none
of them a blank, a quote or a backslash, and does not start a comment with `#`.
-/

namespace DmaOwnership.Script

/-- Whether the character separates words. -/
def isBlank (c : Char) : Bool := c = ' ' || c = '\t' || c = '\r' || c = '\n'

/-- A character that stands for itself in a word: no blank, quote or backslash. -/
def Ordinary (c : Char) : Prop :=
  isBlank c = false ∧ c ≠ '"' ∧ c ≠ '\'' ∧ c ≠ '\\'

/-- A word a line can write as it is: it has characters, all of them ordinary, and the first
does not start a comment. -/
def Plain (w : String) : Prop :=
  w.toList ≠ [] ∧ w.toList.head? ≠ some '#' ∧ ∀ c ∈ w.toList, Ordinary c

/-- The splitter cuts a line of plain words, written with one space between them, into
exactly those words. -/
def SplitsPlain (split : String → Except String (List String)) : Prop :=
  ∀ ws : List String, (∀ w ∈ ws, Plain w) → split (" ".intercalate ws) = .ok ws

end DmaOwnership.Script
