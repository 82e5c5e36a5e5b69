/-!
# Lines of a script

A script is read line by line. A line ends at a newline or at the end of the text;
one carriage return right before the newline (or at the end) is not part of the
line, and an empty piece after the last newline is no line. A line of 65536 bytes
or more, carriage return included, cannot be read: reading stops there with an
error, after the lines before it.
-/

namespace DmaOwnership.Script

/-- The most bytes a line may have, its carriage return included. -/
def maxLineBytes : Nat := 65535

/-- The lines of a script, and the error that stopped reading, if one did. -/
structure Lines where
  /-- The lines read. -/
  lines : List String
  /-- Why reading stopped early, if it did. -/
  error : Option String := none

/-- The line without one trailing carriage return. -/
def dropReturn (s : String) : String :=
  if s.endsWith "\r" then String.ofList s.toList.dropLast else s

/-- Reads the lines of a script. -/
def readLines (text : String) : Lines :=
  let pieces := text.splitOn "\n"
  let pieces := if pieces.getLast? = some "" then pieces.dropLast else pieces
  let good := pieces.takeWhile fun p => p.utf8ByteSize ≤ maxLineBytes
  { lines := good.map dropReturn
    error := if good.length < pieces.length then some "bufio.Scanner: token too long" else none }

end DmaOwnership.Script
