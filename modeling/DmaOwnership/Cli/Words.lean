import DmaOwnership.Script.Splitting
/-!
# The program's splitter of script lines

The program cuts a script line into words the way a POSIX-like shell would: blanks separate
words; a backslash outside quotes, or inside double quotes, makes the next character literal;
inside single quotes every character is literal; quotes may join parts of one word, and `""`
is an empty word; a `#` that starts a word starts a comment to the end of the line. A line
that ends inside quotes or right after a backslash cannot be split.
-/

namespace DmaOwnership.Cli

open Script

/-- Where the splitter stands. -/
inductive Lexeme where
  /-- Between words. -/
  | between
  /-- In a word, outside quotes. -/
  | word
  /-- Right after a backslash outside quotes. -/
  | escape
  /-- Right after a backslash inside double quotes. -/
  | quotedEscape
  /-- Inside double quotes. -/
  | doubleQuoted
  /-- Inside single quotes. -/
  | singleQuoted
  /-- In a comment. -/
  | comment
deriving DecidableEq, Repr

/-- The splitter's state: where it stands, the word so far (last character first) and
the finished words (last word first). -/
structure Splitter where
  /-- Where the splitter stands. -/
  place : Lexeme := .between
  /-- The characters of the current word, last first. -/
  current : List Char := []
  /-- The finished words, last first. -/
  words : List String := []

namespace Splitter

/-- The splitter with the current word finished. -/
def finishWord (s : Splitter) : Splitter :=
  { place := .between, current := [], words := String.ofList s.current.reverse :: s.words }

/-- The splitter after one more character. -/
def push (s : Splitter) (c : Char) : Splitter :=
  match s.place with
  | .between =>
    if isBlank c then s
    else if c = '"' then { s with place := .doubleQuoted }
    else if c = '\'' then { s with place := .singleQuoted }
    else if c = '\\' then { s with place := .escape }
    else if c = '#' then { s with place := .comment }
    else { s with place := .word, current := c :: s.current }
  | .word =>
    if isBlank c then s.finishWord
    else if c = '"' then { s with place := .doubleQuoted }
    else if c = '\'' then { s with place := .singleQuoted }
    else if c = '\\' then { s with place := .escape }
    else { s with current := c :: s.current }
  | .escape => { s with place := .word, current := c :: s.current }
  | .quotedEscape => { s with place := .doubleQuoted, current := c :: s.current }
  | .doubleQuoted =>
    if c = '"' then { s with place := .word }
    else if c = '\\' then { s with place := .quotedEscape }
    else { s with current := c :: s.current }
  | .singleQuoted =>
    if c = '\'' then { s with place := .word }
    else { s with current := c :: s.current }
  | .comment => if c = '\n' then { s with place := .between } else s

/-- The words once the line has ended, or why it cannot be split. -/
def finish (s : Splitter) : Except String (List String) :=
  match s.place with
  | .between | .comment => .ok s.words.reverse
  | .word => .ok s.finishWord.words.reverse
  | .escape | .quotedEscape => .error "EOF found after escape character"
  | .doubleQuoted | .singleQuoted => .error "EOF found when expecting closing quote"

end Splitter

/-- The words of a line, or why it cannot be split. -/
def words (line : String) : Except String (List String) :=
  (line.toList.foldl Splitter.push {}).finish

end DmaOwnership.Cli
