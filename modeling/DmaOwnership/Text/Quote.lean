import DmaOwnership.Text.Printable
/-!
# Quoted text

Two ways to write a text between double quotes so that it reads back.

* `quote`: a quote and a backslash get a backslash; printable characters stand as
  they are; the controls with a letter escape (`\a \b \f \n \r \t \v`) use it; other
  controls below the space and DEL are `\xHH`; any other character is `\uHHHH`, or
  `\UHHHHHHHH` above the basic plane. Hex digits are lower case.
* `quoteBytes`: only a quote and a backslash get a backslash; every byte of a
  character below the space or outside ASCII is written `\xHH`; DEL stands as it is.
-/

namespace DmaOwnership.Text

/-- The lower-case hex digit of a number below 16. -/
def hexDigit (n : Nat) : Char :=
  if n < 10 then Char.ofNat (48 + n) else Char.ofNat (87 + n)

/-- The `width` lower-case hex digits of `n`, most significant first. -/
def hexDigits (width n : Nat) : List Char :=
  (List.range width).reverse.map fun i => hexDigit (n / Nat.pow 16 i % 16)

/-- The escape of one character inside `quote`. -/
def escapeChar (c : Char) : List Char :=
  if c = '"' ∨ c = '\\' then ['\\', c]
  else if isPrintable c then [c]
  else match c with
    | '\x07' => ['\\', 'a']
    | '\x08' => ['\\', 'b']
    | '\x0c' => ['\\', 'f']
    | '\n' => ['\\', 'n']
    | '\r' => ['\\', 'r']
    | '\t' => ['\\', 't']
    | '\x0b' => ['\\', 'v']
    | _ =>
      if c.toNat < 0x20 ∨ c.toNat = 0x7F then '\\' :: 'x' :: hexDigits 2 c.toNat
      else if c.toNat < 0x10000 then '\\' :: 'u' :: hexDigits 4 c.toNat
      else '\\' :: 'U' :: hexDigits 8 c.toNat

/-- The text between double quotes, escaped so that it reads back. -/
def quote (s : String) : String :=
  String.ofList ('"' :: s.toList.flatMap escapeChar ++ ['"'])

/-- The escape of one character inside `quoteBytes`. -/
def escapeBytes (c : Char) : List Char :=
  if c = '"' ∨ c = '\\' then ['\\', c]
  else if c.toNat < 0x20 ∨ 0x80 ≤ c.toNat then
    (String.singleton c).toUTF8.toList.flatMap fun b => '\\' :: 'x' :: hexDigits 2 b.toNat
  else [c]

/-- The text between double quotes, with every byte outside printable ASCII as `\xHH`. -/
def quoteBytes (s : String) : String :=
  String.ofList ('"' :: s.toList.flatMap escapeBytes ++ ['"'])

end DmaOwnership.Text
