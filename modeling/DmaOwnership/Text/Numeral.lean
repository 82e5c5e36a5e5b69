import DmaOwnership.Text.Quote
/-!
# Numerals

The numbers a script writes, and the hex text of the bytes it prints.

* A decimal numeral is an optional sign `+` or `-` followed by one or more digits
  `0-9`, whose value lies in the signed 64-bit range. Nothing else is allowed: no
  blanks, no underscores, no base prefix.
* A byte is written in hex, in either case, with at most one leading `0x` or `0X`,
  and with at least one digit; its value must be below 256.
-/

namespace DmaOwnership.Text

/-- The value of an ASCII decimal digit. -/
def decimalValue? (c : Char) : Option Nat :=
  if '0' ≤ c ∧ c ≤ '9' then some (c.toNat - '0'.toNat) else none

/-- The value of an ASCII hex digit, in either case. -/
def hexValue? (c : Char) : Option Nat :=
  if '0' ≤ c ∧ c ≤ '9' then some (c.toNat - '0'.toNat)
  else if 'a' ≤ c ∧ c ≤ 'f' then some (c.toNat - 'a'.toNat + 10)
  else if 'A' ≤ c ∧ c ≤ 'F' then some (c.toNat - 'A'.toNat + 10)
  else none

/-- The value of a non-empty run of digits in the given base, if every character is
a digit of it. -/
def digitsValue? (digit : Char → Option Nat) (base : Nat) : List Char → Option Nat
  | [] => none
  | c :: cs => cs.foldl (fun acc d => do pure ((← acc) * base + (← digit d))) (digit c)

/-- The value of a decimal numeral with an optional sign, in the signed 64-bit range. -/
def parseInt? (s : String) : Option Int :=
  let (neg, digits) := match s.toList with
    | '-' :: rest => (true, rest)
    | '+' :: rest => (false, rest)
    | cs => (false, cs)
  match digitsValue? decimalValue? 10 digits with
  | none => none
  | some n =>
    let v : Int := if neg then -n else n
    if -9223372036854775808 ≤ v ∧ v < 9223372036854775808 then some v else none

/-- The byte written in hex, with at most one leading `0x` or `0X`. -/
def parseHexByte? (s : String) : Option UInt8 :=
  let digits := match s.toList with
    | '0' :: 'x' :: rest => rest
    | '0' :: 'X' :: rest => rest
    | cs => cs
  match digitsValue? hexValue? 16 digits with
  | some n => if n < 256 then some n.toUInt8 else none
  | none => none

/-- Two lower-case hex digits per byte. -/
def hexOfBytes (bytes : List Nat) : String :=
  String.ofList (bytes.flatMap (hexDigits 2))

end DmaOwnership.Text
