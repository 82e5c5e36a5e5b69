/-!
# IP address syntax

Which texts are IPv6 addresses, as a host in brackets must be. An address is up to
eight fields of one to four hex digits, separated by `:`; one `::` may stand for one
or more zero fields, and a dotted IPv4 address may stand for the last two fields.
A zone may follow after `%`, and then it must not be empty.

A text whose first `.`, `:` or `%` is not a `:` is no IPv6 address: it is an IPv4
address or nothing, and neither may stand in brackets.
-/

namespace DmaOwnership.Text.Address

/-- Whether the character is an ASCII hex digit. -/
def isHexDigit (c : Char) : Bool :=
  ('0' ≤ c && c ≤ '9') || ('a' ≤ c && c ≤ 'f') || ('A' ≤ c && c ≤ 'F')

/-- The value of a run of decimal digits. -/
def decimal (ds : List Char) : Nat := ds.foldl (fun n d => 10 * n + (d.toNat - 48)) 0

/-- Whether the text is one field of a dotted IPv4 address: decimal digits without
a leading zero, at most 255. -/
def isOctet (f : List Char) : Bool :=
  !f.isEmpty && f.all Char.isDigit && (f.length = 1 || f.head? ≠ some '0') &&
    decide (decimal f ≤ 255)

/-- Whether the text is a dotted IPv4 address: four fields. -/
def isIPv4 (s : List Char) : Bool :=
  let fields := s.splitOn '.'
  fields.length = 4 && fields.all isOctet

/-- Reads the fields of an IPv6 address from the one at byte `i` on, with `left`
fields still free and `gap` the byte at which `::` stands, if it was read. Answers
the bytes filled and the gap once the text is used up; none if it does not read. -/
def fields : Nat → List Char → Nat → Option Nat → Option (Nat × Option Nat)
  | 0, s, i, gap => if s.isEmpty then some (i, gap) else none
  | left + 1, s, i, gap =>
    let run := s.takeWhile isHexDigit
    let rest := s.dropWhile isHexDigit
    if run.isEmpty || 4 < run.length then none
    else if rest.head? = some '.' then
      if (gap.isSome || i = 12) && i + 4 ≤ 16 && isIPv4 s then some (i + 4, gap) else none
    else
      match rest with
      | [] => some (i + 2, gap)
      | [':'] => none
      | ':' :: ':' :: more =>
        if gap.isSome then none
        else if more.isEmpty then some (i + 2, some (i + 2))
        else fields left more (i + 2) (some (i + 2))
      | ':' :: more => fields left more (i + 2) gap
      | _ => none

/-- Whether the text is an IPv6 address with an optional zone. -/
def isIPv6 (text : List Char) : Bool :=
  let addr := text.takeWhile (· ≠ '%')
  let zone := (text.dropWhile (· ≠ '%')).drop 1
  if text.contains '%' && zone.isEmpty then false
  else
    let (s, gap) := if addr.take 2 = [':', ':'] then (addr.drop 2, some 0) else (addr, none)
    if gap.isSome && s.isEmpty then true
    else
      match fields 8 s 0 gap with
      | some (i, gap) => if i < 16 then gap.isSome else gap.isNone
      | none => false

/-- Whether the text may stand in brackets as a host: an IPv6 address, which an
IPv4 address is not. -/
def isIPv6Literal (text : List Char) : Bool :=
  (text.find? fun c => c = '.' || c = ':' || c = '%') = some ':' && isIPv6 text

end DmaOwnership.Text.Address
