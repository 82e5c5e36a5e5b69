import DmaOwnership.Text.Quote
/-!
# Durations

A duration is written as an optional sign and one or more terms, each a decimal
number with an optional fraction and a unit: `ns`, `us` (also `µs` and `μs`), `ms`,
`s`, `m` or `h`, as in `1h30m` or `-1.5s`. A lone `0` is zero. The value is in
nanoseconds and must fit a signed 64-bit count.

The integer part of each term is exact; a fraction is scaled to nanoseconds in
binary floating point (double precision) and cut toward zero, so that fractions of
an hour stay accurate to the nanosecond. Each term is at most `2^63` nanoseconds;
the running sum wraps at `2^64` and is checked against `2^63` after every term.
-/

namespace DmaOwnership.Text

/-- The largest magnitude the sum of the terms may reach, `2^63`. -/
def durationLimit : Nat := 9223372036854775808

/-- The sum of the terms is kept in an unsigned 64-bit count and wraps at this
size: terms that add up to `2^64` exactly give zero. Only a sum above
`durationLimit` after a term is refused. -/
def durationWrap : Nat := 18446744073709551616

/-- The nanoseconds in one of a unit. -/
def unitNanos : String → Option Nat
  | "ns" => some 1
  | "us" => some 1000
  | "µs" => some 1000
  | "μs" => some 1000
  | "ms" => some 1000000
  | "s" => some 1000000000
  | "m" => some 60000000000
  | "h" => some 3600000000000
  | _ => none

/-- Whether a character may start a term's number. -/
def isNumberChar (c : Char) : Bool := c = '.' || ('0' ≤ c && c ≤ '9')

/-- The leading digits as a number; none if it would pass `2^63`. -/
def leadingInt (cs : List Char) : Option Nat × List Char :=
  let ds := cs.takeWhile fun c => '0' ≤ c && c ≤ '9'
  let rest := cs.dropWhile fun c => '0' ≤ c && c ≤ '9'
  let v := ds.foldl (fun acc c => acc.bind fun x =>
    if x > durationLimit / 10 then none
    else
      let y := x * 10 + (c.toNat - '0'.toNat)
      if y > durationLimit then none else some y) (some 0)
  (v, rest)

/-- The leading digits of a fraction: their value and ten to their count, both
kept only while the value stays within `2^63 - 1` times ten. -/
def leadingFraction (cs : List Char) : Nat × Float × List Char :=
  let ds := cs.takeWhile fun c => '0' ≤ c && c ≤ '9'
  let rest := cs.dropWhile fun c => '0' ≤ c && c ≤ '9'
  let (x, scale, _) := ds.foldl (fun (x, scale, overflow) c =>
    if overflow then (x, scale, true)
    else if x > (durationLimit - 1) / 10 then (x, scale, true)
    else
      let y := x * 10 + (c.toNat - '0'.toNat)
      if y > durationLimit then (x, scale, true) else (y, scale * 10, false))
    ((0 : Nat), (1 : Float), false)
  (x, scale, rest)

/-- The text of a duration that cannot be read. -/
def invalidDuration (orig : String) : String := "time: invalid duration " ++ quoteBytes orig

/-- Reads the terms of a duration, adding their nanoseconds to `acc`. Every term
takes at least one character, so `fuel` at the text's length is enough. -/
def durationTerms (orig : String) (acc : Nat) : Nat → List Char → Except String Nat
  | _, [] => .ok acc
  | 0, _ :: _ => .error (invalidDuration orig)
  | fuel + 1, c :: cs =>
    if !isNumberChar c then .error (invalidDuration orig)
    else
      let s := c :: cs
      match leadingInt s with
      | (none, _) => .error (invalidDuration orig)
      | (some v, afterInt) =>
        let pre := afterInt.length != s.length
        let (f, scale, afterFrac, post) := match afterInt with
          | '.' :: rest =>
            let (f, scale, r) := leadingFraction rest
            (f, scale, r, r.length != rest.length)
          | r => (0, 1, r, false)
        if !pre && !post then .error (invalidDuration orig)
        else
          let unit := afterFrac.takeWhile fun c => !isNumberChar c
          let rest := afterFrac.dropWhile fun c => !isNumberChar c
          if unit.isEmpty then .error ("time: missing unit in duration " ++ quoteBytes orig)
          else match unitNanos (String.ofList unit) with
            | none => .error ("time: unknown unit " ++ quoteBytes (String.ofList unit) ++
                " in duration " ++ quoteBytes orig)
            | some u =>
              if v > durationLimit / u then .error (invalidDuration orig)
              else
                let v := if f > 0 then
                    v * u + (Float.ofNat f * (Float.ofNat u / scale)).toUInt64.toNat
                  else v * u
                let sum := (acc + v) % durationWrap
                if v > durationLimit then .error (invalidDuration orig)
                else if sum > durationLimit then .error (invalidDuration orig)
                else durationTerms orig sum fuel rest

/-- The nanoseconds of a duration, or why it cannot be read. -/
def parseDuration (orig : String) : Except String Int :=
  let (neg, body) := match orig.toList with
    | '-' :: rest => (true, rest)
    | '+' :: rest => (false, rest)
    | cs => (false, cs)
  if body = ['0'] then .ok 0
  else if body.isEmpty then .error (invalidDuration orig)
  else match durationTerms orig 0 body.length body with
    | .error e => .error e
    | .ok d =>
      if neg then .ok (-(d : Int))
      else if d > durationLimit - 1 then .error (invalidDuration orig)
      else .ok d

end DmaOwnership.Text
