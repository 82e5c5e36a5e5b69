import DmaOwnership.Text.Address
/-!
# URL syntax

Which texts are URLs, and their scheme. There is no ASCII control character before the
fragment; a scheme is letters, digits, `+`, `-` and `.`, starting with a letter and ended by
`:` (an empty one is refused); without a scheme a first path segment with `:` is refused; with
one, a rest that does not start with `/` is accepted as is. An authority after `//` is refused
if its host is malformed (stray or unmatched brackets, brackets around anything but an IPv6
address, a bad port, a bad or ASCII `%` escape other than `%25`, a character outside
letters, digits and `-._~!$&'()*+,;=:[]<>"`) or its user part has a character outside
letters, digits and `-._:~!$&'()*+,;=%@`. Every `%` in the user part, the path and the
fragment starts a two-hex-digit escape; the query is not checked.
-/

namespace DmaOwnership.Text.Url

/-- Whether the character is an ASCII letter or digit. -/
def isAlnum (c : Char) : Bool := ('a' ≤ c && c ≤ 'z') || ('A' ≤ c && c ≤ 'Z') || ('0' ≤ c && c ≤ '9')

/-- Whether the character is an ASCII hex digit. -/
def isHex (c : Char) : Bool := ('0' ≤ c && c ≤ '9') || ('a' ≤ c && c ≤ 'f') || ('A' ≤ c && c ≤ 'F')

/-- The value of an ASCII hex digit. -/
def hexValue (c : Char) : Nat :=
  if '0' ≤ c ∧ c ≤ '9' then c.toNat - 48
  else if 'a' ≤ c ∧ c ≤ 'f' then c.toNat - 87
  else c.toNat - 55

/-- Whether a host may hold the ASCII character as it is. -/
def hostChar (c : Char) : Bool :=
  isAlnum c || "-_.~!$&'()*+,;=:[]<>\"".contains c

/-- How strictly escapes are read in a part of a URL. -/
inductive Part where
  /-- A host: escapes only for bytes outside ASCII, or `%25`. -/
  | host
  /-- A zone of an IPv6 host: escapes of bytes a host may hold, a space, or `%25`. -/
  | zone
  /-- Any other part: every escape is fine. -/
  | other
deriving DecidableEq, Repr

/-- Whether every `%` starts a valid escape for the part, and the part holds no
character it may not. -/
def unescapes (p : Part) : List Char → Bool
  | [] => true
  | '%' :: a :: b :: rest =>
    isHex a && isHex b &&
      (match p with
       | .host => 8 ≤ hexValue a || (a = '2' && b = '5')
       | .zone =>
         let v := hexValue a * 16 + hexValue b
         (a = '2' && b = '5') || v = 32 || (v < 128 && hostChar (Char.ofNat v))
       | .other => true) &&
      unescapes p rest
  | '%' :: _ => false
  | c :: rest =>
    (p = .other || 128 ≤ c.toNat || c = '+' || hostChar c) && unescapes p rest

/-- The position of the last occurrence of the character. -/
def lastIndex (cs : List Char) (c : Char) : Option Nat :=
  (cs.zipIdx.filter (·.1 = c)).getLast?.map (·.2)

/-- Whether a port part is empty, or `:` followed by digits. -/
def validPort : List Char → Bool
  | [] => true
  | ':' :: ds => ds.all fun d => '0' ≤ d && d ≤ '9'
  | _ => false

/-- The first position at which `pat` occurs in `cs`. -/
def indexOf (cs pat : List Char) : Option Nat :=
  (List.range (cs.length + 1)).find? fun i => (cs.drop i).take pat.length = pat

/-- The text with every `%` escape replaced by the character of its byte. -/
def decode : List Char → List Char
  | '%' :: a :: b :: rest => Char.ofNat (hexValue a * 16 + hexValue b) :: decode rest
  | c :: rest => c :: decode rest
  | [] => []

/-- Whether a host (with its port) is well formed. A `[` makes it an IPv6 literal:
it must be the host's first character and its only `[`, what stands between it and
the last `]` must unescape to an IPv6 address, and only a port may follow.
Otherwise a port is what follows the last `:`. -/
def validHost (host : List Char) : Bool :=
  match lastIndex host '[' with
  | some o =>
    o = 0 &&
    match lastIndex host ']' with
    | none => false
    | some c =>
      let name := (host.take c).drop (o + 1)
      validPort (host.drop (c + 1)) &&
        match indexOf name ['%', '2', '5'] with
        | some z =>
          unescapes .host (name.take z) && unescapes .zone (name.drop z) &&
            Address.isIPv6Literal (decode (name.take z) ++ decode (name.drop z))
        | none => unescapes .host name && Address.isIPv6Literal (decode name)
  | none =>
    (match lastIndex host ':' with
     | some i => validPort (host.drop i)
     | none => true) && unescapes .host host

/-- Whether a user part may hold the character. -/
def userChar (c : Char) : Bool := isAlnum c || "-._:~!$&'()*+,;=%@".contains c

/-- Whether an authority (user part, host and port) is well formed. -/
def validAuthority (auth : List Char) : Bool :=
  match lastIndex auth '@' with
  | none => validHost auth
  | some i =>
    let user := auth.take i
    validHost (auth.drop (i + 1)) && user.all userChar &&
      unescapes .other (user.takeWhile (· ≠ ':')) &&
      unescapes .other ((user.dropWhile (· ≠ ':')).drop 1)

/-- The scheme at the front of a text and the rest after its colon; an empty scheme
when there is none; nothing when the text starts with a colon. -/
def splitScheme (cs : List Char) : Option (List Char × List Char) :=
  let rec go (acc : List Char) : List Char → Option (List Char × List Char)
    | [] => some ([], cs)
    | c :: rest =>
      if ('a' ≤ c && c ≤ 'z') || ('A' ≤ c && c ≤ 'Z') then go (c :: acc) rest
      else if ('0' ≤ c && c ≤ '9') || c = '+' || c = '-' || c = '.' then
        if acc.isEmpty then some ([], cs) else go (c :: acc) rest
      else if c = ':' then
        if acc.isEmpty then none else some (acc.reverse, rest)
      else some ([], cs)
  go [] cs

/-- The scheme of a URL, in lower case, if the text is one. -/
def scheme? (text : String) : Option String := do
  let all := text.toList
  let u := all.takeWhile (· ≠ '#')
  let frag := (all.dropWhile (· ≠ '#')).drop 1
  guard (u.all fun c => 0x20 ≤ c.toNat && c.toNat ≠ 0x7F)
  guard (frag.isEmpty || unescapes .other frag)
  if u = ['*'] then return ""
  let (s, rest) ← splitScheme u
  let scheme := (String.ofList s).toLower
  let rest :=
    if rest.getLast? = some '?' && rest.count '?' = 1 then rest.dropLast
    else rest.takeWhile (· ≠ '?')
  if rest.head? ≠ some '/' then
    if !scheme.isEmpty then return scheme
    guard (!(rest.takeWhile (· ≠ '/')).contains ':')
  let path ←
    if rest.take 2 = ['/', '/'] && (!scheme.isEmpty || rest.take 3 ≠ ['/', '/', '/']) then do
      let auth := (rest.drop 2).takeWhile (· ≠ '/')
      guard (validAuthority auth)
      pure ((rest.drop 2).dropWhile (· ≠ '/'))
    else pure rest
  guard (unescapes .other path)
  return scheme

end DmaOwnership.Text.Url
