import MacAccess.Bytes
import MacAccess.Http.Malformed

/-!
# Authorities

The part of a URI that names a host and a port, after optional user information: `user@host:port`,
where a host may be an IP literal in brackets. A scan accepts or refuses the octets; the host and
the port are then read off the accepted text.
-/

namespace MacAccess.Http.Authority

/-- Whether an octet ends the authority. -/
def isEnd (b : UInt8) : Bool := b == 0x2F || b == 0x3F || b == 0x23

def isPlain (b : UInt8) : Bool := Octet.isAlphanumeric b || Octet.isOneOf "!$&'()*+,-.;=_~" b

/-- What a scan remembers of the octets read so far. Colons and a percent sign count since the last
`@` or `]`, as user information and IP literals have their own. -/
structure Scan where
  colons : Nat
  opened : Bool
  closed : Bool
  percent : Bool
  atSign : Bool

def Scan.start : Scan := ⟨0, false, false, false, false⟩

/-- The most colons that may follow one another between two resets: an IPv6 address has eight. -/
def maxColons : Nat := 8

/-- The scan after one more octet. -/
def Scan.step (s : Scan) (b : UInt8) : Except UriFlaw Scan :=
  let s := { s with atSign := false }
  if b == 0x3A then
    if s.colons ≥ maxColons then .error .authority else .ok { s with colons := s.colons + 1 }
  else if b == 0x5B then
    if s.percent || s.opened then .error .authority else .ok { s with opened := true }
  else if b == 0x5D then
    if !s.opened || s.closed then .error .authority
    else .ok { s with closed := true, colons := 0, percent := false }
  else if b == 0x40 then .ok { s with colons := 0, percent := false, atSign := true }
  else if b == 0x25 then .ok { s with percent := true }
  else if isPlain b then .ok s
  else .error .character

/-- Whether the octets read make up a whole authority. -/
def Scan.isComplete (s : Scan) : Bool :=
  s.opened == s.closed && s.colons ≤ 1 && !s.atSign && !s.percent

/-- The authority at the start of the input, and what follows it. -/
def split (input : Bytes) : Except UriFlaw (Bytes × Bytes) := do
  let octets := input.takeWhile fun b => !isEnd b
  let s ← octets.foldlM Scan.step Scan.start
  if s.isComplete then return (octets, input.dropWhile fun b => !isEnd b)
  else throw .authority

/-! ## Host and port -/

/-- What follows the last occurrence of a character, if there is one. -/
def afterLast? (c : Char) (cs : List Char) : Option (List Char) :=
  if c ∈ cs then some (cs.reverse.takeWhile (· != c)).reverse else none

/-- The host: what follows the last `@`, up to the closing bracket if it opens with one, and up to
the first colon otherwise. -/
def host (text : String) : String :=
  let cs := (afterLast? '@' text.toList).getD text.toList
  String.ofList <| match cs with
    | '[' :: _ => cs.takeWhile (· != ']') ++ [']']
    | _ => cs.takeWhile (· != ':')

/-- The number below 2¹⁶ that digits with an optional plus sign denote. -/
def portNumber? (cs : List Char) : Option UInt16 :=
  let digits := match cs with
    | '+' :: rest => rest
    | _ => cs
  if digits ≠ [] ∧ digits.all Char.isDigit then
    let n := Nat.ofDigitChars 10 digits 0
    if n < 65536 then some (UInt16.ofNat n) else none
  else none

/-- The port: the number after the last colon of the whole text, user information included. Text
there that is no port number counts as no port. -/
def port? (text : String) : Option UInt16 := afterLast? ':' text.toList >>= portNumber?

end MacAccess.Http.Authority
