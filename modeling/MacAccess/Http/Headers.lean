import MacAccess.Bytes
import MacAccess.Text.Utf8
import MacAccess.Http.Malformed

/-!
# Headers

A list of fields in the order in which they were added. A name may occur more than once; reading a
name finds its first value, and replacing a name removes all its values first, so that the new
value is the only one.

A list may be of any length. A map of headers in memory has a greatest size, and an insertion beyond
it ends the program; this limit is left out.
-/

namespace MacAccess.Http

/-- Whether an octet may occur in a token, the form of methods and header names. -/
def isTokenOctet (b : UInt8) : Bool :=
  Octet.isAlphanumeric b || Octet.isOneOf "!#$%&'*+-.^_\x60|~" b

/-- A header value: octets, and whether they must be kept out of sight. -/
structure HeaderValue where
  octets : Bytes
  sensitive : Bool
  deriving DecidableEq

namespace HeaderValue

/-- Whether an octet may occur in a header value: a tab, or no control. -/
def isAllowed (b : UInt8) : Bool := b == 0x09 || (0x20 ≤ b && b != 0x7F)

/-- Whether an octet of a header value is text: a tab, a space or visible ASCII. -/
def isText (b : UInt8) : Bool := b == 0x09 || (0x20 ≤ b && b ≤ 0x7E)

def ofOctets? (octets : Bytes) : Option HeaderValue :=
  if octets.all isAllowed then some ⟨octets, false⟩ else none

def ofText? (text : String) : Option HeaderValue := ofOctets? (Utf8.encode text)

/-- The value as text, if all of it is ASCII text. -/
def text? (v : HeaderValue) : Option String :=
  if v.octets.all isText then some (Octet.asciiText v.octets) else none

end HeaderValue

/-- The header name that octets spell, in lower case. -/
def headerName? (octets : Bytes) : Option String :=
  if octets ≠ [] ∧ octets.length ≤ 65535 ∧ octets.all isTokenOctet then
    some (Octet.asciiText (octets.map Octet.toLower))
  else none

/-- Fields in order, each a lower-case name and a value. -/
abbrev Headers := List (String × HeaderValue)

namespace Headers

/-- All values of a name, in order. -/
def values (hs : Headers) (name : String) : List HeaderValue :=
  (hs.filter fun f => f.1 == name).map (·.2)

/-- The first value of a name. -/
def get? (hs : Headers) (name : String) : Option HeaderValue := (hs.values name).head?

/-- The headers with one more field at the end. -/
def append (hs : Headers) (name : String) (value : HeaderValue) : Headers := hs ++ [(name, value)]

/-- The headers with `value` as the only value of a name. -/
def replace (hs : Headers) (name : String) (value : HeaderValue) : Headers :=
  append (hs.filter fun f => f.1 != name) name value

/-- The headers that pairs of octet sequences spell. A bad name is found before a bad value. -/
def ofOctets : List (Bytes × Bytes) → Except Malformed Headers
  | [] => .ok []
  | (name, value) :: rest =>
    match headerName? name, HeaderValue.ofOctets? value with
    | none, _ => .error .headerName
    | some _, none => .error .headerValue
    | some n, some v => (ofOctets rest).map ((n, v) :: ·)

end Headers

end MacAccess.Http
