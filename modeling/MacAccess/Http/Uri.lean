import MacAccess.Text.Utf8
import MacAccess.Http.Authority

/-!
# URIs

The target of a request in one of three forms: a path alone (`/v1?x`, or the single `*`), an
authority alone (`host:80`), or a scheme with an authority and a path. A fragment is dropped
without a look at it.
-/

namespace MacAccess.Http

/-- A URI by its parts. Only the authority form has an empty path. -/
structure Uri where
  scheme : Option String
  authority : Option String
  path : String
  query : Option String
  deriving DecidableEq

namespace Uri

def maxLength : Nat := 65534

def maxSchemeLength : Nat := 64

/-- The written form. -/
def render (u : Uri) : String :=
  (u.scheme.map (· ++ "://")).getD "" ++ u.authority.getD "" ++ u.path ++
    (u.query.map ("?" ++ ·)).getD ""

def host? (u : Uri) : Option String := u.authority.map Authority.host

def port? (u : Uri) : Option UInt16 := u.authority >>= Authority.port?

/-! ## Reading -/

def isSchemeOctet (b : UInt8) : Bool := Octet.isAlphanumeric b || Octet.isOneOf "+-.~" b

/-- Whether octets start with an ASCII text in lower case, letters counting in either case. -/
def startsWithFolded (text : String) (input : Bytes) : Bool :=
  (text.toList.map fun c => UInt8.ofNat c.toNat).isPrefixOf (input.map Octet.toLower)

/-- The scheme at the start of the input and what follows its `://`, or no scheme and the whole
input. The two schemes of the web are told in any case; others keep their spelling. -/
def splitScheme (input : Bytes) : Except UriFlaw (Option String × Bytes) :=
  if startsWithFolded "http://" input then .ok (some "http", input.drop 7)
  else if startsWithFolded "https://" input then .ok (some "https", input.drop 8)
  else if input.length ≤ 3 then .ok (none, input)
  else
    let name := input.takeWhile isSchemeOctet
    let rest := input.drop name.length
    if rest.take 3 ≠ [0x3A, 0x2F, 0x2F] then .ok (none, input)
    else if name.length > maxSchemeLength then .error .schemeTooLong
    else .ok (some (Octet.asciiText name), rest.drop 3)

/-- Whether an octet may occur in a path. From 0x80 on all may, and it is left to UTF-8 whether they
are text; 0x7F is refused with the other controls, -/
def isPathOctet (b : UInt8) : Bool :=
  b == 0x21 || b == 0x22 || (0x24 ≤ b && b ≤ 0x3B) || b == 0x3D || (0x40 ≤ b && b ≤ 0x5F) ||
    (0x61 ≤ b && b ≤ 0x7E) || 0x80 ≤ b

/-- and so it is in a query. -/
def isQueryOctet (b : UInt8) : Bool :=
  b == 0x21 || (0x24 ≤ b && b ≤ 0x3B) || b == 0x3D || (0x3F ≤ b && b ≤ 0x7E) || 0x80 ≤ b

/-- The text of octets of one class, well-formed as UTF-8. -/
def checkedText (isAllowed : UInt8 → Bool) (octets : Bytes) : Except UriFlaw String :=
  if octets.all isAllowed then
    match Utf8.decode? octets with
    | some text => .ok text
    | none => .error .character
  else .error .character

/-- The path and the query that make up the rest of the input. An empty path is read as `/`. -/
def pathAndQuery (input : Bytes) : Except UriFlaw (String × Option String) := do
  let kept := input.takeWhile (· != 0x23)
  let path ← checkedText isPathOctet (kept.takeWhile (· != 0x3F))
  let query ← match kept.dropWhile (· != 0x3F) with
    | [] => pure none
    | _ :: octets => some <$> checkedText isQueryOctet octets
  return (if path = "" then "/" else path, query)

/-- The URI with a path, and a query if there is one, made up of the whole input. -/
def withPath (scheme authority : Option String) (input : Bytes) : Except UriFlaw Uri :=
  (pathAndQuery input).map fun pq => ⟨scheme, authority, pq.1, pq.2⟩

/-- The URI that is an authority alone. `leftover` is the flaw of an input that goes on after it. -/
def authorityForm (leftover : UriFlaw) (input : Bytes) : Except UriFlaw Uri :=
  match Authority.split input with
  | .error flaw => .error flaw
  | .ok (authority, []) => .ok ⟨none, some (Octet.asciiText authority), "", none⟩
  | .ok (_, _ :: _) => .error leftover

/-- The URI of a scheme with an input that starts with the authority. -/
def absoluteForm (scheme : String) (input : Bytes) : Except UriFlaw Uri :=
  match Authority.split input with
  | .error flaw => .error flaw
  | .ok ([], _) => .error .format
  | .ok (authority, rest) => withPath (some scheme) (some (Octet.asciiText authority)) rest

/-- The URI that octets spell. -/
def ofOctets (input : Bytes) : Except UriFlaw Uri :=
  if input.length > maxLength then .error .tooLong
  else if input = [] then .error .empty
  else if input = [0x2A] then .ok ⟨none, none, "*", none⟩
  else if input.head? = some 0x2F then withPath none none input
  else if input.length = 1 then authorityForm .character input
  else match splitScheme input with
    | .error flaw => .error flaw
    | .ok (_, []) => .error .empty
    | .ok (none, rest) => authorityForm .format rest
    | .ok (some scheme, rest) => absoluteForm scheme rest

end Uri

end MacAccess.Http
