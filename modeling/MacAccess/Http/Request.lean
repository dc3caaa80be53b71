import MacAccess.Http.Headers
import MacAccess.Http.Uri

/-!
# Requests

The head of an HTTP request (method, URI and headers), and a message that carries a body with it.
A request is built from octets part by part, and the first malformed part is the one reported.
-/

namespace MacAccess.Http

structure Request where
  method : String
  uri : Uri
  headers : Headers
  deriving DecidableEq

/-- The name of the header that carries the signature. -/
def authorizationHeader : String := "authorization"

def method? (octets : Bytes) : Option String :=
  if octets ≠ [] ∧ octets.all isTokenOctet then some (Octet.asciiText octets) else none

namespace Request

/-- The request with these parts, read in the order method, URI, headers. -/
def build (method uri : Bytes) (headers : List (Bytes × Bytes)) : Except Malformed Request :=
  match method? method, Uri.ofOctets uri, Headers.ofOctets headers with
  | none, _, _ => .error .method
  | some _, .error flaw, _ => .error (.uri flaw)
  | some _, .ok _, .error malformed => .error malformed
  | some m, .ok u, .ok hs => .ok ⟨m, u, hs⟩

/-- The authorization that a reader of the request goes by: the first one. -/
def authorization? (r : Request) : Option HeaderValue := r.headers.get? authorizationHeader

/-- The request with `value` as its only authorization. -/
def authorize (r : Request) (value : HeaderValue) : Request :=
  { r with headers := r.headers.replace authorizationHeader value }

end Request

/-- A request with its body, which signing neither reads nor changes. -/
structure Message where
  head : Request
  body : String
  deriving DecidableEq

end MacAccess.Http
