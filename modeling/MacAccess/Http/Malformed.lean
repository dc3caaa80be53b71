import MacAccess.Failure

/-!
# Malformed parts of a request

What can be wrong with the octets offered as a method, a URI or a header, and the failure that
reports it.
-/

namespace MacAccess.Http

inductive UriFlaw where
  | empty
  | tooLong
  | schemeTooLong
  | character
  | authority
  | format
  deriving DecidableEq

def UriFlaw.text : UriFlaw → String
  | .empty => "empty string"
  | .tooLong => "uri too long"
  | .schemeTooLong => "scheme too long"
  | .character => "invalid uri character"
  | .authority => "invalid authority"
  | .format => "invalid format"

inductive Malformed where
  | method
  | uri (flaw : UriFlaw)
  | headerName
  | headerValue
  | headerText
  deriving DecidableEq

def Malformed.text : Malformed → String
  | .method => "invalid HTTP method"
  | .uri flaw => flaw.text
  | .headerName => "invalid HTTP header name"
  | .headerValue => "failed to parse header value"
  | .headerText => "failed to convert header to a str"

/-- The failure that reports a malformed part, with the finding itself as its cause. -/
def Malformed.failure (m : Malformed) : Failure := .echoing .requestInvalid m.text

end MacAccess.Http
