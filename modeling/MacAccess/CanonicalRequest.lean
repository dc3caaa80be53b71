import MacAccess.Authorization
import MacAccess.Http.Request

/-!
# Canonical requests

The fields of a request that a signature covers, each brought to one form: the method in upper
case, the host in lower case, the port filled in from the scheme, the path without its query. The
text to be signed lists them after the timestamp and the nonce, a line each. No field can hold a
newline, so the text tells the fields apart.
-/

namespace MacAccess

/-- Whether a text may stand between quotes in a header and on a line of the signed text: visible
ASCII other than the quote. -/
def isQuotable (text : String) : Bool :=
  (Utf8.encode text).all fun b => 0x21 ≤ b && b ≤ 0x7E && b != 0x22

structure CanonicalRequest where
  method : String
  scheme : String
  host : String
  port : UInt16
  path : String
  deriving DecidableEq

namespace CanonicalRequest

/-- The port of a scheme. -/
def defaultPort (scheme : String) : UInt16 := if scheme.toLower = "https" then 443 else 80

def missingHost (uri : Http.Uri) : Failure :=
  .requestInvalid ("request without host is invalid for signing: " ++ uri.render)

/-- The canonical form of a request, which must name a host. -/
def ofRequest (r : Http.Request) : Except Failure CanonicalRequest :=
  match r.uri.host? with
  | none => .error (missingHost r.uri)
  | some host =>
    if host.isEmpty then .error (missingHost r.uri)
    else
      let scheme := r.uri.scheme.getD "http"
      .ok {
        method := r.method.toUpper
        scheme
        host := host.toLower
        port := r.uri.port?.getD (defaultPort scheme)
        path := r.uri.path }

/-- The lines of the signed text, the empty one at its end included. -/
def lines (r : CanonicalRequest) (timestamp : Timestamp) (nonce : String) : List String :=
  [toString timestamp.toInt, nonce, r.method, r.path, r.host, toString r.port.toNat, ""]

/-- The signed text. -/
def text (r : CanonicalRequest) (timestamp : Timestamp) (nonce : String) : String :=
  String.join ((r.lines timestamp nonce).map (· ++ "\n"))

def nonceNotQuotable : Failure := .signingFailure "nonce must be visible ASCII without `\"`"

/-- The signed text, noted in the journal, for a nonce that can stand in it. -/
def signedText (r : CanonicalRequest) (timestamp : Timestamp) (nonce : String) :
    Noted (Except Failure String) :=
  if isQuotable nonce then
    let text := r.text timestamp nonce
    ⟨.ok text, [.debug ("string to sign: " ++ Text.quoted text)]⟩
  else .silently (.error nonceNotQuotable)

end CanonicalRequest

end MacAccess
