import MacAccess.CanonicalRequest
import MacAccess.Digest.Hmac

/-!
# Verification

Whether a request carries a signature that a secret made for it. What is malformed is refused with
a failure. A signature that is merely wrong, unreadable as Base64 included, gives `false`.
-/

namespace MacAccess

namespace Signature

/-- The Base64 tag of a text under a secret. -/
def mac (secret text : String) : String :=
  Base64.encode (Hmac.tag (Utf8.encode secret) (Utf8.encode text))

/-- Whether a Base64 text is the tag of a text under a secret. -/
def checks (secret text mac : String) : Bool :=
  match Base64.decode? mac with
  | some tag => Hmac.verify (Utf8.encode secret) (Utf8.encode text) tag
  | none => false

end Signature

def emptySecret : Failure := .signingFailure "hmac-sha256 requires a non-empty secret"

namespace Verification

def missingAuthorization : Failure := .requestInvalid "request has no authorization header"

/-- The authorization of a request: the first one, if it is well formed. -/
def authorization (r : Http.Request) : Except Failure Authorization :=
  match r.authorization? with
  | none => .error missingAuthorization
  | some value =>
    match value.text? with
    | none => .error Http.Malformed.headerText.failure
    | some text => Authorization.read text

end Verification

/-- Whether the authorization of a request was made for it with a secret. -/
def verify (r : Http.Request) (secret : String) : Noted (Except Failure Bool) :=
  if secret.isEmpty then .silently (.error emptySecret)
  else
    match Verification.authorization r with
    | .error f => .silently (.error f)
    | .ok a =>
      match CanonicalRequest.ofRequest r with
      | .error f => .silently (.error f)
      | .ok canonical =>
        (canonical.signedText a.timestamp a.nonce).map fun signed =>
          signed.map fun text => Signature.checks secret text a.mac

end MacAccess
