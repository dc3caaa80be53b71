import MacAccess.Script
import MacAccess.Verification

/-!
# Signing

Adds the authorization of a credential to a request. All that can fail comes before the one change
to the request, so a request is either signed or left as it was. The outcome holds the request in
both cases.
-/

namespace MacAccess

/-- What became of a request: the request itself, and whether it was signed. -/
structure Outcome where
  request : Http.Request
  verdict : Except Failure Unit

namespace Signing

def missingCredential : Failure := .credentialUnavailable "missing credential"

def identityNotQuotable : Failure :=
  .credentialInvalid "identity must be visible ASCII without `\"`"

def clockBeforeEpoch (t : Timestamp) : Failure :=
  .signingFailure s!"clock returned a timestamp before the unix epoch: {t.toInt}"

def notAHeaderValue : Failure :=
  (Failure.signingFailure "authorization is not a valid header value").dueTo
    (.note Http.Malformed.headerValue.text)

/-- A request left as it was. -/
def refused (r : Http.Request) (f : Failure) : Outcome := ⟨r, .error f⟩

/-- What the surroundings need not be asked for: a credential that can sign, and the canonical form
of the request. -/
def prepare (r : Http.Request) : Option Credential → Except Failure (Credential × CanonicalRequest)
  | none => .error missingCredential
  | some c =>
    if c.secret.isEmpty then .error emptySecret
    else if !isQuotable c.identity then .error identityNotQuotable
    else (CanonicalRequest.ofRequest r).map fun canonical => (c, canonical)

/-- The authorization that a credential gives to a signed text. -/
def authorization (c : Credential) (t : Timestamp) (nonce text : String) : Authorization :=
  ⟨c.identity, t, nonce, Signature.mac c.secret text⟩

/-- The request with an authorization, kept out of sight, as its only one. -/
def attach (r : Http.Request) (a : Authorization) : Outcome :=
  match Http.HeaderValue.ofText? a.render with
  | none => refused r notAHeaderValue
  | some value => ⟨r.authorize { value with sensitive := true }, .ok ()⟩

end Signing

/-- Signs a request with a credential. -/
def sign (r : Http.Request) (credential? : Option Credential) : Script Outcome :=
  match Signing.prepare r credential? with
  | .error f => .done (Signing.refused r f)
  | .ok (c, canonical) =>
    .readClock fun t =>
      if t < 0 then .done (Signing.refused r (Signing.clockBeforeEpoch t))
      else .drawNonce fun nonce =>
        .noted (canonical.signedText t nonce) fun
          | .error f => .done (Signing.refused r f)
          | .ok text => .done (Signing.attach r (Signing.authorization c t nonce text))

end MacAccess
