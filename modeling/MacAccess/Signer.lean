import MacAccess.Provider
import MacAccess.Signing

/-!
# Signers

A signer asks its provider for a credential anew for every request and signs with it. Whatever the
provider fails with is reported as a credential that is unavailable, with the provider's failure as
the cause.
-/

namespace MacAccess

structure Signer (σ : Type) where
  context : Context
  provider : Provider σ

namespace Signer

variable {σ α : Type}

/-- A signer for the portal on the file system and the environment of the host. -/
def standard : Signer σ := ⟨.standard, .standard {}⟩

/-- A signer with a fixed credential on the same means. -/
def ofCredential (identity secret : String) : Signer σ := ⟨.standard, .fixed ⟨identity, secret⟩⟩

def outline (s : Signer σ) : String :=
  Outline.record "Signer" [
    ("ctx", s.context.outline), ("loader", s.provider.outline), ("builder", "RequestSigner")]

def loadingFailed : Failure := .credentialUnavailable "failed to load credential"

def notConfigured : Failure := .credentialUnavailable "no credential configured"

/-- Signs a request with the credential that the provider answers. -/
def sign (r : Http.Request) : Script Outcome :=
  .askCredential fun
    | .error f => .done (Signing.refused r (loadingFailed.because f))
    | .ok none => .done (Signing.refused r notConfigured)
    | .ok (some credential) => MacAccess.sign r (some credential)

/-- A signed copy of a message, with the same body. -/
def signed (m : Http.Message) : Script (Except Failure Http.Message) :=
  (sign m.head).map fun outcome => outcome.verdict.map fun _ => ⟨outcome.request, m.body⟩

/-- Runs a script with the signer's provider and context. -/
def run (s : Signer σ) (script : Script α) (h : Host σ) : α × Host σ :=
  script.run (s.provider.provide s.context) s.context h

end Signer

end MacAccess
