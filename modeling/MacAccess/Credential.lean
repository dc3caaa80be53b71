import MacAccess.Text.Outline
import MacAccess.Text.Redacted

/-!
# Credentials

An identity with the secret that signs for it. Its outline shows neither in full.
-/

namespace MacAccess

structure Credential where
  identity : String
  secret : String
  deriving DecidableEq

namespace Credential

/-- Whether both parts are there. -/
def isValid (c : Credential) : Bool := !c.identity.isEmpty && !c.secret.isEmpty

/-- Whether there is a credential, and a valid one. -/
def isValidOption : Option Credential → Bool
  | none => false
  | some c => c.isValid

def outline (c : Credential) : String :=
  Outline.record "Credential"
    [("identity", Text.redacted c.identity), ("secret", Text.redacted c.secret)]

end Credential

end MacAccess
