import MacAccess.Base64

/-!
# Nonces

A nonce is a text for use in one signature only, so that a captured request cannot be sent again.
A random nonce is the Base64 text of enough random octets.
-/

namespace MacAccess

/-- The fewest octets of a random nonce: 96 bits make a repetition unlikely. -/
def minNonceOctets : Nat := 12

/-- A generator of nonces of a fixed number of random octets. -/
structure RandomNonce where
  length : Nat
  enough : minNonceOctets ≤ length
  deriving DecidableEq

namespace RandomNonce

def standard : RandomNonce := ⟨minNonceOctets, Nat.le_refl _⟩

def ofLength (length : Nat) : Except Failure RandomNonce :=
  if h : minNonceOctets ≤ length then .ok ⟨length, h⟩
  else .error (.configInvalid
    s!"nonce length {length} is shorter than the minimum of {minNonceOctets} bytes")

/-- The nonce made of octets drawn at random. -/
def ofDraw (octets : Bytes) : String := Base64.encode octets

end RandomNonce

end MacAccess
