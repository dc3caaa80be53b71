/-!
# Failures

Why an operation was refused: a kind that callers branch on, a message for people, and the chain of
causes, outermost first. Texts that come from outside this library (a TOML reader, a Base64 reader,
the operating system) enter the chain as constructors without wording.
-/

namespace MacAccess

inductive FailureKind where
  | credentialUnavailable
  | credentialInvalid
  | requestInvalid
  | signingFailure
  | configInvalid
  | unexpected
  deriving DecidableEq

/-- All kinds, in the order in which they are documented. -/
def FailureKind.all : List FailureKind :=
  [.credentialUnavailable, .credentialInvalid, .requestInvalid, .signingFailure, .configInvalid,
    .unexpected]

def FailureKind.describe : FailureKind → String
  | .credentialUnavailable => "credential unavailable"
  | .credentialInvalid => "invalid credentials"
  | .requestInvalid => "invalid request for signing"
  | .signingFailure => "signing failure"
  | .configInvalid => "invalid configuration"
  | .unexpected => "unexpected error"

/-- A failure without what caused it. -/
structure Complaint where
  kind : FailureKind
  message : String
  deriving DecidableEq

def Complaint.text (c : Complaint) : String := c.kind.describe ++ ": " ++ c.message

/-- One link of the chain of causes. -/
inductive Cause where
  | complaint (c : Complaint)
  | note (text : String)
  | malformedToml
  | malformedBase64
  | operatingSystem
  deriving DecidableEq

structure Failure extends Complaint where
  causes : List Cause
  deriving DecidableEq

namespace Failure

def of (kind : FailureKind) (message : String) : Failure := ⟨⟨kind, message⟩, []⟩

/-- The failure with `cause` as its direct cause, and the causes of `cause` after it. -/
def because (f cause : Failure) : Failure :=
  { f with causes := .complaint cause.toComplaint :: cause.causes }

/-- The failure with a cause that has no causes of its own. -/
def dueTo (f : Failure) (cause : Cause) : Failure := { f with causes := [cause] }

/-- A failure whose message is repeated as its only cause. -/
def echoing (kind : FailureKind) (message : String) : Failure :=
  (of kind message).dueTo (.note message)

def credentialUnavailable := of .credentialUnavailable

def credentialInvalid := of .credentialInvalid

def requestInvalid := of .requestInvalid

def signingFailure := of .signingFailure

def configInvalid := of .configInvalid

def unexpected := of .unexpected

/-- Whether the credential is at fault. -/
def isCredentialFailure (f : Failure) : Bool :=
  match f.kind with
  | .credentialUnavailable | .credentialInvalid => true
  | _ => false

/-- Whether signing was refused, so that the request is certain not to have been signed. -/
def isSigningFailure (f : Failure) : Bool :=
  match f.kind with
  | .credentialUnavailable | .credentialInvalid | .requestInvalid | .signingFailure => true
  | _ => false

/-! ## Failures taken over from outside -/

/-- A failure reported as bare text. -/
def reported (text : String) : Failure := echoing .unexpected text

/-- A failure reported by the operating system. -/
def ofSystem (text : String) : Failure := (unexpected text).dueTo .operatingSystem

/-- The failure of writing formatted text. -/
def formatting : Failure :=
  echoing .signingFailure "an error occurred when formatting an argument"

end Failure

end MacAccess
