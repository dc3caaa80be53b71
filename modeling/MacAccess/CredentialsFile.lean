import MacAccess.Credential
import MacAccess.Toml.Document

/-!
# Credentials files

A TOML document with an identity and a secret at its top, and any number of named profiles with an
identity and a secret each. A profile may also be written as an array of the two. Keys that are not
known are passed over, but known keys must hold what they are meant to hold.
-/

namespace MacAccess

/-- A part of a credentials file that may name an identity and a secret. -/
structure Section where
  identity : Option String
  secret : Option String
  deriving DecidableEq

structure CredentialsFile where
  top : Section
  profiles : List (String × Section)
  deriving DecidableEq

namespace Section

def credential? (s : Section) : Option Credential :=
  match s.identity, s.secret with
  | some identity, some secret => some ⟨identity, secret⟩
  | _, _ => none

/-- The string that a key is bound to, or its absence; any other value is refused. -/
def string? (es : Toml.Entries) (key : String) : Option (Option String) :=
  match es.lookup key with
  | none => some none
  | some (.string text) => some (some text)
  | some _ => none

def ofEntries? (es : Toml.Entries) : Option Section := do
  let identity ← string? es "identity"
  let secret ← string? es "credential"
  return ⟨identity, secret⟩

/-- A profile: a table, or an array that starts with the two strings. A date counts as a table
without known keys. -/
def ofValue? : Toml.Value → Option Section
  | .table _ es => ofEntries? es
  | .array (.string identity :: .string secret :: _) => some ⟨some identity, some secret⟩
  | .datetime _ => some ⟨none, none⟩
  | _ => none

end Section

namespace CredentialsFile

/-- The profile that the top of the file stands in for. -/
def defaultProfile : String := "default"

def profiles? (es : Toml.Entries) : Option (List (String × Section)) :=
  match es.lookup "profile" with
  | none => some []
  | some (.table _ profiles) =>
    profiles.mapM fun p => (Section.ofValue? p.2).map fun s => (p.1, s)
  | some _ => none

def ofEntries? (es : Toml.Entries) : Option CredentialsFile := do
  let top ← Section.ofEntries? es
  let profiles ← profiles? es
  return ⟨top, profiles⟩

/-- The credentials file that a text spells. -/
def parse? (text : String) : Option CredentialsFile := Toml.parse? text >>= ofEntries?

/-- The section of a profile: its own, and for the default profile without one the top. -/
def section? (f : CredentialsFile) (profile : String) : Option Section :=
  match f.profiles.lookup profile with
  | some s => some s
  | none => if profile = defaultProfile then some f.top else none

end CredentialsFile

end MacAccess
