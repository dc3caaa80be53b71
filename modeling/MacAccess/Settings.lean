import MacAccess.Context
import MacAccess.CredentialsFile

/-!
# Settings

Where credentials are looked for. Each setting is explicit, or comes from a variable of the
environment, or has a default; an explicit empty text is explicit all the same.
-/

namespace MacAccess

namespace Variable

def identity : String := "BRACKET_IDENTITY"

def credential : String := "BRACKET_CREDENTIAL"

def configFile : String := "BRACKET_CONFIG_FILE"

def profile : String := "BRACKET_PROFILE"

/-- The variables that settings are taken from. -/
def all : List String := [identity, credential, configFile, profile]

end Variable

def defaultCredentialsPath : String := "~/.bracket/credentials.toml"

/-- The portal that requests are meant for. -/
def portalEndpoint : String := "https://portal.brkt.com"

def portalVersion : String := "1"

structure Settings where
  identity : Option String := none
  credential : Option String := none
  configFile : Option String := none
  profile : Option String := none
  deriving DecidableEq

namespace Settings

variable {σ : Type}

/-- The settings with the missing ones taken from the environment. -/
def fromEnvironment (s : Settings) (c : Context) (h : Host σ) : Settings where
  identity := s.identity.or (c.variableText? h Variable.identity)
  credential := s.credential.or (c.variableText? h Variable.credential)
  configFile := s.configFile.or (c.variableText? h Variable.configFile)
  profile := s.profile.or (c.variableText? h Variable.profile)

def effectiveConfigFile (s : Settings) : String := s.configFile.getD defaultCredentialsPath

def effectiveProfile (s : Settings) : String := s.profile.getD CredentialsFile.defaultProfile

/-- The credential that the settings hold themselves. -/
def credential? (s : Settings) : Option Credential :=
  match s.identity, s.credential with
  | some identity, some secret => some ⟨identity, secret⟩
  | _, _ => none

def outline (s : Settings) : String :=
  Outline.record "Config" [
    ("identity", Outline.optional (s.identity.map Text.redacted)),
    ("credential", Outline.optional (s.credential.map Text.redacted)),
    ("config_file", Outline.optional (s.configFile.map Text.quoted)),
    ("profile", Outline.optional (s.profile.map Text.quoted))]

end Settings

end MacAccess
