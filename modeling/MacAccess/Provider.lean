import MacAccess.Script
import MacAccess.Settings

/-!
# Credential providers

Where a credential comes from: a fixed one, the settings and the environment, a profile in a
credentials file, a foreign party, or a chain of providers. A chain asks its providers in order and
takes the first valid credential; a provider that fails or has none is passed over. So a chain
never fails, and one within another does as its members would in its place.
-/

namespace MacAccess

/-- A provider. A foreign one is known by its outline and changes the foreign state `σ`. -/
inductive Provider (σ : Type) where
  | fixed (credential : Credential)
  | environment (settings : Settings)
  | profile (settings : Settings)
  | chain (providers : List (Provider σ))
  | layered (providers : List (Provider σ))
  | foreign (outline : String) (ask : σ → Answer × σ)

/-- Providers in the order in which they are asked. -/
abbrev Chain (σ : Type) := List (Provider σ)

namespace Chain

variable {σ : Type}

def push (ps : Chain σ) (p : Provider σ) : Chain σ := ps ++ [p]

def pushFront (ps : Chain σ) (p : Provider σ) : Chain σ := p :: ps

/-- The settings and the environment first, then the credentials file. -/
def standard (s : Settings) : Chain σ := [.environment s, .profile s]

end Chain

namespace Provider

variable {σ : Type}

/-- The provider that looks wherever credentials are kept by custom. -/
def standard (s : Settings) : Provider σ := .layered (Chain.standard s)

/-! ## Outlines -/

/-- The outline of a chain with these members. -/
def chainOutline (members : List String) : String :=
  Outline.record "ProvideCredentialChain" [("providers", Outline.listing members)]

mutual

def outline : Provider σ → String
  | .fixed c => Outline.record "StaticCredentialProvider" [("credential", c.outline)]
  | .environment s => Outline.record "EnvCredentialProvider" [("config", s.outline)]
  | .profile s => Outline.record "ProfileCredentialProvider" [("config", s.outline)]
  | .chain ps => chainOutline (outlines ps)
  | .layered ps =>
    Outline.record "DefaultCredentialProvider" [("chain", chainOutline (outlines ps))]
  | .foreign name _ => name

def outlines : List (Provider σ) → List String
  | [] => []
  | p :: ps => p.outline :: outlines ps

end

/-! ## Profiles -/

/-- The credential of a profile in the credentials file. A file that cannot be read, a profile that
is not there and one that is incomplete give none; a file that is malformed is a failure. -/
def profileAnswer (c : Context) (h : Host σ) (settings : Settings) : Noted Answer :=
  let s := settings.fromEnvironment c h
  match c.expandHome? h s.effectiveConfigFile with
  | none =>
    .silently (.error (.unexpected s!"failed to expand home dir for {s.effectiveConfigFile}"))
  | some path =>
    match c.fileText h path with
    | .error _ =>
      ⟨.ok none, [.debug s!"bracket credentials file not found at {Text.quoted path}"]⟩
    | .ok content =>
      match CredentialsFile.parse? content with
      | none =>
        .silently (.error
          ((Failure.configInvalid s!"failed to parse credentials file {path}").dueTo
            .malformedToml))
      | some file => ofFile file s.effectiveProfile path
where
  ofFile (file : CredentialsFile) (profile path : String) : Noted Answer :=
    match file.section? profile with
    | none => ⟨.ok none, [.debug s!"profile {profile} not found in {Text.quoted path}"]⟩
    | some part =>
      match part.credential? with
      | some credential =>
        ⟨.ok (some credential),
          [.debug s!"loaded bracket credential from profile {profile} in {Text.quoted path}"]⟩
      | none =>
        ⟨.ok none, [.debug s!"incomplete profile {profile} in {Text.quoted path}, skipping"]⟩

/-! ## Asking -/

/-- The record of a provider about to be asked. -/
def trying (outline : String) : Record := .debug s!"trying credential provider: {outline}"

/-- The record of what a provider answered. -/
def reaction (outline : String) : Answer → Record
  | .ok (some credential) =>
    if credential.isValid then .debug s!"loaded credential from provider: {outline}"
    else .debug s!"provider {outline} returned an invalid credential, skipped"
  | .ok none => .debug s!"no credential found in provider: {outline}"
  | .error _ => .warn s!"error loading credential from provider {outline}"

/-- The credential that ends a chain. -/
def accepted? : Answer → Option Credential
  | .ok (some credential) => if credential.isValid then some credential else none
  | _ => none

mutual

/-- What a provider answers, and the host after it was asked. -/
def provide (c : Context) : Provider σ → Host σ → Answer × Host σ
  | .fixed credential, h => (.ok (some credential), h)
  | .environment s, h => (.ok (s.fromEnvironment c h).credential?, h)
  | .profile s, h =>
    let noted := profileAnswer c h s
    (noted.value, h.note noted.records)
  | .chain ps, h => provideFirst c ps h
  | .layered ps, h => provideFirst c ps h
  | .foreign _ ask, h =>
    let (answer, state) := ask h.foreign
    (answer, { h with foreign := state })

/-- What a chain of providers answers. -/
def provideFirst (c : Context) : List (Provider σ) → Host σ → Answer × Host σ
  | [], h => (.ok none, h)
  | p :: ps, h =>
    let (answer, h) := provide c p (h.note [trying p.outline])
    let h := h.note [reaction p.outline answer]
    match accepted? answer with
    | some credential => (.ok (some credential), h)
    | none => provideFirst c ps h

end

end Provider

end MacAccess
