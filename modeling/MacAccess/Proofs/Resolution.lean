import MacAccess.Proofs.Provider

/-!
# Where the usual credential comes from

The usual provider knows two layers. One is the settings with the environment behind them, field by
field: a setting that is explicit counts even if it is empty. The other is a profile of the
credentials file. The answer is the credential of the first layer that has both an identity and a
secret, neither of them empty. Layers are not mixed, what is wrong with the file is no failure, and
a layer that comes to nothing does not stand in the way of the other.
-/

namespace MacAccess

variable {σ : Type}

/-! ## Credentials by their parts -/

/-- Whether two texts that may be missing are the identity and the secret of a usable credential. -/
structure Credential.IsMadeOf (identity secret : Option String) (c : Credential) : Prop where
  identity : identity = some c.identity
  secret : secret = some c.secret
  identity_ne : c.identity ≠ ""
  secret_ne : c.secret ≠ ""

theorem Credential.isValid_iff (c : Credential) :
    c.isValid = true ↔ c.identity ≠ "" ∧ c.secret ≠ "" := by
  simp [isValid]

/-- A layer answers what it is made of, and a valid credential is made of texts that are not
empty. -/
theorem Credential.isMadeOf_iff {identity secret : Option String} {credential : Credential} :
    credential.IsMadeOf identity secret ↔
      (identity = some credential.identity ∧ secret = some credential.secret) ∧
        credential.isValid = true := by
  rw [isValid_iff]
  constructor
  · rintro ⟨hidentity, hsecret, hi, hk⟩
    exact ⟨⟨hidentity, hsecret⟩, hi, hk⟩
  · rintro ⟨⟨hidentity, hsecret⟩, hi, hk⟩
    exact ⟨hidentity, hsecret, hi, hk⟩

theorem Section.credential?_eq_some_iff {part : Section} {credential : Credential} :
    part.credential? = some credential ↔
      part.identity = some credential.identity ∧ part.secret = some credential.secret := by
  rcases part with ⟨_ | identity, _ | secret⟩
  · simp [credential?]
  · simp [credential?]
  · simp [credential?]
  · rcases credential with ⟨i, k⟩
    simp [credential?]

/-! ## Layers -/

namespace CredentialsFile

/-- Whether a part of the file is the one for a profile: the one of this name, or else the top for
the default profile. -/
def Selects (f : CredentialsFile) (profile : String) (part : Section) : Prop :=
  f.profiles.lookup profile = some part ∨
    (f.profiles.lookup profile = none ∧ profile = "default" ∧ part = f.top)

theorem section?_eq_some_iff {f : CredentialsFile} {profile : String} {part : Section} :
    f.section? profile = some part ↔ f.Selects profile part := by
  unfold section? Selects
  cases f.profiles.lookup profile with
  | some own => simp
  | none =>
      by_cases hdefault : profile = "default"
      · simp [defaultProfile, hdefault, eq_comm]
      · simp [defaultProfile, hdefault]

end CredentialsFile

namespace Settings

/-- The value of a setting: the explicit one, even an empty one, and otherwise the one of the
environment. -/
def effective (c : Context) (h : Host σ) (explicit : Option String) (name : String) :
    Option String :=
  match explicit with
  | some value => some value
  | none => c.variableText? h name

theorem or_variableText? (c : Context) (h : Host σ) (explicit : Option String) (name : String) :
    explicit.or (c.variableText? h name) = effective c h explicit name := by
  cases explicit with
  | none => rfl
  | some value => rfl

theorem fromEnvironment_eq (s : Settings) (c : Context) (h : Host σ) :
    s.fromEnvironment c h =
      ⟨effective c h s.identity "BRACKET_IDENTITY", effective c h s.credential "BRACKET_CREDENTIAL",
        effective c h s.configFile "BRACKET_CONFIG_FILE",
        effective c h s.profile "BRACKET_PROFILE"⟩ := by
  simp only [fromEnvironment, or_variableText?]
  rfl

/-- Settings make a credential as a part of a file does. -/
theorem credential?_eq_some_iff {s : Settings} {credential : Credential} :
    s.credential? = some credential ↔
      s.identity = some credential.identity ∧ s.credential = some credential.secret := by
  have hpart : s.credential? = Section.credential? ⟨s.identity, s.credential⟩ := rfl
  rw [hpart, Section.credential?_eq_some_iff]

/-- The credential of the first layer: what the settings and the environment hold, if that is
usable. -/
def Given (s : Settings) (c : Context) (h : Host σ) (credential : Credential) : Prop :=
  credential.IsMadeOf (effective c h s.identity "BRACKET_IDENTITY")
    (effective c h s.credential "BRACKET_CREDENTIAL")

/-- The credential of the second layer: what the profile holds in the credentials file, if there is
such a file, it is well formed, and that is usable. -/
def Filed (s : Settings) (c : Context) (h : Host σ) (credential : Credential) : Prop :=
  ∃ path content file part,
    c.expandHome? h ((effective c h s.configFile "BRACKET_CONFIG_FILE").getD
      "~/.bracket/credentials.toml") = some path ∧
    c.fileText h path = .ok content ∧
    CredentialsFile.parse? content = some file ∧
    file.Selects ((effective c h s.profile "BRACKET_PROFILE").getD "default") part ∧
    credential.IsMadeOf part.identity part.secret

end Settings

namespace Provider

variable (s : Settings) (c : Context) (h : Host σ)

/-! ## What each layer answers -/

/-- The file has a credential only where each step on the way to it succeeds. -/
theorem profileAnswer_eq_some_iff (credential : Credential) :
    (profileAnswer c h s).value = .ok (some credential) ↔
      ∃ path content file part,
        c.expandHome? h (s.fromEnvironment c h).effectiveConfigFile = some path ∧
        c.fileText h path = .ok content ∧
        CredentialsFile.parse? content = some file ∧
        file.section? (s.fromEnvironment c h).effectiveProfile = some part ∧
        part.credential? = some credential := by
  unfold profileAnswer
  cases hpath : c.expandHome? h (s.fromEnvironment c h).effectiveConfigFile with
  | none => simp [hpath, Noted.silently]
  | some path =>
    cases hcontent : c.fileText h path with
    | error f => simp [hpath, hcontent]
    | ok content =>
      cases hfile : CredentialsFile.parse? content with
      | none => simp [hpath, hcontent, hfile, Noted.silently]
      | some file =>
        cases hpart : file.section? (s.fromEnvironment c h).effectiveProfile with
        | none => simp [hpath, hcontent, hfile, hpart, profileAnswer.ofFile]
        | some part =>
          cases hcredential : part.credential? with
          | none => simp [hpath, hcontent, hfile, hpart, hcredential, profileAnswer.ofFile]
          | some own => simp [hpath, hcontent, hfile, hpart, hcredential, profileAnswer.ofFile]

theorem accepted?_environment (credential : Credential) :
    accepted? (provide c (.environment s) h).1 = some credential ↔ s.Given c h credential := by
  rw [accepted?_eq_some_iff, Settings.Given, Credential.isMadeOf_iff]
  show Except.ok (s.fromEnvironment c h).credential? = Except.ok (some credential) ∧ _ ↔ _
  rw [Except.ok.injEq, Settings.credential?_eq_some_iff, Settings.fromEnvironment_eq]

theorem accepted?_profile (credential : Credential) :
    accepted? (provide c (.profile s) h).1 = some credential ↔ s.Filed c h credential := by
  rw [accepted?_eq_some_iff]
  show (profileAnswer c h s).value = _ ∧ _ ↔ _
  rw [profileAnswer_eq_some_iff, Settings.fromEnvironment_eq]
  constructor
  · rintro ⟨⟨path, content, file, part, hpath, hcontent, hfile, hpart, hcredential⟩, hvalid⟩
    refine ⟨path, content, file, part, hpath, hcontent, hfile, ?_, ?_⟩
    · exact CredentialsFile.section?_eq_some_iff.mp hpart
    · exact Credential.isMadeOf_iff.mpr ⟨Section.credential?_eq_some_iff.mp hcredential, hvalid⟩
  · rintro ⟨path, content, file, part, hpath, hcontent, hfile, hpart, hmade⟩
    obtain ⟨hcredential, hvalid⟩ := Credential.isMadeOf_iff.mp hmade
    refine ⟨⟨path, content, file, part, hpath, hcontent, hfile, ?_, ?_⟩, hvalid⟩
    · exact CredentialsFile.section?_eq_some_iff.mpr hpart
    · exact Section.credential?_eq_some_iff.mpr hcredential

/-! ## Both layers -/

/-- The usual provider answers what its first layer is accepted for, or else its second. -/
theorem provide_standard :
    (provide c (.standard s) h).1 =
      .ok ((accepted? (provide c (.environment s) h).1).or
        (accepted? (provide c (.profile s) h).1)) := by
  have hrow := congrArg (fun row => row.2.1) (askInTurn_of_isChain c (p := .standard s) trivial h)
  have henvironment := (provide_leaf_unnoted c (p := .environment s) id h).1
  have hprofile := (provide_leaf_unnoted c (p := .profile s) id h).1
  rw [henvironment, hprofile, ← hrow]
  show (askInTurn c [.environment s, .profile s] h.unnoted).2.1 = _
  -- Asking the first layer leaves the host as it is.
  have hafter : (provide c (.environment s) h.unnoted).2.unnoted = h.unnoted := rfl
  cases hfirst : accepted? (provide c (.environment s) h.unnoted).1 with
  | some credential => rw [askInTurn_cons_of_some c hfirst, Option.some_or]
  | none =>
      rw [askInTurn_cons_of_none c hfirst, hafter, Option.none_or]
      cases hsecond : accepted? (provide c (.profile s) h.unnoted).1 with
      | some credential => rw [askInTurn_cons_of_some c hsecond]
      | none =>
          rw [askInTurn_cons_of_none c hsecond]
          rfl

/-- **The usual provider never fails, and takes its credential from one layer.** It answers the
credential of the settings and the environment if that is usable, or else the one of the credentials
file if that is, or else none. -/
theorem provide_standard_layered :
    ∃ found, (provide c (.standard s) h).1 = .ok found ∧
      ∀ credential, found = some credential ↔
        s.Given c h credential ∨ (¬ (∃ other, s.Given c h other) ∧ s.Filed c h credential) := by
  refine ⟨_, provide_standard s c h, fun credential => ?_⟩
  simp only [← accepted?_environment, ← accepted?_profile]
  cases accepted? (provide c (.environment s) h).1 with
  | some given => simp
  | none => simp

/-- A host with an identity but an empty secret in its variables, and both in a file. -/
def halfSet : Host Unit where
  vars := [("HOME", Utf8.encode "/home/me"), ("BRACKET_IDENTITY", Utf8.encode "uuid"),
    ("BRACKET_CREDENTIAL", [])]
  files := [("/home/me/.bracket/credentials.toml",
    Utf8.encode "identity = \"file-uuid\"\ncredential = \"file-apikey\"\n")]
  time := fun _ => 0
  entropy := fun _ _ => []
  clockReads := 0
  nonceDraws := 0
  foreign := ()
  journal := []

example : (provide .standard (.standard {}) halfSet).1 =
    .ok (some ⟨"file-uuid", "file-apikey"⟩) := by
  decide +kernel

end Provider

end MacAccess
