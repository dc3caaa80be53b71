import MacAccess.Proofs.Resolution

/-!
# What a profile answers

A profile is looked up in one file, and in one place of that file. Four things can happen: the path
of the file needs a home directory that is not known, the file cannot be read, it is malformed, or
it is a credentials file. Only the first and the third are failures. In a credentials file one
section decides, the one of the profile, or the top of the file for the default profile without one.
What it lacks is not looked for anywhere else, and nothing else in the file matters.
-/

namespace MacAccess

variable {σ : Type}

/-! ## Paths -/

/-- Whether a path starts with a tilde that stands for the home directory. -/
def IsAtHome (path : String) : Prop := "~/".toList <+: path.toList ∨ "~\\".toList <+: path.toList

/-- Only a path at home needs a home directory. -/
theorem Context.expandHome?_eq_none_iff (c : Context) (h : Host σ) (path : String) :
    c.expandHome? h path = none ↔ IsAtHome path ∧ c.home? h = none := by
  unfold expandHome? IsAtHome
  split
  · next rest hpath => simp [hpath]
  · next rest hpath => simp [hpath]
  · next hslash hbackslash =>
    constructor
    · exact nofun
    · rintro ⟨⟨rest, hpath⟩ | ⟨rest, hpath⟩, -⟩
      · exact (hslash rest hpath.symm).elim
      · exact (hbackslash rest hpath.symm).elim

namespace Settings

variable (s : Settings) (c : Context) (h : Host σ)

/-- The path of the credentials file: the explicit one, or that of the environment, or the usual
one. -/
def credentialsPath : String :=
  (effective c h s.configFile "BRACKET_CONFIG_FILE").getD "~/.bracket/credentials.toml"

/-- The name of the profile, in the same way. -/
def profileName : String := (effective c h s.profile "BRACKET_PROFILE").getD "default"

/-- Whether the credentials file can be read, and has this text. -/
def Reads (content : String) : Prop :=
  ∃ place, c.expandHome? h (s.credentialsPath c h) = some place ∧ c.fileText h place = .ok content

theorem effectiveConfigFile_fromEnvironment :
    (s.fromEnvironment c h).effectiveConfigFile = s.credentialsPath c h := by
  rw [fromEnvironment_eq]
  rfl

theorem effectiveProfile_fromEnvironment :
    (s.fromEnvironment c h).effectiveProfile = s.profileName c h := by
  rw [fromEnvironment_eq]
  rfl

variable {s c h}

/-- A text that is read has a place, -/
theorem Reads.place_ne_none {content : String} (hreads : s.Reads c h content) :
    c.expandHome? h (s.credentialsPath c h) ≠ none := by
  obtain ⟨place, hplace, -⟩ := hreads
  exact fun hnone => nomatch hplace.symm.trans hnone

/-- it is what is found there, -/
theorem Reads.fileText_eq {content place : String} (hreads : s.Reads c h content)
    (hplace : c.expandHome? h (s.credentialsPath c h) = some place) :
    c.fileText h place = .ok content := by
  obtain ⟨place', hplace', hcontent⟩ := hreads
  obtain rfl : place = place' := Option.some.inj (hplace.symm.trans hplace')
  exact hcontent

/-- and it is the only one. -/
theorem Reads.unique {content content' : String} (hreads : s.Reads c h content)
    (hreads' : s.Reads c h content') : content = content' := by
  obtain ⟨place, hplace, hcontent⟩ := hreads
  exact Except.ok.inj (hcontent.symm.trans (hreads'.fileText_eq hplace))

end Settings

namespace Provider

/-! ## Four ways to an answer -/

theorem value_ofFile (file : CredentialsFile) (profile place : String) :
    (profileAnswer.ofFile file profile place).value =
      .ok ((file.section? profile).bind Section.credential?) := by
  unfold profileAnswer.ofFile
  cases file.section? profile with
  | none => rfl
  | some part =>
      dsimp only [Option.bind_some]
      cases part.credential? <;> rfl

/-- The ways in which a profile comes to its answer. -/
inductive Consulted (s : Settings) (c : Context) (h : Host σ) : Answer → Prop where
  | homeless {f : Failure} (hplace : c.expandHome? h (s.credentialsPath c h) = none)
      (hkind : f.kind = .unexpected) : Consulted s c h (.error f)
  | unreadable {place : String} {f : Failure}
      (hplace : c.expandHome? h (s.credentialsPath c h) = some place)
      (hfile : c.fileText h place = .error f) : Consulted s c h (.ok none)
  | malformed {content : String} {f : Failure} (hreads : s.Reads c h content)
      (hparse : CredentialsFile.parse? content = none) (hkind : f.kind = .configInvalid) :
      Consulted s c h (.error f)
  | decided {content : String} {file : CredentialsFile} (hreads : s.Reads c h content)
      (hparse : CredentialsFile.parse? content = some file) :
      Consulted s c h (.ok ((file.section? (s.profileName c h)).bind Section.credential?))

/-- **Every profile answers in one of these ways.** -/
theorem consulted_profile (s : Settings) (c : Context) (h : Host σ) :
    Consulted s c h (provide c (.profile s) h).1 := by
  show Consulted s c h (profileAnswer c h s).value
  simp only [profileAnswer, s.effectiveConfigFile_fromEnvironment,
    s.effectiveProfile_fromEnvironment]
  cases hplace : c.expandHome? h (s.credentialsPath c h) with
  | none => exact .homeless hplace rfl
  | some place =>
    dsimp only
    cases hcontent : c.fileText h place with
    | error f => exact .unreadable hplace hcontent
    | ok content =>
      have hreads : s.Reads c h content := ⟨place, hplace, hcontent⟩
      dsimp only
      cases hparse : CredentialsFile.parse? content with
      | none => exact .malformed hreads hparse rfl
      | some file =>
        dsimp only
        rw [value_ofFile]
        exact .decided hreads hparse

namespace Consulted

variable {s : Settings} {c : Context} {h : Host σ} {answer : Answer}

theorem unexpected_iff (hanswer : Consulted s c h answer) :
    (∃ f, answer = .error f ∧ f.kind = .unexpected) ↔
      c.expandHome? h (s.credentialsPath c h) = none := by
  constructor
  · rintro ⟨f, rfl, hunexpected⟩
    cases hanswer with
    | homeless hplace => exact hplace
    | malformed hreads hparse hkind => exact nomatch hkind.symm.trans hunexpected
  · intro hnone
    cases hanswer with
    | homeless hplace hkind => exact ⟨_, rfl, hkind⟩
    | unreadable hplace => exact nomatch hplace.symm.trans hnone
    | malformed hreads | decided hreads => exact absurd hnone hreads.place_ne_none

theorem configInvalid_iff (hanswer : Consulted s c h answer) :
    (∃ f, answer = .error f ∧ f.kind = .configInvalid) ↔
      ∃ content, s.Reads c h content ∧ CredentialsFile.parse? content = none := by
  constructor
  · rintro ⟨f, rfl, hinvalid⟩
    cases hanswer with
    | homeless hplace hkind => exact nomatch hkind.symm.trans hinvalid
    | malformed hreads hparse => exact ⟨_, hreads, hparse⟩
  · rintro ⟨content, hreads, hparse⟩
    cases hanswer with
    | homeless hplace => exact absurd hplace hreads.place_ne_none
    | unreadable hplace hfile => exact nomatch hfile.symm.trans (hreads.fileText_eq hplace)
    | malformed hreads' hparse' hkind => exact ⟨_, rfl, hkind⟩
    | decided hreads' hparse' =>
        obtain rfl := hreads.unique hreads'
        exact nomatch hparse.symm.trans hparse'

theorem kind_eq {f : Failure} (hanswer : Consulted s c h (.error f)) :
    f.kind = .unexpected ∨ f.kind = .configInvalid := by
  cases hanswer with
  | homeless hplace hkind => exact Or.inl hkind
  | malformed hreads hparse hkind => exact Or.inr hkind

theorem eq_none_of_unreadable (hanswer : Consulted s c h answer) {place : String} {f : Failure}
    (hplace : c.expandHome? h (s.credentialsPath c h) = some place)
    (hfile : c.fileText h place = .error f) : answer = .ok none := by
  cases hanswer with
  | homeless hplace' => exact nomatch hplace.symm.trans hplace'
  | unreadable => rfl
  | malformed hreads | decided hreads =>
      exact nomatch hfile.symm.trans (hreads.fileText_eq hplace)

/-- A credentials file answers by its section for the profile. -/
theorem eq_of_parse (hanswer : Consulted s c h answer) {content : String} {file : CredentialsFile}
    (hreads : s.Reads c h content) (hparse : CredentialsFile.parse? content = some file) :
    answer = .ok ((file.section? (s.profileName c h)).bind Section.credential?) := by
  cases hanswer with
  | homeless hplace => exact absurd hplace hreads.place_ne_none
  | unreadable hplace hfile => exact nomatch hfile.symm.trans (hreads.fileText_eq hplace)
  | malformed hreads' hparse' =>
      obtain rfl := hreads.unique hreads'
      exact nomatch hparse.symm.trans hparse'
  | decided hreads' hparse' =>
      obtain rfl := hreads.unique hreads'
      obtain rfl := Option.some.inj (hparse.symm.trans hparse')
      rfl

end Consulted

/-! ## The section that decides -/

theorem credential_of_section_iff {file : CredentialsFile} {profile : String}
    {credential : Credential} :
    (file.section? profile).bind Section.credential? = some credential ↔
      ∃ part, file.Selects profile part ∧ part.identity = some credential.identity ∧
        part.secret = some credential.secret := by
  simp only [Option.bind_eq_some_iff, CredentialsFile.section?_eq_some_iff,
    Section.credential?_eq_some_iff]

theorem section?_congr {file file' : CredentialsFile} {profile : String}
    (h : ∀ part, file.Selects profile part ↔ file'.Selects profile part) :
    file.section? profile = file'.section? profile := by
  ext part
  rw [CredentialsFile.section?_eq_some_iff, CredentialsFile.section?_eq_some_iff, h]

theorem credential?_of_incomplete {part : Section} (h : part.identity = none ∨ part.secret = none) :
    part.credential? = none := by
  rw [Option.eq_none_iff_forall_ne_some]
  intro credential hcredential
  obtain ⟨hidentity, hsecret⟩ := Section.credential?_eq_some_iff.mp hcredential
  rcases h with hnone | hnone
  · exact nomatch hnone.symm.trans hidentity
  · exact nomatch hnone.symm.trans hsecret

/-- **One section of one file decides what a profile answers.** It fails exactly if the path of the
file starts at a home directory that is not known, or if the file can be read and is malformed, and
the kind of the failure tells the two apart. A file that cannot be read gives no credential. A
credentials file gives the identity and the secret of the section that is selected, if there are
both, and none otherwise. A profile of its own that lacks one is not completed from the top, and
files that select the same section for a profile give the same answer, wherever they are found. -/
theorem provide_profile_decided (s : Settings) (c : Context) (h : Host σ) :
    ((∃ f, (provide c (.profile s) h).1 = .error f ∧ f.kind = .unexpected) ↔
      IsAtHome (s.credentialsPath c h) ∧ c.home? h = none) ∧
    ((∃ f, (provide c (.profile s) h).1 = .error f ∧ f.kind = .configInvalid) ↔
      ∃ content, s.Reads c h content ∧ CredentialsFile.parse? content = none) ∧
    (∀ f, (provide c (.profile s) h).1 = .error f →
      f.kind = .unexpected ∨ f.kind = .configInvalid) ∧
    (∀ place f, c.expandHome? h (s.credentialsPath c h) = some place →
      c.fileText h place = .error f → (provide c (.profile s) h).1 = .ok none) ∧
    ∀ content file, s.Reads c h content → CredentialsFile.parse? content = some file →
      (∃ found, (provide c (.profile s) h).1 = .ok found ∧
        ∀ credential, found = some credential ↔
          ∃ part, file.Selects (s.profileName c h) part ∧
            part.identity = some credential.identity ∧ part.secret = some credential.secret) ∧
      (∀ own, file.profiles.lookup (s.profileName c h) = some own →
        own.identity = none ∨ own.secret = none → (provide c (.profile s) h).1 = .ok none) ∧
      ∀ (s' : Settings) (c' : Context) (h' : Host σ) (content' : String) (file' : CredentialsFile),
        s'.Reads c' h' content' → CredentialsFile.parse? content' = some file' →
        s'.profileName c' h' = s.profileName c h →
        (∀ part, file'.Selects (s.profileName c h) part ↔ file.Selects (s.profileName c h) part) →
        (provide c' (.profile s') h').1 = (provide c (.profile s) h).1 := by
  have hanswer := consulted_profile s c h
  refine ⟨?_, hanswer.configInvalid_iff, ?_, ?_, ?_⟩
  · rw [hanswer.unexpected_iff, c.expandHome?_eq_none_iff]
  · intro f hf
    rw [hf] at hanswer
    exact hanswer.kind_eq
  · intro place f hplace hfile
    exact hanswer.eq_none_of_unreadable hplace hfile
  · intro content file hreads hparse
    have heq := hanswer.eq_of_parse hreads hparse
    refine ⟨⟨_, heq, fun credential => credential_of_section_iff⟩, ?_, ?_⟩
    · intro own hown hincomplete
      have hselected : file.section? (s.profileName c h) = some own :=
        CredentialsFile.section?_eq_some_iff.mpr (Or.inl hown)
      rw [heq, hselected, Option.bind_some, credential?_of_incomplete hincomplete]
    · intro s' c' h' content' file' hreads' hparse' hprofile hselects
      have hsection := section?_congr hselects
      rw [heq, (consulted_profile s' c' h').eq_of_parse hreads' hparse', hprofile, hsection]

/-- A file with a usable top, and a default profile of its own that lacks a secret. -/
def halfProfileText : String :=
  "identity = \"uuid\"\ncredential = \"apikey\"\n\n[profile.default]\nidentity = \"other\"\n"

def halfProfileFile : CredentialsFile :=
  ⟨⟨some "uuid", some "apikey"⟩, [("default", ⟨some "other", none⟩)]⟩

/-- A host with this file in its usual place. -/
def halfProfileHost : Host Unit where
  vars := [("HOME", Utf8.encode "/home/me")]
  files := [("/home/me/.bracket/credentials.toml", Utf8.encode halfProfileText)]
  time := fun _ => 0
  entropy := fun _ _ => []
  clockReads := 0
  nonceDraws := 0
  foreign := ()
  journal := []

theorem reads_halfProfileText :
    Settings.Reads {} .standard halfProfileHost halfProfileText :=
  ⟨"/home/me/.bracket/credentials.toml", by decide +kernel, by decide +kernel⟩

theorem provide_profile_decided_half :
    Settings.Reads {} .standard halfProfileHost halfProfileText ∧
      CredentialsFile.parse? halfProfileText = some halfProfileFile ∧
      halfProfileFile.top.credential? = some ⟨"uuid", "apikey"⟩ ∧
      halfProfileFile.profiles.lookup "default" = some ⟨some "other", none⟩ ∧
      (provide .standard (.profile {}) halfProfileHost).1 = .ok none := by
  have hparse : CredentialsFile.parse? halfProfileText = some halfProfileFile := by decide +kernel
  obtain ⟨-, -, -, -, hdecided⟩ := provide_profile_decided {} .standard halfProfileHost
  obtain ⟨-, hincomplete, -⟩ := hdecided _ _ reads_halfProfileText hparse
  exact ⟨reads_halfProfileText, hparse, rfl, rfl, hincomplete _ rfl (Or.inr rfl)⟩

end Provider

end MacAccess
