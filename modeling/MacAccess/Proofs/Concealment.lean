import Mathlib.Data.List.DropRight
import MacAccess.Signer

/-!
# What the journal tells of secrets

Two worlds are alike if they differ in nothing but secrets, and if each secret looks like its
counterpart once both are redacted. Asked in two such worlds, providers go the same way: they read
the same files, pass over the same members, and the credentials that they answer differ in the
secret alone. What they note down goes through the redaction, so it is the same in both, and so is
what a signing notes down after them.

Secrets are kept in fixed credentials, in settings, in a variable and in credentials files. The
relations follow these places: each has its own, and each function that reads a place is shown to
send what is alike to what is alike.
-/

namespace MacAccess

variable {σ α β : Type}

/-! ## Secrets and credentials -/

/-- Whether two secrets look alike: they are the same, or both are short, or both are long and begin
and end with the same three characters. -/
inductive Secret.Alike : String → String → Prop
  | same (s : String) : Alike s s
  | short {s s' : String} (hs : 1 ≤ s.length ∧ s.length ≤ 11)
      (hs' : 1 ≤ s'.length ∧ s'.length ≤ 11) : Alike s s'
  | long {s s' : String} (hs : 12 ≤ s.length) (hs' : 12 ≤ s'.length)
      (hfirst : s.toList.take 3 = s'.toList.take 3)
      (hlast : s.toList.rtake 3 = s'.toList.rtake 3) : Alike s s'

theorem Text.redacted_of_short {s : String} (h : 1 ≤ s.length ∧ s.length ≤ 11) :
    Text.redacted s = "***" := by
  rw [← String.length_toList] at h
  unfold Text.redacted
  cases hs : s.toList with
  | nil => simp [hs] at h
  | cons c cs =>
      rw [hs] at h
      exact if_pos (by omega)

theorem Text.redacted_of_long {s : String} (h : 12 ≤ s.length) :
    Text.redacted s =
      String.ofList (s.toList.take 3 ++ ['*', '*', '*'] ++ s.toList.rtake 3) := by
  rw [← String.length_toList] at h
  unfold Text.redacted
  cases hs : s.toList with
  | nil => simp [hs] at h
  | cons c cs =>
      rw [hs] at h
      exact if_neg (by omega)

namespace Secret.Alike

variable {s s' : String}

theorem redacted_eq (h : Secret.Alike s s') : Text.redacted s = Text.redacted s' := by
  cases h with
  | same => rfl
  | short hs hs' => rw [Text.redacted_of_short hs, Text.redacted_of_short hs']
  | long hs hs' hfirst hlast =>
      rw [Text.redacted_of_long hs, Text.redacted_of_long hs', hfirst, hlast]

theorem isEmpty_eq (h : Secret.Alike s s') : s.isEmpty = s'.isEmpty := by
  have hpositive : ∀ t : String, 1 ≤ t.length → t.isEmpty = false := by
    rintro t ht
    by_contra hempty
    rw [Bool.not_eq_false, String.isEmpty_iff] at hempty
    simp [hempty] at ht
  cases h with
  | same => rfl
  | short hs hs' => rw [hpositive s hs.1, hpositive s' hs'.1]
  | long hs hs' => rw [hpositive s (by omega), hpositive s' (by omega)]

end Secret.Alike

structure Credential.Alike (c c' : Credential) : Prop where
  identity : c.identity = c'.identity
  secret : Secret.Alike c.secret c'.secret

namespace Credential.Alike

variable {c c' : Credential}

theorem isValid_eq (h : c.Alike c') : c.isValid = c'.isValid := by
  rw [isValid, isValid, h.identity, h.secret.isEmpty_eq]

theorem outline_eq (h : c.Alike c') : c.outline = c'.outline := by
  rw [outline, outline, h.identity, h.secret.redacted_eq]

end Credential.Alike

/-- Whether two answers are alike. Failures are, whatever they tell, for the journal only shows that
there was one. -/
inductive Answer.Alike : Answer → Answer → Prop
  | ok {found found' : Option Credential} (h : Option.Rel Credential.Alike found found') :
      Alike (.ok found) (.ok found')
  | error (f f' : Failure) : Alike (.error f) (.error f')

theorem Answer.Alike.refl (answer : Answer) : Answer.Alike answer answer := by
  rcases answer with f | _ | credential
  · exact .error f f
  · exact .ok .none
  · exact .ok (.some ⟨rfl, .same _⟩)

/-! ## Worlds -/

structure Settings.Alike (s s' : Settings) : Prop where
  identity : s.identity = s'.identity
  credential : Option.Rel Secret.Alike s.credential s'.credential
  configFile : s.configFile = s'.configFile
  profile : s.profile = s'.profile

structure Section.Alike (part part' : Section) : Prop where
  identity : part.identity = part'.identity
  secret : Option.Rel Secret.Alike part.secret part'.secret

structure CredentialsFile.Alike (f f' : CredentialsFile) : Prop where
  top : f.top.Alike f'.top
  profiles : ∀ name,
    Option.Rel Section.Alike (f.profiles.lookup name) (f'.profiles.lookup name)

/-- Whether two texts spell credentials files that are alike, or neither spells any. -/
def CredentialsFile.SpeltAlike (text text' : String) : Prop :=
  Option.Rel CredentialsFile.Alike (parse? text) (parse? text')

/-- Whether two environments differ at most in the variable that holds a secret. -/
inductive Environment.Alike : Environment → Environment → Prop
  | empty : Alike .empty .empty
  | process : Alike .process .process
  | fixed (home : Option Bytes) {vars vars' : List (String × String)}
      (hcredential : Option.Rel Secret.Alike (vars.lookup Variable.credential)
        (vars'.lookup Variable.credential))
      (hothers : ∀ name, name ≠ Variable.credential → vars.lookup name = vars'.lookup name) :
      Alike (.fixed home vars) (.fixed home vars')

structure Context.Alike (c c' : Context) : Prop where
  files : c.files = c'.files
  environment : c.environment.Alike c'.environment
  clock : c.clock = c'.clock
  nonces : c.nonces = c'.nonces

/-- Whether two hosts differ at most in the variable that holds a secret and in the secrets of
credentials files. -/
structure Host.Alike (h h' : Host σ) : Prop where
  credential : Option.Rel Secret.Alike (h.vars.lookup Variable.credential >>= Utf8.decode?)
    (h'.vars.lookup Variable.credential >>= Utf8.decode?)
  others : ∀ name, name ≠ Variable.credential → h.vars.lookup name = h'.vars.lookup name
  userHome : h.userHome = h'.userHome
  files : ∀ path, Option.Rel
    (fun b b' => CredentialsFile.SpeltAlike (Utf8.decodeLossy b) (Utf8.decodeLossy b'))
    (h.files.lookup path) (h'.files.lookup path)
  time : h.time = h'.time
  entropy : h.entropy = h'.entropy
  clockReads : h.clockReads = h'.clockReads
  nonceDraws : h.nonceDraws = h'.nonceDraws
  foreign : h.foreign = h'.foreign
  journal : h.journal = h'.journal

theorem Host.Alike.note {h h' : Host σ} (hh : h.Alike h') (records : List Record) :
    (h.note records).Alike (h'.note records) :=
  { hh with journal := congrArg (· ++ records) hh.journal }

mutual

/-- Whether two providers are built alike, of parts that are alike. -/
inductive Provider.Alike : Provider σ → Provider σ → Prop
  | fixed {c c' : Credential} (h : c.Alike c') : Alike (.fixed c) (.fixed c')
  | environment {s s' : Settings} (h : s.Alike s') : Alike (.environment s) (.environment s')
  | profile {s s' : Settings} (h : s.Alike s') : Alike (.profile s) (.profile s')
  | chain {ps ps' : List (Provider σ)} (h : Provider.AllAlike ps ps') :
      Alike (.chain ps) (.chain ps')
  | layered {ps ps' : List (Provider σ)} (h : Provider.AllAlike ps ps') :
      Alike (.layered ps) (.layered ps')
  | foreign (name : String) (ask : σ → Answer × σ) : Alike (.foreign name ask) (.foreign name ask)

inductive Provider.AllAlike : List (Provider σ) → List (Provider σ) → Prop
  | nil : AllAlike [] []
  | cons {p p' : Provider σ} {ps ps' : List (Provider σ)} (h : Provider.Alike p p')
      (hs : Provider.AllAlike ps ps') : AllAlike (p :: ps) (p' :: ps')

end

/-! ## Reaching alike hosts -/

namespace Context.Alike

variable {c c' : Context} {h h' : Host σ}

theorem variableText?_eq (hc : c.Alike c') (hh : h.Alike h') {name : String}
    (hname : name ≠ Variable.credential) : c.variableText? h name = c'.variableText? h' name := by
  have henvironment := hc.environment
  unfold variableText?
  generalize c.environment = e, c'.environment = e' at henvironment ⊢
  cases henvironment with
  | empty => rfl
  | process => exact congrArg (· >>= Utf8.decode?) (hh.others name hname)
  | fixed home hcredential hothers => exact hothers name hname

theorem variableText?_alike (hc : c.Alike c') (hh : h.Alike h') :
    Option.Rel Secret.Alike (c.variableText? h Variable.credential)
      (c'.variableText? h' Variable.credential) := by
  have henvironment := hc.environment
  unfold variableText?
  generalize c.environment = e, c'.environment = e' at henvironment ⊢
  cases henvironment with
  | empty => exact .none
  | process => exact hh.credential
  | fixed home hcredential hothers => exact hcredential

theorem home?_eq (hc : c.Alike c') (hh : h.Alike h') : c.home? h = c'.home? h' := by
  have henvironment := hc.environment
  unfold home?
  generalize c.environment = e, c'.environment = e' at henvironment ⊢
  cases henvironment with
  | empty => rfl
  | process => exact congrArg₂ Option.or (hh.others "HOME" (by decide)) hh.userHome
  | fixed home hcredential hothers => rfl

theorem expandHome?_eq (hc : c.Alike c') (hh : h.Alike h') (path : String) :
    c.expandHome? h path = c'.expandHome? h' path := by
  rw [expandHome?, expandHome?, hc.home?_eq hh]

/-- A file is read in both worlds or in neither. -/
theorem fileText_alike (hc : c.Alike c') (hh : h.Alike h') (path : String) :
    (∃ f f', c.fileText h path = .error f ∧ c'.fileText h' path = .error f') ∨
      ∃ text text', c.fileText h path = .ok text ∧ c'.fileText h' path = .ok text' ∧
        CredentialsFile.SpeltAlike text text' := by
  have hfiles := hh.files path
  unfold fileText fileOctets
  rw [← hc.files]
  cases c.files with
  | unavailable => exact Or.inl ⟨_, _, rfl, rfl⟩
  | disk =>
      generalize h.files.lookup path = content, h'.files.lookup path = content' at hfiles ⊢
      cases hfiles with
      | none => exact Or.inl ⟨_, _, rfl, rfl⟩
      | some hspelt => exact Or.inr ⟨_, _, rfl, rfl, hspelt⟩

theorem reading_eq (hc : c.Alike c') (hh : h.Alike h') : c.reading h = c'.reading h' := by
  rw [reading, reading, hc.clock, hh.time, hh.clockReads]

theorem nextNonce_eq (hc : c.Alike c') (hh : h.Alike h') : c.nextNonce h = c'.nextNonce h' := by
  rw [nextNonce, nextNonce, hc.nonces, hh.entropy, hh.nonceDraws]

end Context.Alike

/-! ## Settings and profiles -/

/-- What is alike stays so when something alike steps in where it is missing. -/
theorem rel_or {r : α → β → Prop} {a b : Option α} {a' b' : Option β}
    (ha : Option.Rel r a a') (hb : Option.Rel r b b') : Option.Rel r (a.or b) (a'.or b') := by
  cases ha with
  | none => exact hb
  | some h => exact .some h

namespace Settings.Alike

variable {s s' : Settings}

theorem outline_eq (hs : s.Alike s') : s.outline = s'.outline := by
  have hredacted : s.credential.map Text.redacted = s'.credential.map Text.redacted := by
    have hcredential := hs.credential
    generalize s.credential = k, s'.credential = k' at hcredential ⊢
    cases hcredential with
    | none => rfl
    | some h => exact congrArg some h.redacted_eq
  rw [outline, outline, hs.identity, hredacted, hs.configFile, hs.profile]

theorem fromEnvironment {c c' : Context} {h h' : Host σ} (hs : s.Alike s') (hc : c.Alike c')
    (hh : h.Alike h') : (s.fromEnvironment c h).Alike (s'.fromEnvironment c' h') where
  identity := congrArg₂ Option.or hs.identity (hc.variableText?_eq hh (by decide))
  credential := rel_or hs.credential (hc.variableText?_alike hh)
  configFile := congrArg₂ Option.or hs.configFile (hc.variableText?_eq hh (by decide))
  profile := congrArg₂ Option.or hs.profile (hc.variableText?_eq hh (by decide))

end Settings.Alike

/-- An identity and a secret make a credential in both worlds or in neither. -/
theorem Section.Alike.credential?_alike {part part' : Section} (h : part.Alike part') :
    Option.Rel Credential.Alike part.credential? part'.credential? := by
  rcases part with ⟨identity, secret⟩
  rcases part' with ⟨identity', secret'⟩
  obtain rfl : identity = identity' := h.identity
  have hsecret : Option.Rel Secret.Alike secret secret' := h.secret
  cases identity with
  | none => exact .none
  | some identity =>
      cases hsecret with
      | none => exact .none
      | some hsecret => exact .some ⟨rfl, hsecret⟩

theorem Settings.Alike.credential?_alike {s s' : Settings} (hs : s.Alike s') :
    Option.Rel Credential.Alike s.credential? s'.credential? := by
  have hpart : Section.Alike ⟨s.identity, s.credential⟩ ⟨s'.identity, s'.credential⟩ :=
    ⟨hs.identity, hs.credential⟩
  exact hpart.credential?_alike

theorem CredentialsFile.Alike.section?_alike {f f' : CredentialsFile} (hf : f.Alike f')
    (profile : String) : Option.Rel Section.Alike (f.section? profile) (f'.section? profile) := by
  have hprofile := hf.profiles profile
  unfold section?
  generalize f.profiles.lookup profile = part, f'.profiles.lookup profile = part' at hprofile ⊢
  cases hprofile with
  | some h => exact .some h
  | none =>
      by_cases hdefault : profile = defaultProfile
      · simp only [if_pos hdefault]
        exact .some hf.top
      · simp only [if_neg hdefault]
        exact .none

/-! ## Providers -/

namespace Provider

theorem accepted?_alike {answer answer' : Answer} (ha : Answer.Alike answer answer') :
    Option.Rel Credential.Alike (accepted? answer) (accepted? answer') := by
  cases ha with
  | error f f' => exact .none
  | ok hfound =>
      cases hfound with
      | none => exact .none
      | @some credential credential' h =>
          by_cases hvalid : credential.isValid = true
          · simp only [accepted?, if_pos hvalid, if_pos (h.isValid_eq ▸ hvalid)]
            exact .some h
          · simp only [accepted?, if_neg hvalid, if_neg (h.isValid_eq ▸ hvalid)]
            exact .none

theorem reaction_eq {answer answer' : Answer} (ha : Answer.Alike answer answer')
    (outline : String) : reaction outline answer = reaction outline answer' := by
  cases ha with
  | error f f' => rfl
  | ok hfound =>
      cases hfound with
      | none => rfl
      | some h => rw [reaction, reaction, h.isValid_eq]

mutual

theorem Alike.outline_eq : ∀ {p p' : Provider σ}, Alike p p' → p.outline = p'.outline
  | _, _, .fixed h => by rw [outline, outline, h.outline_eq]
  | _, _, .environment h => by rw [outline, outline, h.outline_eq]
  | _, _, .profile h => by rw [outline, outline, h.outline_eq]
  | _, _, .chain h => by rw [outline, outline, h.outlines_eq]
  | _, _, .layered h => by rw [outline, outline, h.outlines_eq]
  | _, _, .foreign name ask => rfl

theorem AllAlike.outlines_eq :
    ∀ {ps ps' : List (Provider σ)}, AllAlike ps ps' → outlines ps = outlines ps'
  | _, _, .nil => rfl
  | _, _, .cons h hs => by rw [outlines, outlines, h.outline_eq, hs.outlines_eq]

end

section Asking

variable {c c' : Context} {h h' : Host σ}

theorem ofFile_alike {f f' : CredentialsFile} (hf : f.Alike f') (profile path : String) :
    Answer.Alike (profileAnswer.ofFile f profile path).value
        (profileAnswer.ofFile f' profile path).value ∧
      (profileAnswer.ofFile f profile path).records =
        (profileAnswer.ofFile f' profile path).records := by
  have hsection := hf.section?_alike profile
  unfold profileAnswer.ofFile
  generalize f.section? profile = part, f'.section? profile = part' at hsection ⊢
  cases hsection with
  | none => exact ⟨.ok .none, rfl⟩
  | @some part part' hpart =>
      have hcredential := hpart.credential?_alike
      dsimp only
      generalize part.credential? = found, part'.credential? = found' at hcredential ⊢
      cases hcredential with
      | none => exact ⟨.ok .none, rfl⟩
      | some h => exact ⟨.ok (.some h), rfl⟩

/-- A profile is looked up in the same way in both worlds, and the same is noted down. -/
theorem profileAnswer_alike (hc : c.Alike c') (hh : h.Alike h') {s s' : Settings}
    (hs : s.Alike s') :
    Answer.Alike (profileAnswer c h s).value (profileAnswer c' h' s').value ∧
      (profileAnswer c h s).records = (profileAnswer c' h' s').records := by
  have hsettings := hs.fromEnvironment hc hh
  have hfile : (s.fromEnvironment c h).effectiveConfigFile =
      (s'.fromEnvironment c' h').effectiveConfigFile :=
    congrArg (·.getD defaultCredentialsPath) hsettings.configFile
  have hprofile : (s.fromEnvironment c h).effectiveProfile =
      (s'.fromEnvironment c' h').effectiveProfile :=
    congrArg (·.getD CredentialsFile.defaultProfile) hsettings.profile
  simp only [profileAnswer, ← hfile, ← hprofile, ← hc.expandHome?_eq hh]
  cases c.expandHome? h (s.fromEnvironment c h).effectiveConfigFile with
  | none => exact ⟨.error _ _, rfl⟩
  | some path =>
      rcases hc.fileText_alike hh path with
        ⟨f, f', htext, htext'⟩ | ⟨text, text', htext, htext', hspelt⟩
      · simp only [htext, htext']
        exact ⟨.ok .none, trivial⟩
      · simp only [htext, htext']
        unfold CredentialsFile.SpeltAlike at hspelt
        generalize CredentialsFile.parse? text = file, CredentialsFile.parse? text' = file'
          at hspelt ⊢
        cases hspelt with
        | none => exact ⟨.error _ _, rfl⟩
        | some hf => exact ofFile_alike hf _ _

mutual

/-- **Asked in alike worlds, alike providers answer alike and leave alike worlds behind.** -/
theorem Alike.provide (hc : c.Alike c') : ∀ {p p' : Provider σ} {h h' : Host σ}, Alike p p' →
    h.Alike h' → Answer.Alike (provide c p h).1 (provide c' p' h').1 ∧
      (provide c p h).2.Alike (provide c' p' h').2
  | _, _, _, _, .fixed hp, hh => ⟨.ok (.some hp), hh⟩
  | _, _, _, _, .environment hs, hh => ⟨.ok (hs.fromEnvironment hc hh).credential?_alike, hh⟩
  | _, _, h, h', .profile hs, hh => by
      obtain ⟨hvalue, hrecords⟩ := profileAnswer_alike hc hh hs
      refine ⟨hvalue, ?_⟩
      show (h.note _).Alike (h'.note _)
      rw [hrecords]
      exact hh.note _
  | _, _, _, _, .chain hps, hh => hps.provideFirst hc hh
  | _, _, _, _, .layered hps, hh => hps.provideFirst hc hh
  | _, _, h, h', .foreign name ask, hh => by
      have hasked : ask h.foreign = ask h'.foreign := congrArg ask hh.foreign
      refine ⟨?_, { hh with foreign := congrArg Prod.snd hasked }⟩
      show Answer.Alike (ask h.foreign).1 (ask h'.foreign).1
      rw [hasked]
      exact Answer.Alike.refl _

theorem AllAlike.provideFirst (hc : c.Alike c') : ∀ {ps ps' : List (Provider σ)} {h h' : Host σ},
    AllAlike ps ps' → h.Alike h' → Answer.Alike (provideFirst c ps h).1 (provideFirst c' ps' h').1 ∧
      (provideFirst c ps h).2.Alike (provideFirst c' ps' h').2
  | _, _, _, _, .nil, hh => ⟨.ok .none, hh⟩
  | p :: ps, p' :: ps', h, h', .cons hp hps, hh => by
      -- The outlines are the same, so the records around the question are too.
      obtain ⟨hanswer, hafter⟩ := hp.provide hc (hh.note [trying p.outline])
      have hnoted := hafter.note
        [reaction p.outline (Provider.provide c p (h.note [trying p.outline])).1]
      have haccepted := accepted?_alike hanswer
      simp only [Provider.provideFirst, ← hp.outline_eq, ← reaction_eq hanswer]
      generalize accepted? (Provider.provide c p (h.note [trying p.outline])).1 = found,
        accepted? (Provider.provide c' p' (h'.note [trying p.outline])).1 = found' at haccepted ⊢
      cases haccepted with
      | none => exact hps.provideFirst hc hnoted
      | some hfound => exact ⟨.ok (.some hfound), hnoted⟩

end

end Asking

end Provider

/-! ## Scripts -/

namespace Script

/-- Whether two scripts put the same questions and note down the same records, as long as the
answers to both are alike. Their results may be anything. -/
inductive Alike : Script α → Script β → Prop
  | done (a : α) (b : β) : Alike (done a) (done b)
  | askCredential {next : Answer → Script α} {next' : Answer → Script β}
      (h : ∀ answer answer', Answer.Alike answer answer' → Alike (next answer) (next' answer')) :
      Alike (askCredential next) (askCredential next')
  | readClock {next : Timestamp → Script α} {next' : Timestamp → Script β}
      (h : ∀ t, Alike (next t) (next' t)) : Alike (readClock next) (readClock next')
  | drawNonce {next : String → Script α} {next' : String → Script β}
      (h : ∀ nonce, Alike (next nonce) (next' nonce)) : Alike (drawNonce next) (drawNonce next')
  | note (records : List Record) {next : Script α} {next' : Script β} (h : Alike next next') :
      Alike (note records next) (note records next')

/-- Alike scripts, run in alike worlds, leave alike worlds behind. -/
theorem Alike.run {ask ask' : Host σ → Answer × Host σ} {c c' : Context} {s : Script α}
    {s' : Script β} (hs : Alike s s')
    (hask : ∀ {h h' : Host σ}, h.Alike h' →
      Answer.Alike (ask h).1 (ask' h').1 ∧ (ask h).2.Alike (ask' h').2)
    (hc : c.Alike c') {h h' : Host σ} (hh : h.Alike h') :
    (s.run ask c h).2.Alike (s'.run ask' c' h').2 := by
  -- Each step leaves other hosts behind, alike again, so the hosts are not fixed.
  induction hs generalizing h h' with
  | done a b => exact hh
  | askCredential hnext ih =>
      obtain ⟨hanswer, hafter⟩ := hask hh
      exact ih _ _ hanswer hafter
  | @readClock next next' hnext ih =>
      show ((next (c.reading h)).run ask c _).2.Alike ((next' (c'.reading h')).run ask' c' _).2
      rw [← hc.reading_eq hh]
      exact ih _ { hh with clockReads := congrArg (· + 1) hh.clockReads }
  | @drawNonce next next' hnext ih =>
      show ((next (c.nextNonce h)).run ask c _).2.Alike ((next' (c'.nextNonce h')).run ask' c' _).2
      rw [← hc.nextNonce_eq hh]
      exact ih _ { hh with nonceDraws := congrArg (· + 1) hh.nonceDraws }
  | note records hnext ih => exact ih (hh.note records)

end Script

/-! ## Signing and verification -/

/-- Whether a credential can sign a request does not depend on the hidden part of its secret. -/
theorem Signing.prepare_alike (r : Http.Request) {c c' : Credential} (hc : c.Alike c') :
    (∃ f, prepare r (some c) = .error f ∧ prepare r (some c') = .error f) ∨
      ∃ canonical, prepare r (some c) = .ok (c, canonical) ∧
        prepare r (some c') = .ok (c', canonical) := by
  simp only [prepare, ← hc.secret.isEmpty_eq, ← hc.identity]
  split
  · exact Or.inl ⟨_, rfl, rfl⟩
  · split
    · exact Or.inl ⟨_, rfl, rfl⟩
    · cases CanonicalRequest.ofRequest r with
      | error f => exact Or.inl ⟨f, rfl, rfl⟩
      | ok canonical => exact Or.inr ⟨canonical, rfl, rfl⟩

/-- Only the authorization shows which secret made it, and it is not noted down. -/
theorem Credential.Alike.sign {c c' : Credential} (hc : c.Alike c') (r : Http.Request) :
    Script.Alike (sign r (some c)) (sign r (some c')) := by
  unfold MacAccess.sign
  rcases Signing.prepare_alike r hc with ⟨f, hprepare, hprepare'⟩ | ⟨canonical, hprepare, hprepare'⟩
  · simp only [hprepare, hprepare']
    exact .done _ _
  · simp only [hprepare, hprepare']
    refine .readClock fun t => ?_
    by_cases ht : t < 0
    · simp only [if_pos ht]
      exact .done _ _
    · simp only [if_neg ht]
      refine .drawNonce fun nonce => .note _ ?_
      cases (canonical.signedText t nonce).value with
      | error f => exact .done _ _
      | ok text => exact .done _ _

theorem Signer.sign_alike (r : Http.Request) : Script.Alike (Signer.sign r) (Signer.sign r) := by
  refine .askCredential fun answer answer' hanswer => ?_
  cases hanswer with
  | error f f' => exact .done _ _
  | ok hfound =>
      cases hfound with
      | none => exact .done _ _
      | some hc => exact hc.sign r

theorem Secret.Alike.records_verify {s s' : String} (hs : Secret.Alike s s') (r : Http.Request) :
    (verify r s).records = (verify r s').records := by
  unfold verify
  rw [← hs.isEmpty_eq]
  by_cases hempty : s.isEmpty = true
  · simp only [if_pos hempty]
  · simp only [if_neg hempty]
    cases Verification.authorization r with
    | error f => rfl
    | ok a =>
        cases CanonicalRequest.ofRequest r with
        | error f => rfl
        | ok canonical => simp only [Noted.map]

/-- After a signing the worlds are alike again, so the next one cannot tell them apart either. -/
theorem Signer.run_sign_alike {s s' : Signer σ} {h h' : Host σ}
    (hcontext : s.context.Alike s'.context) (hprovider : s.provider.Alike s'.provider)
    (hhost : h.Alike h') (r : Http.Request) :
    (s.run (Signer.sign r) h).2.Alike (s'.run (Signer.sign r) h').2 := by
  have hask : ∀ {h h' : Host σ}, h.Alike h' →
      Answer.Alike (s.provider.provide s.context h).1 (s'.provider.provide s'.context h').1 ∧
        (s.provider.provide s.context h).2.Alike (s'.provider.provide s'.context h').2 :=
    hprovider.provide hcontext
  exact (Signer.sign_alike r).run hask hcontext hhost

/-- **No secret reaches the journal beyond its redacted form.** In two alike worlds a signing of the
same request leaves the same journal behind, whatever the providers are and whatever becomes of the
request. A verification notes down the same under either of two secrets that look alike, and the
outlines of the providers are the same. -/
theorem Signer.sign_conceals {s s' : Signer σ} {h h' : Host σ}
    (hcontext : s.context.Alike s'.context) (hprovider : s.provider.Alike s'.provider)
    (hhost : h.Alike h') (r : Http.Request) :
    (s.run (Signer.sign r) h).2.journal = (s'.run (Signer.sign r) h').2.journal ∧
      s.provider.outline = s'.provider.outline ∧
      ∀ (signed : Http.Request) (secret secret' : String), Secret.Alike secret secret' →
        (verify signed secret).records = (verify signed secret').records := by
  refine ⟨(Signer.run_sign_alike hcontext hprovider hhost r).journal, hprovider.outline_eq, ?_⟩
  rintro signed secret secret' hsecret
  exact hsecret.records_verify signed

/-- A signer with a fixed credential without an identity, settings with a secret only, and then the
usual places. -/
def layeredSigner (fixed explicit : String) : Signer Unit where
  context := ⟨.disk, .process, .fixed 1336363200, .fixed "dj83hs9s"⟩
  provider := .chain [.fixed ⟨"", fixed⟩, .environment { credential := some explicit },
    .chain [.standard {}]]

/-- The content of a credentials file with a secret. -/
def fileWith (secret : String) : Bytes :=
  Utf8.encode ("identity = \"uuid\"\ncredential = \"" ++ secret ++ "\"\n")

/-- A host with a secret in a variable, and one in a credentials file. -/
def layeredHost (exported filed : String) : Host Unit where
  vars := [("HOME", Utf8.encode "/home/me"), ("BRACKET_CREDENTIAL", Utf8.encode exported)]
  files := [("/home/me/.bracket/credentials.toml", fileWith filed)]
  time := fun _ => 0
  entropy := fun _ _ => []
  clockReads := 0
  nonceDraws := 0
  foreign := ()
  journal := []

/-- Two secrets that look alike because they are long, and two because they are short. -/
theorem Secret.alike_long : Secret.Alike "key-0123456789-end" "key-and another-end" :=
  .long (by decide) (by decide) (by decide) (by decide)

theorem Secret.alike_short : Secret.Alike "apikey" "sesame" :=
  .short (by decide) (by decide)

theorem provider_layeredSigner_alike :
    (layeredSigner "apikey" "key-0123456789-end").provider.Alike
      (layeredSigner "sesame" "key-and another-end").provider :=
  .chain (.cons (.fixed ⟨rfl, Secret.alike_short⟩)
    (.cons (.environment ⟨rfl, .some Secret.alike_long, rfl, rfl⟩)
      (.cons (.chain (.cons (.layered (.cons (.environment ⟨rfl, .none, rfl, rfl⟩)
        (.cons (.profile ⟨rfl, .none, rfl, rfl⟩) .nil))) .nil)) .nil)))

theorem fileWith_alike : CredentialsFile.SpeltAlike
    (Utf8.decodeLossy (fileWith "key-0123456789-end"))
    (Utf8.decodeLossy (fileWith "key-and another-end")) := by
  have hfile : CredentialsFile.parse? (Utf8.decodeLossy (fileWith "key-0123456789-end")) =
      some ⟨⟨some "uuid", some "key-0123456789-end"⟩, []⟩ := by decide +kernel
  have hfile' : CredentialsFile.parse? (Utf8.decodeLossy (fileWith "key-and another-end")) =
      some ⟨⟨some "uuid", some "key-and another-end"⟩, []⟩ := by decide +kernel
  rw [CredentialsFile.SpeltAlike, hfile, hfile']
  exact .some ⟨⟨rfl, .some Secret.alike_long⟩, fun _ => .none⟩

theorem layeredHost_alike :
    (layeredHost "apikey" "key-0123456789-end").Alike
      (layeredHost "sesame" "key-and another-end") where
  credential := by
    have hvalue : (layeredHost "apikey" "key-0123456789-end").vars.lookup Variable.credential >>=
      Utf8.decode? = some "apikey" := by decide +kernel
    have hvalue' : (layeredHost "sesame" "key-and another-end").vars.lookup Variable.credential >>=
      Utf8.decode? = some "sesame" := by decide +kernel
    rw [hvalue, hvalue']
    exact .some Secret.alike_short
  others := by
    intro name hname
    have hother : (name == "BRACKET_CREDENTIAL") = false := beq_eq_false_iff_ne.mpr hname
    simp [layeredHost, List.lookup_cons, hother]
  userHome := rfl
  files := by
    intro path
    by_cases hpath : path = "/home/me/.bracket/credentials.toml"
    · rw [hpath]
      exact .some fileWith_alike
    · have hother : (path == "/home/me/.bracket/credentials.toml") = false :=
        beq_eq_false_iff_ne.mpr hpath
      simp [layeredHost, List.lookup_cons, hother]
  time := rfl
  entropy := rfl
  clockReads := rfl
  nonceDraws := rfl
  foreign := rfl
  journal := rfl

def bareRequest : Http.Request := ⟨"GET", ⟨some "http", some "example.com", "/", none⟩, []⟩

theorem Signer.sign_conceals_layered :
    (layeredSigner "apikey" "key-0123456789-end").provider.Alike
        (layeredSigner "sesame" "key-and another-end").provider ∧
      (layeredHost "apikey" "key-0123456789-end").Alike
        (layeredHost "sesame" "key-and another-end") ∧
      ((layeredSigner "apikey" "key-0123456789-end").run (Signer.sign bareRequest)
          (layeredHost "apikey" "key-0123456789-end")).2.journal =
        ((layeredSigner "sesame" "key-and another-end").run (Signer.sign bareRequest)
          (layeredHost "sesame" "key-and another-end")).2.journal := by
  have hcontext : (layeredSigner "apikey" "key-0123456789-end").context.Alike
      (layeredSigner "sesame" "key-and another-end").context := ⟨rfl, .process, rfl, rfl⟩
  have hconceals := Signer.sign_conceals hcontext provider_layeredSigner_alike layeredHost_alike
    bareRequest
  exact ⟨provider_layeredSigner_alike, layeredHost_alike, hconceals.1⟩

/-- The credential comes from the file, after all other places have been noted down. -/
example : ((layeredSigner "apikey" "key-0123456789-end").run (Signer.sign bareRequest)
    (layeredHost "apikey" "key-0123456789-end")).2.journal.length = 14 := by
  decide +kernel

end MacAccess
