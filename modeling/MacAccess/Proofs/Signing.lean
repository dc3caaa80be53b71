import MacAccess.Signing
import MacAccess.Proofs.Authorization
import MacAccess.Proofs.Base64
import MacAccess.Proofs.CanonicalRequest
import MacAccess.Proofs.Script

/-!
# What decides a signing

Six requirements, looked at one after another, decide whether a request is signed. The first one
that is not met names the failure, and the request then stays as it was. If all are met, nothing
else can go wrong: the authorization is made of visible characters, so it is a header value.
-/

namespace MacAccess

theorem Context.nextNonce_clockReads {σ : Type} (c : Context) (h : Host σ) (reads : Nat) :
    c.nextNonce { h with clockReads := reads } = c.nextNonce h := rfl

namespace Signing

theorem isQuotable_mac (secret text : String) : isQuotable (Signature.mac secret text) = true :=
  (isQuotable_iff _).mpr fun _ hc => Base64.visible_encode hc

/-! ## Preparation -/

theorem prepare_of_secret {r : Http.Request} {c : Credential} (hsecret : c.secret ≠ "") :
    prepare r (some c) =
      if !isQuotable c.identity then .error identityNotQuotable
      else (CanonicalRequest.ofRequest r).map fun canonical => (c, canonical) := by
  have hkeyed : ¬ c.secret.isEmpty = true := by simpa using hsecret
  exact if_neg hkeyed

theorem prepare_of_identity {r : Http.Request} {c : Credential} (hsecret : c.secret ≠ "")
    (hidentity : isQuotable c.identity = true) :
    prepare r (some c) =
      (CanonicalRequest.ofRequest r).map fun canonical => (c, canonical) := by
  rw [prepare_of_secret hsecret, hidentity]
  rfl

theorem attach_of_isPrintable {r : Http.Request} {a : Authorization}
    (h : Http.IsPrintable a.render) :
    attach r a = ⟨r.authorize ⟨Utf8.encode a.render, true⟩, .ok ()⟩ := by
  rw [attach, Http.HeaderValue.ofText?_of_isPrintable h]

/-! ## Requirements -/

/-- All that the outcome of a signing depends on. -/
structure Attempt where
  request : Http.Request
  credential? : Option Credential
  timestamp : Timestamp
  nonce : String

/-- The attempt that signing on a host is. -/
def Attempt.on {σ : Type} (context : Context) (h : Host σ) (r : Http.Request)
    (credential? : Option Credential) : Attempt :=
  ⟨r, credential?, context.reading h, context.nextNonce h⟩

inductive Requirement where
  | credential
  | secret
  | identity
  | host
  | clock
  | nonce
  deriving DecidableEq

/-- The requirements in the order in which they are looked at. -/
def Requirement.inOrder : List Requirement :=
  [.credential, .secret, .identity, .host, .clock, .nonce]

def Requirement.kind : Requirement → FailureKind
  | .credential => .credentialUnavailable
  | .secret => .signingFailure
  | .identity => .credentialInvalid
  | .host => .requestInvalid
  | .clock => .signingFailure
  | .nonce => .signingFailure

/-- Failures that stand for what cannot happen. The first two, for a key that the hash does not take
and for text that cannot be formatted, would be passed on from the hash and the formatter. Neither
ever reports one, so no step of a signing makes them and leaving them out says nothing about a step.
The third is made by `attach`, for an authorization that is no header value. -/
def reserved : List Failure :=
  [.signingFailure "hmac-sha256 rejected the signing key", .formatting, notAHeaderValue]

namespace Attempt

/-- Whether an attempt meets a requirement. Those on a credential are met if there is none. -/
def Meets (a : Attempt) : Requirement → Prop
  | .credential => a.credential? ≠ none
  | .secret => ∀ c ∈ a.credential?, c.secret ≠ ""
  | .identity => ∀ c ∈ a.credential?,
      ∀ b ∈ Utf8.encode c.identity, 0x21 ≤ b ∧ b ≤ 0x7E ∧ b ≠ 0x22
  | .host => ∃ host ∈ a.request.uri.host?, host ≠ ""
  | .clock => 0 ≤ a.timestamp
  | .nonce => ∀ b ∈ Utf8.encode a.nonce, 0x21 ≤ b ∧ b ≤ 0x7E ∧ b ≠ 0x22

instance (a : Attempt) : DecidablePred a.Meets
  | .credential => inferInstanceAs (Decidable (a.credential? ≠ none))
  | .secret => inferInstanceAs (Decidable (∀ c ∈ a.credential?, c.secret ≠ ""))
  | .identity => decidable_of_iff (∀ c ∈ a.credential?, isQuotable c.identity = true)
      (forall₂_congr fun c _ => isQuotable_iff_octets c.identity)
  | .host => inferInstanceAs (Decidable (∃ host ∈ a.request.uri.host?, host ≠ ""))
  | .clock => inferInstanceAs (Decidable (0 ≤ a.timestamp))
  | .nonce => decidable_of_iff (isQuotable a.nonce = true) (isQuotable_iff_octets a.nonce)

/-- The first requirement that an attempt does not meet. -/
def firstUnmet? (a : Attempt) : Option Requirement :=
  Requirement.inOrder.find? fun q => ¬ a.Meets q

/-- The failure that reports an unmet requirement. -/
def failure (a : Attempt) : Requirement → Failure
  | .credential => missingCredential
  | .secret => emptySecret
  | .identity => identityNotQuotable
  | .host => CanonicalRequest.missingHost a.request.uri
  | .clock => clockBeforeEpoch a.timestamp
  | .nonce => CanonicalRequest.nonceNotQuotable

theorem kind_failure (a : Attempt) (q : Requirement) : (a.failure q).kind = q.kind := by
  cases q <;> rfl

theorem isSigningFailure_failure (a : Attempt) (q : Requirement) :
    (a.failure q).isSigningFailure = true := by
  cases q <;> rfl

theorem causes_failure (a : Attempt) (q : Requirement) : (a.failure q).causes = [] := by
  cases q <;> rfl

theorem failure_notMem_reserved (a : Attempt) (q : Requirement) : a.failure q ∉ reserved := by
  intro hmem
  have hcauses := a.causes_failure q
  simp only [reserved, List.mem_cons, List.not_mem_nil, or_false] at hmem
  rcases hmem with hkey | hformatting | hvalue
  · have hkind : (a.failure q).kind = .signingFailure := by rw [hkey]; rfl
    have hmessage : (a.failure q).message = "hmac-sha256 rejected the signing key" := by
      rw [hkey]
      rfl
    cases q with
    | secret =>
        have hother : emptySecret.message ≠ "hmac-sha256 rejected the signing key" := by decide
        exact hother hmessage
    | clock =>
        -- the reading ends the message, so it is told by how it starts
        have hhead : (a.failure .clock).message.toList.head? = some 'c' := by
          simp only [failure, clockBeforeEpoch, Failure.signingFailure, Failure.of,
            String.toList_append, List.head?_append]
          rfl
        rw [hmessage] at hhead
        exact absurd hhead (by decide)
    | nonce =>
        have hother : CanonicalRequest.nonceNotQuotable.message ≠
            "hmac-sha256 rejected the signing key" := by decide
        exact hother hmessage
    | _ => exact nomatch hkind
  · rw [hformatting] at hcauses
    exact nomatch hcauses
  · rw [hvalue] at hcauses
    exact nomatch hcauses

/-! ## Outcomes -/

/-- What a signing comes to once the clock is read and the nonce drawn. -/
def outcome (a : Attempt) : Outcome :=
  match prepare a.request a.credential? with
  | .error f => refused a.request f
  | .ok (c, canonical) =>
    if a.timestamp < 0 then refused a.request (clockBeforeEpoch a.timestamp)
    else
      match (canonical.signedText a.timestamp a.nonce).value with
      | .error f => refused a.request f
      | .ok text => attach a.request (authorization c a.timestamp a.nonce text)

/-- **A run asks for no more than an attempt holds**, and what it comes to is read off that. -/
theorem run_sign {σ : Type} (ask : Host σ → Answer × Host σ) (context : Context) (h : Host σ)
    (r : Http.Request) (credential? : Option Credential) :
    ((sign r credential?).run ask context h).1 = (Attempt.on context h r credential?).outcome := by
  unfold sign outcome Attempt.on
  cases prepare r credential? with
  | error f => rfl
  | ok prepared =>
      obtain ⟨c, canonical⟩ := prepared
      dsimp only
      rw [Script.run_readClock]
      by_cases hclock : context.reading h < 0
      · simp only [if_pos hclock, Script.run_done]
      · simp only [if_neg hclock, Script.run_drawNonce, Script.run_noted]
        -- reading the clock leaves the draws of nonces as they were
        rw [Context.nextNonce_clockReads]
        cases (canonical.signedText (context.reading h) (context.nextNonce h)).value with
        | error f => rw [Script.run_done]
        | ok text => rw [Script.run_done]

/-- An attempt that nothing speaks against, with its credential and the canonical form of its
request. -/
structure Accepted (a : Attempt) (c : Credential) (canonical : CanonicalRequest) : Prop where
  credential : a.credential? = some c
  secret : c.secret ≠ ""
  identity : isQuotable c.identity = true
  canonical : CanonicalRequest.ofRequest a.request = .ok canonical
  clock : 0 ≤ a.timestamp
  nonce : isQuotable a.nonce = true

theorem accepted_of_meets {a : Attempt} (h : ∀ q, a.Meets q) :
    ∃ c canonical, a.Accepted c canonical := by
  obtain ⟨c, hc⟩ := Option.ne_none_iff_exists'.mp (h .credential)
  obtain ⟨canonical, hcanonical⟩ := CanonicalRequest.exists_ofRequest (h .host)
  exact ⟨c, canonical, hc, h .secret c hc, (isQuotable_iff_octets _).mpr (h .identity c hc),
    hcanonical, h .clock, (isQuotable_iff_octets _).mpr (h .nonce)⟩

/-- Before an unmet requirement is found, the ones looked at earlier are met. -/
theorem meets_of_firstUnmet? {a : Attempt} {p q : Requirement} (h : a.firstUnmet? = some q)
    (hlt : p.ctorIdx < q.ctorIdx) : a.Meets p := by
  obtain ⟨-, before, after, horder, hmet⟩ := List.find?_eq_some_iff_append.mp h
  have hsorted : Requirement.inOrder.Pairwise fun p q => p.ctorIdx < q.ctorIdx := by decide
  have hmem : p ∈ Requirement.inOrder := by cases p <;> decide
  rw [horder] at hsorted hmem
  rcases List.mem_append.mp hmem with hbefore | hafter
  · simpa using hmet p hbefore
  · rcases List.mem_cons.mp hafter with rfl | hlater
    · exact absurd hlt (Nat.lt_irrefl _)
    · have hgt := (List.pairwise_cons.mp (List.pairwise_append.mp hsorted).2.1).1 p hlater
      exact absurd hlt (Nat.lt_asymm hgt)

theorem prepare_of_meets {a : Attempt} {c : Credential} (hcredential : a.credential? = some c)
    (hsecret : a.Meets .secret) (hidentity : a.Meets .identity) :
    prepare a.request (some c) =
      (CanonicalRequest.ofRequest a.request).map fun canonical => (c, canonical) :=
  prepare_of_identity (hsecret c hcredential)
    ((isQuotable_iff_octets _).mpr (hidentity c hcredential))

/-- **The first unmet requirement refuses an attempt.** -/
theorem outcome_of_firstUnmet? {a : Attempt} {q : Requirement} (h : a.firstUnmet? = some q) :
    a.outcome = refused a.request (a.failure q) := by
  have hunmet : ¬ a.Meets q := by simpa using List.find?_some h
  have hmet : ∀ p : Requirement, p.ctorIdx < q.ctorIdx → a.Meets p :=
    fun p hlt => meets_of_firstUnmet? h hlt
  unfold outcome
  cases hcredential : a.credential? with
  | none =>
      cases q with
      | credential => rfl
      | _ => exact absurd hcredential (hmet .credential (by decide))
  | some c =>
      cases q with
      | credential => exact absurd (by simp [Meets, hcredential]) hunmet
      | secret =>
          have hempty : c.secret = "" := by simpa [Meets, hcredential] using hunmet
          simp only [prepare, hempty]
          rfl
      | identity =>
          have hsecret := hmet .secret (by decide) c hcredential
          have hidentity : isQuotable c.identity = false := by
            rw [← Bool.not_eq_true, isQuotable_iff_octets]
            simpa only [Meets, hcredential, Option.mem_def, Option.some.injEq, forall_eq']
              using hunmet
          rw [prepare_of_secret hsecret, hidentity]
          rfl
      | host =>
          rw [prepare_of_meets hcredential (hmet .secret (by decide))
            (hmet .identity (by decide)), CanonicalRequest.ofRequest_of_no_host hunmet]
          rfl
      | clock =>
          obtain ⟨canonical, hcanonical⟩ :=
            CanonicalRequest.exists_ofRequest (hmet .host (by decide))
          rw [prepare_of_meets hcredential (hmet .secret (by decide))
            (hmet .identity (by decide)), hcanonical]
          exact if_pos (Int64.not_le.mp hunmet)
      | nonce =>
          obtain ⟨canonical, hcanonical⟩ :=
            CanonicalRequest.exists_ofRequest (hmet .host (by decide))
          have hclock : ¬ a.timestamp < 0 := Int64.not_lt.mpr (hmet .clock (by decide))
          have hnonce : ¬ isQuotable a.nonce = true := by
            rw [isQuotable_iff_octets]
            exact hunmet
          rw [prepare_of_meets hcredential (hmet .secret (by decide))
            (hmet .identity (by decide)), hcanonical]
          show (if a.timestamp < 0 then _ else _) = _
          rw [if_neg hclock, CanonicalRequest.signedText, if_neg hnonce]
          rfl

/-- The authorization that an accepted attempt comes to. -/
def made (a : Attempt) (c : Credential) (canonical : CanonicalRequest) : Authorization :=
  authorization c a.timestamp a.nonce (canonical.text a.timestamp a.nonce)

/-- The header value in which it is sent, kept out of sight. -/
def madeValue (a : Attempt) (c : Credential) (canonical : CanonicalRequest) : Http.HeaderValue :=
  ⟨Utf8.encode (a.made c canonical).render, true⟩

theorem octets_madeValue (a : Attempt) (c : Credential) (canonical : CanonicalRequest) :
    (a.madeValue c canonical).octets = Utf8.encode (a.made c canonical).render := by
  rw [madeValue]

namespace Accepted

variable {a : Attempt} {c : Credential} {canonical : CanonicalRequest}

theorem meets (h : a.Accepted c canonical) (q : Requirement) : a.Meets q := by
  cases q with
  | credential => simp [Meets, h.credential]
  | secret => simpa [Meets, h.credential] using h.secret
  | identity => simpa [Meets, h.credential] using (isQuotable_iff_octets _).mp h.identity
  | host =>
      obtain ⟨host, hhost, hne, -⟩ := CanonicalRequest.ofRequest_eq_ok_iff.mp h.canonical
      exact ⟨host, hhost, hne⟩
  | clock => exact h.clock
  | nonce => exact (isQuotable_iff_octets _).mp h.nonce

theorem isPrintable_made (h : a.Accepted c canonical) :
    Http.IsPrintable (a.made c canonical).render := by
  exact Authorization.isPrintable_render h.clock (isPrintable_of_isQuotable h.identity)
    (isPrintable_of_isQuotable h.nonce) (isPrintable_of_isQuotable (isQuotable_mac _ _))

theorem parse_made (h : a.Accepted c canonical) :
    Authorization.parse (a.made c canonical).render = .ok (a.made c canonical) :=
  Authorization.parse_render h.clock (quote_notMem_of_isQuotable h.identity)
    (quote_notMem_of_isQuotable h.nonce) (quote_notMem_of_isQuotable (isQuotable_mac _ _))

theorem signedText (h : a.Accepted c canonical) :
    (canonical.signedText a.timestamp a.nonce).value =
      .ok (canonical.text a.timestamp a.nonce) :=
  CanonicalRequest.signedText_eq_ok_iff.mpr ⟨h.nonce, rfl⟩

theorem prepare_eq (h : a.Accepted c canonical) :
    prepare a.request a.credential? = .ok (c, canonical) := by
  rw [h.credential, prepare_of_identity h.secret h.identity, h.canonical]
  rfl

/-- **An accepted attempt is signed.** Its request gets the authorization as its only one. -/
theorem outcome_eq (h : a.Accepted c canonical) :
    a.outcome = ⟨a.request.authorize (a.madeValue c canonical), .ok ()⟩ := by
  unfold outcome
  rw [h.prepare_eq]
  show (if a.timestamp < 0 then _ else _) = _
  rw [if_neg (Int64.not_lt.mpr h.clock), h.signedText]
  exact attach_of_isPrintable h.isPrintable_made

theorem authorization?_outcome (h : a.Accepted c canonical) :
    a.outcome.request.authorization? = some (a.madeValue c canonical) := by
  rw [h.outcome_eq]
  exact a.request.authorization?_authorize _

end Accepted

/-- An attempt is accepted, or refused for the first requirement that it does not meet. -/
theorem accepted_or_refused (a : Attempt) :
    (∃ c canonical, a.Accepted c canonical) ∨
      ∃ q, a.firstUnmet? = some q ∧ a.outcome = refused a.request (a.failure q) := by
  cases hfirst : a.firstUnmet? with
  | some q => exact Or.inr ⟨q, rfl, outcome_of_firstUnmet? hfirst⟩
  | none =>
      refine Or.inl (accepted_of_meets fun q => ?_)
      have hmem : q ∈ Requirement.inOrder := by cases q <;> decide
      simpa using List.find?_eq_none.mp hfirst q hmem

theorem accepted_of_ok {a : Attempt} (h : a.outcome.verdict = .ok ()) :
    ∃ c canonical, a.Accepted c canonical := by
  rcases a.accepted_or_refused with haccepted | ⟨q, -, hrefused⟩
  · exact haccepted
  · rw [hrefused] at h
    exact nomatch h

theorem ok_iff_meets (a : Attempt) : a.outcome.verdict = .ok () ↔ ∀ q, a.Meets q := by
  constructor
  · intro h
    obtain ⟨c, canonical, haccepted⟩ := accepted_of_ok h
    exact haccepted.meets
  · intro h
    obtain ⟨c, canonical, haccepted⟩ := accepted_of_meets h
    rw [haccepted.outcome_eq]

end Attempt

/-! ## What a signing takes from the host -/

section Takes

variable {σ : Type} (ask : Host σ → Answer × Host σ) {context : Context} {h : Host σ}
  {r : Http.Request} {credential? : Option Credential}

/-- What is refused beforehand takes nothing, -/
theorem takes_of_refused {f : Failure} (hprepare : prepare r credential? = .error f) :
    (sign r credential?).transcript ask context h = [] ∧
      ((sign r credential?).run ask context h).2 = h := by
  unfold sign
  rw [hprepare]
  exact ⟨rfl, rfl⟩

/-- a clock before the epoch is read in vain, -/
theorem takes_of_early {prepared : Credential × CanonicalRequest}
    (hprepare : prepare r credential? = .ok prepared) (hclock : context.reading h < 0) :
    (sign r credential?).transcript ask context h = [.reading (context.reading h)] ∧
      ((sign r credential?).run ask context h).2 = { h with clockReads := h.clockReads + 1 } := by
  unfold sign
  rw [hprepare]
  dsimp only
  rw [Script.transcript_readClock, Script.run_readClock, if_pos hclock]
  exact ⟨rfl, rfl⟩

/-- and otherwise a nonce is drawn, which may still be no good. -/
theorem takes_of_prepared {prepared : Credential × CanonicalRequest}
    (hprepare : prepare r credential? = .ok prepared) (hclock : 0 ≤ context.reading h) :
    (sign r credential?).transcript ask context h =
        [.reading (context.reading h), .nonce (context.nextNonce h), .noted] ∧
      ∃ records, ((sign r credential?).run ask context h).2 =
        Host.note { h with clockReads := h.clockReads + 1, nonceDraws := h.nonceDraws + 1 }
          records := by
  unfold sign
  rw [hprepare]
  dsimp only
  rw [Script.transcript_readClock, Script.run_readClock, if_neg (Int64.not_lt.mpr hclock),
    Script.transcript_drawNonce, Script.run_drawNonce, Script.transcript_noted, Script.run_noted,
    Context.nextNonce_clockReads]
  cases (prepared.2.signedText (context.reading h) (context.nextNonce h)).value with
  | error f => exact ⟨rfl, _, rfl⟩
  | ok text => exact ⟨rfl, _, rfl⟩

end Takes

/-- **A request is signed exactly if all requirements are met, and is left as it was otherwise.** A
signed request has the authorization as its only one, and nothing else about it changes. A request
that is not signed is reported with the failure of the first unmet requirement, never with a
reserved one. -/
theorem signed_or_untouched {σ : Type} (ask : Host σ → Answer × Host σ) (context : Context)
    (h : Host σ) (r : Http.Request) (credential? : Option Credential) :
    (((sign r credential?).run ask context h).1.verdict = .ok () ↔
      ∀ q, (Attempt.on context h r credential?).Meets q) ∧
    (((sign r credential?).run ask context h).1.verdict = .ok () →
      ∃ c canonical, credential? = some c ∧ CanonicalRequest.ofRequest r = .ok canonical ∧
        ((sign r credential?).run ask context h).1.request =
          r.authorize ⟨Utf8.encode (authorization c (context.reading h) (context.nextNonce h)
            (canonical.text (context.reading h) (context.nextNonce h))).render, true⟩) ∧
    ∀ f, ((sign r credential?).run ask context h).1.verdict = .error f →
      ((sign r credential?).run ask context h).1.request = r ∧ f ∉ reserved ∧
        ∃ q, (Attempt.on context h r credential?).firstUnmet? = some q ∧ f.kind = q.kind ∧
          f = (Attempt.on context h r credential?).failure q := by
  rw [Attempt.run_sign]
  refine ⟨Attempt.ok_iff_meets _, ?_, ?_⟩
  · intro hok
    obtain ⟨c, canonical, haccepted⟩ := Attempt.accepted_of_ok hok
    refine ⟨c, canonical, haccepted.credential, haccepted.canonical, ?_⟩
    rw [haccepted.outcome_eq]
    rfl
  · intro f hf
    rcases (Attempt.on context h r credential?).accepted_or_refused with
      ⟨c, canonical, haccepted⟩ | ⟨q, hfirst, hrefused⟩
    · rw [haccepted.outcome_eq] at hf
      exact nomatch hf
    · rw [hrefused] at hf ⊢
      obtain rfl : _ = f := Except.error.inj hf
      exact ⟨rfl, Attempt.failure_notMem_reserved _ q, q, hfirst, Attempt.kind_failure _ q, rfl⟩

end Signing

end MacAccess
