import MacAccess.Proofs.Resolution
import MacAccess.Proofs.Signer
import MacAccess.Proofs.Verification

/-!
# Which credentials sign

A chain answers valid credentials only. Signing itself looks at a credential once more, but not for
the same: the secret must not be empty, and the identity must be made of characters that can be
quoted, which is so if it has none. So a signer on a chain signs with valid credentials only, and
one on any other provider signs with a credential that is not valid exactly where this has a secret
but no identity.
-/

namespace MacAccess

theorem Credential.isValid_iff_of_secret {c : Credential} (hsecret : c.secret ≠ "") :
    c.isValid = true ↔ c.identity ≠ "" := by
  rw [isValid_iff]
  exact and_iff_left hsecret

/-- A chain answers valid credentials only. -/
theorem Provider.isValid_of_isChain {σ : Type} (c : Context) {p : Provider σ} (hp : p.IsChain)
    {h : Host σ} {credential : Credential} (hanswer : (provide c p h).1 = .ok (some credential)) :
    credential.isValid = true := by
  have hrow := askInTurn_answer c p.leaves h.unnoted
  rw [askInTurn_of_isChain c hp h, hanswer] at hrow
  exact (accepted?_eq_some_iff.mp (Except.ok.inj hrow).symm).2

namespace Signer

section SignsWith

variable {σ : Type} (ask : Host σ → Answer × Host σ) (context : Context) (h : Host σ)
  (r : Http.Request)

/-- Whether a signer signs a request with a credential that its provider answers. -/
structure SignsWith (c : Credential) : Prop where
  answered : (ask h).1 = .ok (some c)
  signed : ((sign r).run ask context h).1.verdict = .ok ()

variable {ask context h r}

theorem run_sign_of_answered {c : Credential} (hanswer : (ask h).1 = .ok (some c)) :
    ((sign r).run ask context h).1 =
      (Signing.Attempt.on context (ask h).2 r (some c)).outcome := by
  have hask : ask h = (.ok (some c), (ask h).2) := Prod.ext hanswer rfl
  rw [run_sign_of_credential ask context h r hask, Signing.Attempt.run_sign]

/-- A signer signs with a credential exactly if that is answered and meets what signing requires. -/
theorem signsWith_iff {c : Credential} :
    SignsWith ask context h r c ↔
      (ask h).1 = .ok (some c) ∧
        ∀ q, (Signing.Attempt.on context (ask h).2 r (some c)).Meets q := by
  constructor
  · rintro ⟨hanswer, hsigned⟩
    rw [run_sign_of_answered hanswer] at hsigned
    exact ⟨hanswer, (Signing.Attempt.ok_iff_meets _).mp hsigned⟩
  · rintro ⟨hanswer, hmeets⟩
    refine ⟨hanswer, ?_⟩
    rw [run_sign_of_answered hanswer]
    exact (Signing.Attempt.ok_iff_meets _).mpr hmeets

/-- A request is signed with a credential that was answered, -/
theorem exists_signsWith (hok : ((sign r).run ask context h).1.verdict = .ok ()) :
    ∃ c, SignsWith ask context h r c := by
  cases hask : ask h with
  | mk answer after =>
      rcases answer with f | (_ | c)
      · rw [run_sign_of_failure ask context h r hask] at hok
        exact nomatch hok
      · rw [run_sign_of_none ask context h r hask] at hok
        exact nomatch hok
      · exact ⟨c, by rw [hask], hok⟩

/-- which has a secret, -/
theorem SignsWith.secret {c : Credential} (hsigns : SignsWith ask context h r c) :
    c.secret ≠ "" :=
  (signsWith_iff.mp hsigns).2 .secret c rfl

/-- and whose identity is the one that the request then names. -/
theorem SignsWith.authorization {c : Credential} (hsigns : SignsWith ask context h r c) :
    ∃ a, Verification.authorization ((sign r).run ask context h).1.request = .ok a ∧
      a.id = c.identity := by
  obtain ⟨hanswer, hmeets⟩ := signsWith_iff.mp hsigns
  obtain ⟨c', canonical, haccepted⟩ := Signing.Attempt.accepted_of_meets hmeets
  have hcredential : some c = some c' := haccepted.credential
  obtain rfl : c = c' := Option.some.inj hcredential
  rw [run_sign_of_answered hanswer]
  exact ⟨_, Verification.authorization_of_accepted haccepted, rfl⟩

/-- A credential without an identity signs as any other does that has a secret. -/
theorem signsWith_iff_of_identity_empty {c : Credential} (hempty : c.identity = "") :
    SignsWith ask context h r c ↔
      (ask h).1 = .ok (some c) ∧ c.secret ≠ "" ∧ (∃ host ∈ r.uri.host?, host ≠ "") ∧
        0 ≤ context.reading (ask h).2 ∧ isQuotable (context.nextNonce (ask h).2) = true := by
  rw [signsWith_iff]
  refine and_congr_right fun _ => ?_
  constructor
  · intro hmeets
    exact ⟨hmeets .secret c rfl, hmeets .host, hmeets .clock,
      (isQuotable_iff_octets _).mpr (hmeets .nonce)⟩
  · rintro ⟨hsecret, hhost, hclock, hnonce⟩ q
    cases q with
    | credential => exact nofun
    | secret =>
        rintro _ ⟨⟩
        exact hsecret
    | identity =>
        rintro _ ⟨⟩
        rw [hempty]
        exact nofun
    | host => exact hhost
    | clock => exact hclock
    | nonce => exact (isQuotable_iff_octets _).mp hnonce

end SignsWith

/-- **Only a missing identity goes unnoticed.** Whatever the provider is, a request is signed with a
credential that it answers and whose identity the request then names, and that credential is valid
unless its identity is empty. It is valid in any case if the provider is a chain. Any other provider
can have requests signed in nobody's name: a credential with a secret and without an identity signs
wherever the host of the request, the clock and the nonce allow it. -/
theorem signsWith_usable {σ : Type} (ask : Host σ → Answer × Host σ) (context : Context)
    (h : Host σ) (r : Http.Request) :
    (((sign r).run ask context h).1.verdict = .ok () → ∃ c, SignsWith ask context h r c) ∧
    (∀ c, SignsWith ask context h r c →
      (∃ a, Verification.authorization ((sign r).run ask context h).1.request = .ok a ∧
        a.id = c.identity) ∧
      (c.isValid = true ↔ c.identity ≠ "")) ∧
    (∀ p : Provider σ, p.IsChain → ask = p.provide context →
      ∀ c, SignsWith ask context h r c → c.isValid = true) ∧
    ∀ c, (SignsWith ask context h r c ∧ c.isValid = false) ↔
      (ask h).1 = .ok (some c) ∧ c.identity = "" ∧ c.secret ≠ "" ∧
        (∃ host ∈ r.uri.host?, host ≠ "") ∧ 0 ≤ context.reading (ask h).2 ∧
        isQuotable (context.nextNonce (ask h).2) = true := by
  refine ⟨exists_signsWith, ?_, ?_, ?_⟩
  · intro c hsigns
    exact ⟨hsigns.authorization, Credential.isValid_iff_of_secret hsigns.secret⟩
  · rintro p hp rfl c hsigns
    exact Provider.isValid_of_isChain context hp hsigns.answered
  · intro c
    constructor
    · rintro ⟨hsigns, hinvalid⟩
      have hempty : c.identity = "" := by
        by_contra hidentity
        rw [(Credential.isValid_iff_of_secret hsigns.secret).mpr hidentity] at hinvalid
        exact nomatch hinvalid
      obtain ⟨hanswer, hrest⟩ := (signsWith_iff_of_identity_empty hempty).mp hsigns
      exact ⟨hanswer, hempty, hrest⟩
    · rintro ⟨hanswer, hempty, hrest⟩
      refine ⟨(signsWith_iff_of_identity_empty hempty).mpr ⟨hanswer, hrest⟩, ?_⟩
      rw [← Bool.not_eq_true, Credential.isValid_iff]
      exact fun hvalid => hvalid.1 hempty

/-- A signer on a fixed credential without an identity. -/
def nobody : Signer Unit := ⟨Verification.fixedContext, .fixed ⟨"", "apikey"⟩⟩

theorem signsWith_nobody :
    (nobody.provider.provide nobody.context Verification.untouchedHost).1 =
      .ok (some ⟨"", "apikey"⟩) ∧
    (nobody.run (sign Verification.elsewhere) Verification.untouchedHost).1.verdict = .ok () ∧
    Credential.isValid ⟨"", "apikey"⟩ = false := by
  refine ⟨rfl, ?_, rfl⟩
  have hsigns : SignsWith (nobody.provider.provide nobody.context) nobody.context
      Verification.untouchedHost Verification.elsewhere ⟨"", "apikey"⟩ :=
    (signsWith_iff_of_identity_empty rfl).mpr
      ⟨rfl, by decide, by decide +kernel, by decide, by decide +kernel⟩
  exact hsigns.signed

end Signer

end MacAccess
