import MacAccess.Proofs.Digits
import MacAccess.Proofs.Verification

/-!
# Random nonces

A random nonce is a Base64 text, so it may stand in a header and on a line of the signed text,
however many octets were drawn and whatever they are. A verifier gets it back as it was sent, and
it can be read back to the octets of the draw. So nothing of the draw is lost, and two nonces are
the same only if the same octets were drawn twice.
-/

namespace MacAccess.RandomNonce

variable {σ : Type}

/-! ## Lengths -/

theorem ofLength_eq_ok_iff {length : Nat} {g : RandomNonce} :
    ofLength length = .ok g ↔ g.length = length := by
  rcases g with ⟨octets, henough⟩
  unfold ofLength
  constructor
  · intro h
    split at h
    · rw [← Except.ok.inj h]
    · exact nomatch h
  · rintro rfl
    rw [dif_pos henough]

theorem ofLength_of_lt {length : Nat} (h : length < minNonceOctets) :
    ∃ f, ofLength length = .error f ∧ f.kind = .configInvalid := by
  rw [ofLength, dif_neg (Nat.not_le.mpr h)]
  exact ⟨_, rfl, rfl⟩

/-! ## Draws -/

/-- Whether the next draw on a host yields these octets, as many as are asked for. -/
structure Delivers (g : RandomNonce) (h : Host σ) (octets : Bytes) : Prop where
  drawn : h.entropy h.nonceDraws g.length = octets
  length : octets.length = g.length

theorem Delivers.drawNonce {c : Context} {g : RandomNonce} {h : Host σ} {octets : Bytes}
    (hdraw : g.Delivers h octets) (hc : c.nonces = .random g) :
    (c.drawNonce h).1 = Base64.encode octets := by
  simp only [Context.drawNonce, Context.nextNonce, hc, ofDraw, hdraw.drawn]

theorem isQuotable_encode (octets : Bytes) : isQuotable (Base64.encode octets) = true :=
  (isQuotable_iff _).mpr fun _ hx => Base64.visible_encode hx

/-- A signing with a nonce that can be quoted sends it to the verifier as it is. -/
theorem authorization_nonce_of_meets {ask : Host σ → Answer × Host σ} {c : Context} {h : Host σ}
    {r : Http.Request} {credential? : Option Credential}
    (hmeets : ∀ q, (Signing.Attempt.on c h r credential?).Meets q) :
    ((sign r credential?).run ask c h).1.verdict = .ok () ∧
      ∃ a, Verification.authorization ((sign r credential?).run ask c h).1.request = .ok a ∧
        a.nonce = (c.drawNonce h).1 := by
  obtain ⟨credential, canonical, haccepted⟩ := Signing.Attempt.accepted_of_meets hmeets
  rw [Signing.Attempt.run_sign]
  refine ⟨by rw [haccepted.outcome_eq], ?_⟩
  exact ⟨_, Verification.authorization_of_accepted haccepted, rfl⟩

/-- **A random nonce can always be signed, and nothing of the draw is lost.** A generator is made
for every number of octets but those that are too few. Whatever octets it draws, the nonce has four
characters for each three of them or part of three, all of them visible and none a quote. It goes
into the signed text of every request, and a request that meets all else is signed with it and
delivers it to the verifier unchanged. It is read back to the octets of the draw, so no draw of
other octets, by this generator or another, gives the same nonce. -/
theorem drawNonce_signable {c : Context} {g : RandomNonce} (hc : c.nonces = .random g)
    {h : Host σ} {octets : Bytes} (hdraw : g.Delivers h octets) {nonce : String}
    (hnonce : (c.drawNonce h).1 = nonce) :
    (∀ length < 12, ∃ f, ofLength length = .error f ∧ f.kind = .configInvalid) ∧
    (∀ length ≥ 12, ∃ generator, ofLength length = .ok generator ∧ generator.length = length) ∧
    nonce.length = 4 * ((g.length + 2) / 3) ∧
    (∀ x ∈ nonce.toList, 0x21 ≤ x.toNat ∧ x.toNat ≤ 0x7E ∧ x ≠ '"') ∧
    (∀ (canonical : CanonicalRequest) (t : Timestamp),
      (canonical.signedText t nonce).value = .ok (canonical.text t nonce)) ∧
    (∀ (ask : Host σ → Answer × Host σ) (r : Http.Request) (credential? : Option Credential),
      (∀ q, q ≠ .nonce → (Signing.Attempt.on c h r credential?).Meets q) →
        ((sign r credential?).run ask c h).1.verdict = .ok () ∧
          ∃ a, Verification.authorization ((sign r credential?).run ask c h).1.request = .ok a ∧
            a.nonce = nonce) ∧
    Base64.decode nonce = .ok octets ∧
    ∀ (c' : Context) (g' : RandomNonce) (h' : Host σ) (octets' : Bytes),
      c'.nonces = .random g' → g'.Delivers h' octets' → octets' ≠ octets →
        (c'.drawNonce h').1 ≠ nonce := by
  have hencoded : nonce = Base64.encode octets := hnonce.symm.trans (hdraw.drawNonce hc)
  have hquotable : isQuotable nonce = true := by
    rw [hencoded]
    exact isQuotable_encode octets
  refine ⟨fun length hlt => ofLength_of_lt hlt, ?_, ?_, (isQuotable_iff nonce).mp hquotable, ?_, ?_,
    Base64.decode_eq_ok_iff.mpr hencoded, ?_⟩
  · intro length henough
    exact ⟨⟨length, henough⟩, ofLength_eq_ok_iff.mpr rfl, rfl⟩
  · rw [hencoded, Base64.length_encode, hdraw.length]
  · intro canonical t
    exact CanonicalRequest.signedText_eq_ok_iff.mpr ⟨hquotable, rfl⟩
  · intro ask r credential? hothers
    rw [← hnonce]
    refine authorization_nonce_of_meets fun q => ?_
    by_cases hq : q = .nonce
    · subst hq
      have hnext : c.nextNonce h = nonce := hnonce
      show ∀ b ∈ Utf8.encode (c.nextNonce h), _
      rw [hnext]
      exact (isQuotable_iff_octets nonce).mp hquotable
    · exact hothers q hq
  · intro c' g' h' octets' hc' hdraw' hother hsame
    rw [hdraw'.drawNonce hc', hencoded] at hsame
    exact hother (Base64.encode_injective hsame)

/-- A generator of fourteen octets, so that the last group is not full. -/
def fourteen : RandomNonce := ⟨14, by decide⟩

def drawingContext : Context := ⟨.unavailable, .empty, .fixed 1336363200, .random fourteen⟩

/-- A host on which a draw yields octets that are spelt without letters. -/
def drawingHost : Host Unit :=
  { Verification.untouchedHost with entropy := fun _ length => List.replicate length 0xFB }

theorem drawNonce_signable_fourteen :
    (drawingContext.drawNonce drawingHost).1 = "+/v7+/v7+/v7+/v7+/s=" ∧
    (Verification.authorization
      ((sign CanonicalRequest.plain (some Verification.someCredential)).run Verification.noAnswer
        drawingContext drawingHost).1.request).map Authorization.nonce =
          .ok "+/v7+/v7+/v7+/v7+/s=" ∧
    Base64.decode "+/v7+/v7+/v7+/v7+/s=" = .ok (List.replicate 14 0xFB) := by
  have hnonce : (drawingContext.drawNonce drawingHost).1 = "+/v7+/v7+/v7+/v7+/s=" := by
    decide +kernel
  have hdraw : fourteen.Delivers drawingHost (List.replicate 14 0xFB) := ⟨rfl, rfl⟩
  have hsource : drawingContext.nonces = .random fourteen := rfl
  obtain ⟨-, -, -, -, -, hsigned, hdecode, -⟩ := drawNonce_signable hsource hdraw hnonce
  have hmeets : ∀ q, q ≠ .nonce → (Signing.Attempt.on drawingContext drawingHost
      CanonicalRequest.plain (some Verification.someCredential)).Meets q := by
    intro q hq
    -- only the nonce is another one than in the attempt with a fixed nonce
    have hfixed := Verification.accepted_plainAttempt.meets q
    cases q with
    | nonce => exact absurd rfl hq
    | _ => exact hfixed
  obtain ⟨-, a, ha, hcarried⟩ := hsigned Verification.noAnswer _ _ hmeets
  refine ⟨hnonce, ?_, hdecode⟩
  rw [ha, ← hcarried]
  rfl

end MacAccess.RandomNonce
