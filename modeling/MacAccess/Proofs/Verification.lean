import MacAccess.Verification
import MacAccess.Proofs.Signing

/-!
# What a verification tells

A verifier reads off a signed request the authorization that the signer made, and rebuilds the text
from its own canonical form of the request. So it compares two tags: the one of the text that was
signed, and the one of the text of the request at hand. They are the same tag if the request was not
altered. If it was, the texts are different, and no alteration makes the comparison fail.
-/

namespace MacAccess

/-! ## Tags -/

/-- A tag that was written is compared as a whole. -/
theorem Signature.checks_mac (secret text secret' text' : String) :
    checks secret text (mac secret' text') =
      decide (Hmac.tag (Utf8.encode secret) (Utf8.encode text) =
        Hmac.tag (Utf8.encode secret') (Utf8.encode text')) := by
  rw [checks, mac, Base64.decode?_encode]
  show (Hmac.tag _ _ == Hmac.tag _ _) = _
  rw [Bool.beq_eq_decide_eq]

/-- **A text is accepted as a tag exactly if it is what a signer writes.** It has no other spelling,
as Base64 has none, and no part of it is enough. -/
theorem Signature.checks_eq_true_iff {secret text mac : String} :
    checks secret text mac = true ↔ mac = Signature.mac secret text := by
  constructor
  · intro h
    unfold checks at h
    cases hdecode : Base64.decode? mac with
    | none =>
        rw [hdecode] at h
        exact nomatch h
    | some tag =>
        rw [hdecode] at h
        have htag : Hmac.tag (Utf8.encode secret) (Utf8.encode text) = tag := beq_iff_eq.mp h
        rw [Signature.mac, htag, Base64.encode_of_decode? hdecode]
  · rintro rfl
    rw [checks_mac, decide_eq_true rfl]

namespace Verification

/-! ## Authorizations -/

theorem authorization_of_text {r : Http.Request} {text : String} {a : Authorization}
    {value : Http.HeaderValue} (hvalue : r.authorization? = some value)
    (hoctets : value.octets = Utf8.encode text) (hprintable : Http.IsPrintable text)
    (hparse : Authorization.parse text = .ok a) : authorization r = .ok a := by
  have htext : value.text? = some text := by
    have hspelt : value = ⟨Utf8.encode text, value.sensitive⟩ := by rw [← hoctets]
    rw [hspelt, Http.HeaderValue.text?_encode hprintable]
  rw [authorization, hvalue]
  simp only [htext, Authorization.read_eq_ok_iff.mpr hparse]

theorem verify_eq {r : Http.Request} {secret : String} (hsecret : secret ≠ "")
    {a : Authorization} (ha : authorization r = .ok a) {canonical : CanonicalRequest}
    (hcanonical : CanonicalRequest.ofRequest r = .ok canonical)
    (hnonce : isQuotable a.nonce = true) :
    (verify r secret).value =
      .ok (Signature.checks secret (canonical.text a.timestamp a.nonce) a.mac) := by
  have hkeyed : ¬ secret.isEmpty = true := by simpa using hsecret
  rw [verify, if_neg hkeyed, ha, hcanonical]
  simp only [CanonicalRequest.signedText, if_pos hnonce, Noted.map, Except.map]

theorem authorization_eq_ok {r : Http.Request} {a : Authorization}
    (h : authorization r = .ok a) :
    ∃ value text, r.authorization? = some value ∧ value.text? = some text ∧
      Authorization.parse text = .ok a := by
  unfold authorization at h
  split at h
  · exact nomatch h
  · next value hvalue =>
    split at h
    · exact nomatch h
    · next text htext =>
      exact ⟨value, text, hvalue, htext, Authorization.read_eq_ok_iff.mp h⟩

/-- The ways in which a verification ends, in the order in which they are looked at. -/
inductive Judged (r : Http.Request) (secret : String) : Except Failure Bool → Prop where
  | unkeyed (hsecret : secret = "") : Judged r secret (.error emptySecret)
  | unauthorized {f : Failure} (hsecret : secret ≠ "") (ha : authorization r = .error f) :
      Judged r secret (.error f)
  | hostless {a : Authorization} (hsecret : secret ≠ "") (ha : authorization r = .ok a)
      (hhost : ¬ ∃ host ∈ r.uri.host?, host ≠ "") :
      Judged r secret (.error (CanonicalRequest.missingHost r.uri))
  | unquotable {a : Authorization} {canonical : CanonicalRequest} (hsecret : secret ≠ "")
      (ha : authorization r = .ok a) (hcanonical : CanonicalRequest.ofRequest r = .ok canonical)
      (hnonce : ¬ isQuotable a.nonce = true) :
      Judged r secret (.error CanonicalRequest.nonceNotQuotable)
  | compared {a : Authorization} {canonical : CanonicalRequest} (hsecret : secret ≠ "")
      (ha : authorization r = .ok a) (hcanonical : CanonicalRequest.ofRequest r = .ok canonical)
      (hnonce : isQuotable a.nonce = true) :
      Judged r secret
        (.ok (Signature.checks secret (canonical.text a.timestamp a.nonce) a.mac))

/-- **Every verification ends in one of these ways.** -/
theorem judged_verify (r : Http.Request) (secret : String) :
    Judged r secret (verify r secret).value := by
  by_cases hsecret : secret = ""
  · subst hsecret
    exact .unkeyed rfl
  have hkeyed : ¬ secret.isEmpty = true := by simpa using hsecret
  cases ha : authorization r with
  | error f =>
      rw [verify, if_neg hkeyed, ha]
      exact .unauthorized hsecret ha
  | ok a =>
      by_cases hhost : ∃ host ∈ r.uri.host?, host ≠ ""
      · obtain ⟨canonical, hcanonical⟩ := CanonicalRequest.exists_ofRequest hhost
        by_cases hnonce : isQuotable a.nonce = true
        · rw [verify_eq hsecret ha hcanonical hnonce]
          exact .compared hsecret ha hcanonical hnonce
        · rw [verify, if_neg hkeyed, ha, hcanonical]
          simp only [CanonicalRequest.signedText, if_neg hnonce]
          exact .unquotable hsecret ha hcanonical hnonce
      · rw [verify, if_neg hkeyed, ha, CanonicalRequest.ofRequest_of_no_host hhost]
        exact .hostless hsecret ha hhost

/-- All that a verdict tells of the request. -/
theorem exists_of_verify_eq_ok {r : Http.Request} {secret : String} {verdict : Bool}
    (h : (verify r secret).value = .ok verdict) :
    ∃ a canonical, secret ≠ "" ∧ authorization r = .ok a ∧
      CanonicalRequest.ofRequest r = .ok canonical ∧ isQuotable a.nonce = true ∧
      Signature.checks secret (canonical.text a.timestamp a.nonce) a.mac = verdict := by
  have hjudged := judged_verify r secret
  rw [h] at hjudged
  cases hjudged with
  | compared hsecret ha hcanonical hnonce =>
      exact ⟨_, _, hsecret, ha, hcanonical, hnonce, rfl⟩

/-- **A verifier compares the tag of its own text with the one that was signed.** This is so for
every request that carries the authorization, whoever put it there. -/
theorem verify_of_accepted {attempt : Signing.Attempt} {c : Credential} {p : CanonicalRequest}
    (h : attempt.Accepted c p) {r : Http.Request} {value : Http.HeaderValue}
    (hvalue : r.authorization? = some value)
    (hoctets : value.octets = (attempt.madeValue c p).octets) {q : CanonicalRequest}
    (hq : CanonicalRequest.ofRequest r = .ok q) {secret : String} (hsecret : secret ≠ "") :
    (verify r secret).value = .ok (decide (
      Hmac.tag (Utf8.encode secret) (Utf8.encode (q.text attempt.timestamp attempt.nonce)) =
        Hmac.tag (Utf8.encode c.secret)
          (Utf8.encode (p.text attempt.timestamp attempt.nonce)))) := by
  rw [Signing.Attempt.octets_madeValue] at hoctets
  have hauthorization : authorization r = .ok (attempt.made c p) :=
    authorization_of_text hvalue hoctets h.isPrintable_made h.parse_made
  have hnonce : isQuotable (attempt.made c p).nonce = true := h.nonce
  rw [verify_eq hsecret hauthorization hq hnonce]
  exact congrArg Except.ok (Signature.checks_mac _ _ _ _)

/-! ## Accepted attempts -/

section Accepted

variable {attempt : Signing.Attempt} {c : Credential} {canonical : CanonicalRequest}

/-- The authorization that an accepted attempt comes to is the one that a verifier reads. -/
theorem authorization_of_accepted (h : attempt.Accepted c canonical) :
    authorization attempt.outcome.request = .ok (attempt.made c canonical) :=
  authorization_of_text h.authorization?_outcome (attempt.octets_madeValue c canonical)
    h.isPrintable_made h.parse_made

/-- A verifier finds what an accepted attempt comes to signed with its credential. -/
theorem verify_outcome_of_accepted (h : attempt.Accepted c canonical) :
    (verify attempt.outcome.request c.secret).value = .ok true := by
  have hcanonical : CanonicalRequest.ofRequest attempt.outcome.request = .ok canonical := by
    rw [h.outcome_eq]
    exact (CanonicalRequest.ofRequest_authorize _ _).trans h.canonical
  have hnonce : isQuotable (attempt.made c canonical).nonce = true := h.nonce
  rw [verify_eq h.secret (authorization_of_accepted h) hcanonical hnonce]
  exact congrArg Except.ok (Signature.checks_eq_true_iff.mpr rfl)

end Accepted

/-! ## Signed requests -/

/-- **A signed request passes verification** with the secret that signed it. -/
theorem verify_signed {σ : Type} (ask : Host σ → Answer × Host σ) (context : Context)
    (h : Host σ) (r : Http.Request) (c : Credential)
    (hok : ((sign r (some c)).run ask context h).1.verdict = .ok ()) :
    (verify ((sign r (some c)).run ask context h).1.request c.secret).value = .ok true := by
  rw [Signing.Attempt.run_sign] at hok ⊢
  obtain ⟨c', p, haccepted⟩ := Signing.Attempt.accepted_of_ok hok
  have hcredential : some c = some c' := haccepted.credential
  obtain rfl : c = c' := Option.some.inj hcredential
  rw [haccepted.outcome_eq]
  show (verify (r.authorize _) c.secret).value = _
  have hvalue := r.authorization?_authorize
    ((Signing.Attempt.on context h r (some c)).madeValue c p)
  -- the authorization is no part of what it is made for
  have hcanonical := (CanonicalRequest.ofRequest_authorize r
    ((Signing.Attempt.on context h r (some c)).madeValue c p)).trans haccepted.canonical
  rw [verify_of_accepted haccepted hvalue (Eq.refl _) hcanonical haccepted.secret]
  simp only [decide_true]

/-- A host on which nothing has happened yet. -/
def untouchedHost : Host Unit := ⟨[], none, [], fun _ => 0, fun _ _ => [], 0, 0, (), []⟩

def noAnswer (h : Host Unit) : Answer × Host Unit := (.ok none, h)

/-- A context that gives one reading and one nonce. -/
def fixedContext : Context := ⟨.unavailable, .empty, .fixed 1336363200, .fixed "dj83hs9s"⟩

def someCredential : Credential := ⟨"uuid", "apikey"⟩

/-- Signing a request with user information. -/
def plainAttempt : Signing.Attempt :=
  .on fixedContext untouchedHost CanonicalRequest.plain (some someCredential)

theorem accepted_plainAttempt : plainAttempt.Accepted someCredential CanonicalRequest.common :=
  ⟨rfl, by decide, by decide +kernel, by decide +kernel, by decide, by decide +kernel⟩

/-- What becomes of the request. -/
def signedPlain : Outcome :=
  ((sign CanonicalRequest.plain (some someCredential)).run noAnswer fixedContext untouchedHost).1

theorem signedPlain_eq : signedPlain = plainAttempt.outcome := Signing.Attempt.run_sign _ _ _ _ _

theorem ok_signedPlain : signedPlain.verdict = .ok () := by
  rw [signedPlain_eq, accepted_plainAttempt.outcome_eq]

theorem verify_signed_plain : signedPlain.verdict = .ok () ∧
    (verify signedPlain.request someCredential.secret).value = .ok true :=
  ⟨ok_signedPlain, verify_signed noAnswer fixedContext untouchedHost _ _ ok_signedPlain⟩

/-! ## Altered requests -/

/-- **An altered request passes only by a collision.** A request with the authorization of another
one, altered in its target or verified with another secret, is never reported as an error. It
passes exactly if two whole tags are the same, which are tags of different texts unless the secrets
differ. -/
theorem verify_altered {σ : Type} (ask : Host σ → Answer × Host σ) (context : Context)
    (h : Host σ) {r r' : Http.Request} (hr : r.IsRead) (hr' : r'.IsRead) (c : Credential)
    (hok : ((sign r (some c)).run ask context h).1.verdict = .ok ())
    {value value' : Http.HeaderValue}
    (hvalue : ((sign r (some c)).run ask context h).1.request.authorization? = some value)
    (hvalue' : r'.authorization? = some value') (hoctets : value'.octets = value.octets)
    (hhost : ∃ host ∈ r'.uri.host?, host ≠ "") {secret : String} (hsecret : secret ≠ "")
    (haltered : ¬ r.SameTarget r' ∨ secret ≠ c.secret) :
    ∃ p q signed rebuilt, CanonicalRequest.ofRequest r = .ok p ∧
      CanonicalRequest.ofRequest r' = .ok q ∧
      (p.signedText (context.reading h) (context.nextNonce h)).value = .ok signed ∧
      (q.signedText (context.reading h) (context.nextNonce h)).value = .ok rebuilt ∧
      (verify r' secret).value = .ok (decide (
        Hmac.tag (Utf8.encode secret) (Utf8.encode rebuilt) =
          Hmac.tag (Utf8.encode c.secret) (Utf8.encode signed))) ∧
      (Hmac.tag (Utf8.encode secret) (Utf8.encode rebuilt)).length = 32 ∧
      (Hmac.tag (Utf8.encode c.secret) (Utf8.encode signed)).length = 32 ∧
      (secret = c.secret → Utf8.encode rebuilt ≠ Utf8.encode signed) := by
  rw [Signing.Attempt.run_sign] at hok hvalue
  obtain ⟨c', p, haccepted⟩ := Signing.Attempt.accepted_of_ok hok
  have hcredential : some c = some c' := haccepted.credential
  obtain rfl : c = c' := Option.some.inj hcredential
  obtain ⟨q, hq⟩ := CanonicalRequest.exists_ofRequest hhost
  have hp : CanonicalRequest.ofRequest r = .ok p := haccepted.canonical
  have hmade : value.octets = ((Signing.Attempt.on context h r (some c)).madeValue c p).octets := by
    rw [haccepted.authorization?_outcome] at hvalue
    rw [← Option.some.inj hvalue]
  have hverify := verify_of_accepted haccepted hvalue' (hoctets.trans hmade) hq hsecret
  have htext (canonical : CanonicalRequest) :
      (canonical.signedText (context.reading h) (context.nextNonce h)).value =
        .ok (canonical.text (context.reading h) (context.nextNonce h)) :=
    CanonicalRequest.signedText_eq_ok_iff.mpr ⟨haccepted.nonce, rfl⟩
  refine ⟨p, q, p.text (context.reading h) (context.nextNonce h),
    q.text (context.reading h) (context.nextNonce h), hp, hq, htext p, htext q, hverify,
    Hmac.length_tag _ _, Hmac.length_tag _ _, ?_⟩
  intro hsame htexts
  have htarget : ¬ r.SameTarget r' := haltered.resolve_right (not_not_intro hsame)
  -- equal octets are those of equal texts, and these tell the target
  obtain ⟨-, -, hsameTarget⟩ := (CanonicalRequest.text_eq_iff_sameTarget hr hr' hp hq
    haccepted.nonce haccepted.nonce).mp (Utf8.encode_injective htexts).symm
  exact htarget hsameTarget

/-- A request for another path. -/
def elsewhere : Http.Request := ⟨"GET", ⟨some "http", some "example.com", "/b", none⟩, []⟩

theorem isRead_elsewhere : elsewhere.IsRead :=
  ⟨⟨Utf8.encode "GET", by decide +kernel⟩,
    ⟨Utf8.encode "http://example.com/b", by decide +kernel⟩⟩

/-- The same with the authorization of the request that was signed. -/
def moved : Http.Request :=
  elsewhere.authorize (plainAttempt.madeValue someCredential CanonicalRequest.common)

theorem verify_altered_moved : ¬ CanonicalRequest.plain.SameTarget moved ∧
    ∃ signed rebuilt,
      (verify moved someCredential.secret).value = .ok (decide (
        Hmac.tag (Utf8.encode someCredential.secret) (Utf8.encode rebuilt) =
          Hmac.tag (Utf8.encode someCredential.secret) (Utf8.encode signed))) ∧
      Utf8.encode rebuilt ≠ Utf8.encode signed := by
  have hpath : ¬ CanonicalRequest.plain.SameTarget moved :=
    fun h => absurd h.path (by decide)
  have hvalue : signedPlain.request.authorization? =
      some (plainAttempt.madeValue someCredential CanonicalRequest.common) := by
    rw [signedPlain_eq, accepted_plainAttempt.authorization?_outcome]
  have hmoved : moved.authorization? =
      some (plainAttempt.madeValue someCredential CanonicalRequest.common) :=
    elsewhere.authorization?_authorize _
  have hhost : ∃ host ∈ moved.uri.host?, host ≠ "" := by decide +kernel
  have hsecret : someCredential.secret ≠ "" := by decide
  obtain ⟨_, _, signed, rebuilt, -, -, -, -, hverify, -, -, htexts⟩ :=
    verify_altered noAnswer fixedContext untouchedHost CanonicalRequest.isRead_plain
      (isRead_elsewhere.authorize _) someCredential ok_signedPlain hvalue hmoved rfl hhost hsecret
      (Or.inl hpath)
  exact ⟨hpath, signed, rebuilt, hverify, htexts rfl⟩

end Verification

end MacAccess
