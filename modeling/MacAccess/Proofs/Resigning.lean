import MacAccess.Proofs.Verification

/-!
# Signing again what was verified

A verifier accepts nothing that a signer could not have made: the tag has one spelling, the nonce
can stand in a header, and the timestamp is not negative. So a request that passes can be signed
again, at the time and with the nonce that its authorization names, and this gives the
authorization that was there. Only zeros in front of the timestamp can get lost on the way.
-/

namespace MacAccess

/-- The context at the time and with the nonce of an authorization. -/
def Context.replaying (c : Context) (a : Authorization) : Context :=
  { c with clock := .fixed a.timestamp, nonces := .fixed a.nonce }

namespace Verification

/-- Signing a request anew as its authorization says. -/
def repetition (r : Http.Request) (secret : String) (a : Authorization) : Signing.Attempt :=
  ⟨r, some ⟨a.id, secret⟩, a.timestamp, a.nonce⟩

theorem on_replaying {σ : Type} (context : Context) (h : Host σ) (r : Http.Request)
    (secret : String) (a : Authorization) :
    Signing.Attempt.on (context.replaying a) h r (some ⟨a.id, secret⟩) =
      repetition r secret a := rfl

/-- **What passed verification can be signed again**, and the authorization is the one that was
there. -/
theorem accepted_repetition {r : Http.Request} {secret : String} {a : Authorization}
    (hverified : (verify r secret).value = .ok true) (ha : authorization r = .ok a)
    (hid : isQuotable a.id = true) :
    ∃ canonical, (repetition r secret a).Accepted ⟨a.id, secret⟩ canonical ∧
      (repetition r secret a).made ⟨a.id, secret⟩ canonical = a := by
  obtain ⟨a', canonical, hsecret, ha', hcanonical, hnonce, hchecks⟩ :=
    exists_of_verify_eq_ok hverified
  obtain rfl : a' = a := Except.ok.inj (ha'.symm.trans ha)
  obtain ⟨value, text, -, -, hparse⟩ := authorization_eq_ok ha
  obtain ⟨_, ts, _, _, -, hts, -⟩ := Authorization.parse_eq_ok hparse
  have hclock : 0 ≤ a'.timestamp := (Authorization.readTimestamp_eq_ok hts).2.2.1
  refine ⟨canonical, ⟨rfl, hsecret, hid, hcanonical, hclock, hnonce⟩, ?_⟩
  have hmac := Signature.checks_eq_true_iff.mp hchecks
  show Authorization.mk a'.id a'.timestamp a'.nonce
    (Signature.mac secret (canonical.text a'.timestamp a'.nonce)) = a'
  rw [← hmac]

/-- A header value is the one that its authorization is printed as exactly if its timestamp has no
spare zeros. -/
theorem render_octets_eq_iff {value : Http.HeaderValue} {text : String} {a : Authorization}
    {id ts nonce mac : List Char} (htext : value.text? = some text)
    (hparse : Authorization.parse text = .ok a)
    (hfields : Authorization.readFields text = .ok (id, ts, nonce, mac)) :
    Utf8.encode a.render = value.octets ↔ Authorization.NoSpareZero ts := by
  obtain ⟨id', ts', nonce', mac', hfields', hts, hlayout⟩ := Authorization.parse_eq_ok hparse
  obtain ⟨-, rfl, -, -⟩ : id' = id ∧ ts' = ts ∧ nonce' = nonce ∧ mac' = mac := by
    simpa using Except.ok.inj (hfields'.symm.trans hfields)
  rw [← Http.HeaderValue.encode_of_text? htext, Utf8.encode_injective.eq_iff, hlayout,
    Authorization.render_eq_layout, Authorization.layout_inj_timestamp,
    Authorization.toString_eq_iff_noSpareZero hts]

/-- **Signing again reproduces a verified request.** The authorization of a request that passes
verification can be read. If its identity can stand in a header, then the same credential signs
the request at the same time and with the same nonce, and the only authorization that is there
afterwards is the one that was there before. It is spelt as before exactly if the timestamp had no
spare zeros. -/
theorem resign_verified {σ : Type} (ask : Host σ → Answer × Host σ) (context : Context)
    (h : Host σ) {r : Http.Request} {secret : String}
    (hverified : (verify r secret).value = .ok true) :
    ∃ value text a id ts nonce mac, r.authorization? = some value ∧ value.text? = some text ∧
      Authorization.parse text = .ok a ∧
      Authorization.readFields text = .ok (id, ts, nonce, mac) ∧
      ((∀ b ∈ Utf8.encode a.id, 0x21 ≤ b ∧ b ≤ 0x7E ∧ b ≠ 0x22) →
        ∃ outcome made madeText,
          ((sign r (some ⟨a.id, secret⟩)).run ask (context.replaying a) h).1 = outcome ∧
          outcome.verdict = .ok () ∧
          outcome.request.headers.values Http.authorizationHeader = [made] ∧
          made.text? = some madeText ∧ Authorization.parse madeText = .ok a ∧
          (made.octets = value.octets ↔ Authorization.NoSpareZero ts)) := by
  obtain ⟨a, -, -, ha, -, -, -⟩ := exists_of_verify_eq_ok hverified
  obtain ⟨value, text, hvalue, htext, hparse⟩ := authorization_eq_ok ha
  obtain ⟨id, ts, nonce, mac, hfields, -, -⟩ := Authorization.parse_eq_ok hparse
  refine ⟨value, text, a, id, ts, nonce, mac, hvalue, htext, hparse, hfields, ?_⟩
  intro hid
  obtain ⟨canonical, haccepted, hmade⟩ :=
    accepted_repetition hverified ha ((isQuotable_iff_octets a.id).mpr hid)
  have hprintable := haccepted.isPrintable_made
  have hback := haccepted.parse_made
  rw [hmade] at hprintable hback
  refine ⟨(repetition r secret a).outcome, ⟨Utf8.encode a.render, true⟩, a.render, ?_, ?_, ?_, ?_,
    hback, ?_⟩
  · rw [Signing.Attempt.run_sign, on_replaying]
  · rw [haccepted.outcome_eq]
  · rw [haccepted.outcome_eq, Signing.Attempt.madeValue, hmade]
    exact r.headers.values_replace Http.authorizationHeader _
  · exact Http.HeaderValue.text?_encode hprintable true
  · dsimp only
    exact render_octets_eq_iff htext hparse hfields

/-- What a signer with the usual credential would send, but for a zero before the timestamp. -/
def paddedText : String :=
  Authorization.layout "uuid" "01336363200" "dj83hs9s"
    (Signature.mac someCredential.secret (CanonicalRequest.common.text 1336363200 "dj83hs9s"))

def paddedValue : Http.HeaderValue := ⟨Utf8.encode paddedText, false⟩

theorem octets_paddedValue : paddedValue.octets = Utf8.encode paddedText := by
  rw [paddedValue]

def padded : Http.Request := CanonicalRequest.plain.authorize paddedValue

/-- The authorization that is read there. -/
def paddedAuthorization : Authorization :=
  ⟨"uuid", 1336363200, "dj83hs9s",
    Signature.mac someCredential.secret (CanonicalRequest.common.text 1336363200 "dj83hs9s")⟩

theorem parse_paddedText : Authorization.parse paddedText = .ok paddedAuthorization :=
  Authorization.parse_layout (by decide) (by decide) (by decide) (by decide)
    fun hmem => (Base64.visible_encode hmem).2.2 rfl

theorem isPrintable_paddedText : Http.IsPrintable paddedText := by
  refine Authorization.isPrintable_layout (by decide) (by decide) (by decide) ?_
  intro x hx
  obtain ⟨hlow, hhigh, -⟩ := Base64.visible_encode hx
  exact ⟨by omega, hhigh⟩

theorem authorization?_padded : padded.authorization? = some paddedValue :=
  CanonicalRequest.plain.authorization?_authorize paddedValue

theorem text?_paddedValue : paddedValue.text? = some paddedText :=
  Http.HeaderValue.text?_encode isPrintable_paddedText false

theorem verify_padded : (verify padded someCredential.secret).value = .ok true := by
  have ha : authorization padded = .ok paddedAuthorization :=
    authorization_of_text authorization?_padded octets_paddedValue isPrintable_paddedText
      parse_paddedText
  have hcanonical : CanonicalRequest.ofRequest padded = .ok CanonicalRequest.common :=
    (CanonicalRequest.ofRequest_authorize _ _).trans accepted_plainAttempt.canonical
  rw [verify_eq accepted_plainAttempt.secret ha hcanonical accepted_plainAttempt.nonce]
  exact congrArg Except.ok (Signature.checks_eq_true_iff.mpr rfl)

theorem resign_verified_padded : (verify padded someCredential.secret).value = .ok true ∧
    ∃ outcome made madeText, ((sign padded (some someCredential)).run noAnswer
        (fixedContext.replaying paddedAuthorization) untouchedHost).1 = outcome ∧
      outcome.verdict = .ok () ∧
      outcome.request.headers.values Http.authorizationHeader = [made] ∧
      made.text? = some madeText ∧ Authorization.parse madeText = .ok paddedAuthorization ∧
      made.octets ≠ paddedValue.octets := by
  refine ⟨verify_padded, ?_⟩
  obtain ⟨value, text, a, id, ts, nonce, mac, hvalue, htext, hparse, hfields, hagain⟩ :=
    resign_verified noAnswer fixedContext untouchedHost verify_padded
  obtain rfl : paddedValue = value := Option.some.inj (authorization?_padded.symm.trans hvalue)
  obtain rfl : paddedText = text := Option.some.inj (text?_paddedValue.symm.trans htext)
  obtain rfl : paddedAuthorization = a := Except.ok.inj (parse_paddedText.symm.trans hparse)
  have hspelt : Authorization.readFields paddedText = .ok ("uuid".toList, "01336363200".toList,
      "dj83hs9s".toList, paddedAuthorization.mac.toList) :=
    Authorization.readFields_layout (by decide) (by decide) (by decide)
      fun hmem => (Base64.visible_encode hmem).2.2 rfl
  obtain ⟨-, rfl, -, -⟩ : _ ∧ "01336363200".toList = ts ∧ _ ∧ _ := by
    simpa using Except.ok.inj (hspelt.symm.trans hfields)
  obtain ⟨outcome, made, madeText, hrun, hok, honly, hmade, hback, hsame⟩ :=
    hagain ((isQuotable_iff_octets "uuid").mp accepted_plainAttempt.identity)
  refine ⟨outcome, made, madeText, hrun, hok, honly, hmade, hback, ?_⟩
  intro hoctets
  have hspare : Authorization.NoSpareZero "01336363200".toList := hsame.mp hoctets
  exact absurd hspare (by decide)

end Verification

end MacAccess
