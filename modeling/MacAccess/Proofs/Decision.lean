import MacAccess.Proofs.Grammar
import MacAccess.Proofs.Verification

/-!
# What decides a verification

A verification needs a secret, an authorization that can be read, a host, and a nonce that can stand
in the signed text. If it has these it comes to a verdict, and one tag is accepted, in one spelling.
If it lacks one it is refused. The request is at fault, but for a missing secret and for a nonce
with a blank: that is read like any other nonce, and is refused as a signer would refuse its own.
-/

namespace MacAccess

/-! ## Blanks -/

theorem Http.HeaderValue.isText_of_text? {v : HeaderValue} {text : String} (h : v.text? = some text)
    {c : Char} (hc : c ∈ text.toList) : c = '\t' ∨ 0x20 ≤ c.toNat ∧ c.toNat ≤ 0x7E := by
  unfold text? at h
  split_ifs at h with hall
  rw [← Option.some.inj h] at hc
  obtain ⟨b, hb, hnat⟩ := mem_asciiText hc
  have htext := List.all_eq_true.mp hall b hb
  simp only [isText, Bool.or_eq_true, Bool.and_eq_true, decide_eq_true_eq, beq_iff_eq,
    UInt8.le_iff_toNat_le, ← UInt8.toNat_inj, hnat] at htext
  rcases htext with htab | hvisible
  · exact Or.inl (Char.toNat_inj.mp htab)
  · exact Or.inr hvisible

theorem Authorization.Spelling.mem_text_of_mem_nonce {s : Spelling} {c : Char}
    (h : c ∈ s.nonce.toList) : c ∈ s.text.toList := by
  simp [text, h]

theorem Signature.checks_eq_decide (secret text mac : String) :
    checks secret text mac = decide (mac = Signature.mac secret text) := by
  rw [Bool.eq_iff_iff, checks_eq_true_iff, decide_eq_true_iff]

namespace Verification

/-! ## Authorizations -/

/-- Whether the first authorization of a request is text that can be read as this one. -/
def Carries (r : Http.Request) (a : Authorization) : Prop :=
  ∃ value text, r.authorization? = some value ∧ value.text? = some text ∧
    Authorization.read text = .ok a

theorem authorization_eq_ok_iff {r : Http.Request} {a : Authorization} :
    authorization r = .ok a ↔ Carries r a := by
  constructor
  · intro h
    obtain ⟨value, text, hvalue, htext, hparse⟩ := authorization_eq_ok h
    exact ⟨value, text, hvalue, htext, Authorization.read_eq_ok_iff.mpr hparse⟩
  · rintro ⟨value, text, hvalue, htext, hread⟩
    rw [authorization, hvalue]
    simp only [htext, hread]

theorem Carries.unique {r : Http.Request} {a a' : Authorization} (h : Carries r a)
    (h' : Carries r a') : a = a' := by
  have ha := authorization_eq_ok_iff.mpr h
  rw [authorization_eq_ok_iff.mpr h'] at ha
  exact (Except.ok.inj ha).symm

/-- A request that carries no authorization is at fault for it. -/
theorem kind_of_authorization_eq_error {r : Http.Request} {f : Failure}
    (h : authorization r = .error f) : f.kind = .requestInvalid := by
  unfold authorization at h
  split at h
  · rw [← Except.error.inj h]
    rfl
  · split at h
    · rw [← Except.error.inj h]
      rfl
    · exact Authorization.kind_of_read_eq_error h

/-- The only characters of a received nonce that cannot be signed are blanks. -/
theorem Carries.isQuotable_nonce_iff {r : Http.Request} {a : Authorization} (h : Carries r a) :
    isQuotable a.nonce = true ↔ ¬ (' ' ∈ a.nonce.toList ∨ '\t' ∈ a.nonce.toList) := by
  obtain ⟨value, text, -, htext, hread⟩ := h
  have hparse := Authorization.read_eq_ok_iff.mp hread
  obtain ⟨s, hlegal, rfl⟩ := Authorization.Spelling.exists_of_parse hparse
  obtain rfl : s.meaning = a := Except.ok.inj (hlegal.parse_text.symm.trans hparse)
  rw [isQuotable_iff]
  constructor
  · rintro hvisible (hspace | htab)
    · exact absurd (hvisible _ hspace).1 (by decide)
    · exact absurd (hvisible _ htab).1 (by decide)
  · intro hblank c hc
    have hmem := Authorization.Spelling.mem_text_of_mem_nonce hc
    rcases Http.HeaderValue.isText_of_text? htext hmem with rfl | ⟨hlow, hhigh⟩
    · exact absurd (Or.inr hc) hblank
    · have hspace : c.toNat ≠ 0x20 := by
        intro hnat
        obtain rfl : c = ' ' := Char.toNat_inj.mp hnat
        exact hblank (Or.inl hc)
      refine ⟨by omega, hhigh, ?_⟩
      rintro rfl
      exact hlegal.nonce hc

/-! ## Verdicts -/

/-- A verification that has all it needs comes to a verdict. -/
theorem Carries.verify_eq {r : Http.Request} {a : Authorization} (h : Carries r a) {secret : String}
    (hsecret : secret ≠ "") {canonical : CanonicalRequest}
    (hcanonical : CanonicalRequest.ofRequest r = .ok canonical)
    (hnonce : isQuotable a.nonce = true) :
    (verify r secret).value =
      .ok (decide (a.mac = Signature.mac secret (canonical.text a.timestamp a.nonce))) := by
  rw [Verification.verify_eq hsecret (authorization_eq_ok_iff.mpr h) hcanonical hnonce,
    Signature.checks_eq_decide]

/-- The header with a printed authorization. -/
def headersOf (a : Authorization) : Http.Headers :=
  [(Http.authorizationHeader, ⟨Utf8.encode a.render, false⟩)]

theorem carries_headersOf {r : Http.Request} {a : Authorization} (hts : 0 ≤ a.timestamp)
    (hid : isQuotable a.id = true) (hnonce : isQuotable a.nonce = true)
    (hmac : isQuotable a.mac = true) : Carries { r with headers := headersOf a } a := by
  have hprintable : Http.IsPrintable a.render := Authorization.isPrintable_render hts
    (isPrintable_of_isQuotable hid) (isPrintable_of_isQuotable hnonce)
    (isPrintable_of_isQuotable hmac)
  refine ⟨_, a.render, rfl, Http.HeaderValue.text?_encode hprintable false, ?_⟩
  exact Authorization.read_eq_ok_iff.mpr (Authorization.parse_render hts
    (quote_notMem_of_isQuotable hid) (quote_notMem_of_isQuotable hnonce)
    (quote_notMem_of_isQuotable hmac))

/-- **What a verification decides, and on what.** There is a verdict exactly if the secret is not
empty, the request names a host, and its first authorization can be read, with a nonce of visible
characters. The verdict is that the tag is, character for character, the one of the text that the
verifier makes of the request. So of all tags that can be sent with a timestamp and a nonce one is
accepted, and the others give a verdict against the request, however they are spelt. -/
theorem verify_decides (r : Http.Request) (secret : String) :
    ((∃ verdict, (verify r secret).value = .ok verdict) ↔
      secret ≠ "" ∧ (∃ host ∈ r.uri.host?, host ≠ "") ∧
        ∃ a, Carries r a ∧ ∀ b ∈ Utf8.encode a.nonce, 0x21 ≤ b ∧ b ≤ 0x7E ∧ b ≠ 0x22) ∧
    (∀ a verdict, Carries r a → (verify r secret).value = .ok verdict →
      ∃ canonical signed, CanonicalRequest.ofRequest r = .ok canonical ∧
        (canonical.signedText a.timestamp a.nonce).value = .ok signed ∧
        (verdict = true ↔
          a.mac = Base64.encode (Hmac.tag (Utf8.encode secret) (Utf8.encode signed)))) ∧
    ∀ (t : Timestamp) (nonce : String), secret ≠ "" → (∃ host ∈ r.uri.host?, host ≠ "") →
      0 ≤ t → (∀ b ∈ Utf8.encode nonce, 0x21 ≤ b ∧ b ≤ 0x7E ∧ b ≠ 0x22) →
      ∃ tag, (∃ headers id, Carries { r with headers } ⟨id, t, nonce, tag⟩) ∧
        ∀ headers id mac, Carries { r with headers } ⟨id, t, nonce, mac⟩ →
          (verify { r with headers } secret).value = .ok (decide (mac = tag)) := by
  refine ⟨⟨?_, ?_⟩, ?_, ?_⟩
  · rintro ⟨verdict, hverdict⟩
    obtain ⟨a, canonical, hsecret, ha, hcanonical, hnonce, -⟩ := exists_of_verify_eq_ok hverdict
    obtain ⟨host, hhost, hne, -⟩ := CanonicalRequest.ofRequest_eq_ok_iff.mp hcanonical
    exact ⟨hsecret, ⟨host, hhost, hne⟩, a, authorization_eq_ok_iff.mp ha,
      (isQuotable_iff_octets _).mp hnonce⟩
  · rintro ⟨hsecret, hhost, a, ha, hnonce⟩
    obtain ⟨canonical, hcanonical⟩ := CanonicalRequest.exists_ofRequest hhost
    exact ⟨_, ha.verify_eq hsecret hcanonical ((isQuotable_iff_octets _).mpr hnonce)⟩
  · intro a verdict ha hverdict
    obtain ⟨a', canonical, hsecret, ha', hcanonical, hnonce, hchecks⟩ :=
      exists_of_verify_eq_ok hverdict
    obtain rfl := ha.unique (authorization_eq_ok_iff.mp ha')
    refine ⟨canonical, canonical.text a.timestamp a.nonce, hcanonical,
      CanonicalRequest.signedText_eq_ok_iff.mpr ⟨hnonce, rfl⟩, ?_⟩
    rw [← hchecks]
    exact Signature.checks_eq_true_iff
  · intro t nonce hsecret hhost ht hnonce
    have hquotable := (isQuotable_iff_octets nonce).mpr hnonce
    have hid : isQuotable "" = true := by decide
    obtain ⟨canonical, hcanonical⟩ := CanonicalRequest.exists_ofRequest hhost
    refine ⟨Signature.mac secret (canonical.text t nonce), ⟨headersOf ⟨"", t, nonce, _⟩, "",
      carries_headersOf ht hid hquotable (Signing.isQuotable_mac _ _)⟩, ?_⟩
    intro headers id mac ha
    -- the headers are no part of what is signed
    exact ha.verify_eq hsecret hcanonical hquotable

/-! ## Failures -/

/-- Whether a request that names a host carries a nonce with a blank. -/
def HasBlankNonce (r : Http.Request) : Prop :=
  (∃ host ∈ r.uri.host?, host ≠ "") ∧
    ∃ a, Carries r a ∧ (' ' ∈ a.nonce.toList ∨ '\t' ∈ a.nonce.toList)

section Judged

variable {r : Http.Request} {secret : String} {outcome : Except Failure Bool}

theorem Judged.kind_eq (h : Judged r secret outcome) {f : Failure} (hf : outcome = .error f) :
    f.kind = .requestInvalid ∨ f.kind = .signingFailure := by
  cases h with
  | unkeyed hsecret =>
      rw [← Except.error.inj hf]
      exact Or.inr rfl
  | unauthorized hsecret ha =>
      rw [← Except.error.inj hf]
      exact Or.inl (kind_of_authorization_eq_error ha)
  | hostless hsecret ha hhost =>
      rw [← Except.error.inj hf]
      exact Or.inl rfl
  | unquotable hsecret ha hcanonical hnonce =>
      rw [← Except.error.inj hf]
      exact Or.inr rfl
  | compared hsecret ha hcanonical hnonce => exact nomatch hf

/-- A failure of the signing shows an empty secret or a blank, -/
theorem Judged.of_signingFailure (h : Judged r secret outcome) {f : Failure}
    (hf : outcome = .error f) (hkind : f.kind = .signingFailure) :
    secret = "" ∨ HasBlankNonce r := by
  cases h with
  | unkeyed hsecret => exact Or.inl hsecret
  | unauthorized hsecret ha =>
      rw [← Except.error.inj hf, kind_of_authorization_eq_error ha] at hkind
      exact nomatch hkind
  | hostless hsecret ha hhost =>
      rw [← Except.error.inj hf] at hkind
      exact nomatch hkind
  | unquotable hsecret ha hcanonical hnonce =>
      have hcarries := authorization_eq_ok_iff.mp ha
      obtain ⟨host, hhost, hne, -⟩ := CanonicalRequest.ofRequest_eq_ok_iff.mp hcanonical
      rw [hcarries.isQuotable_nonce_iff, not_not] at hnonce
      exact Or.inr ⟨⟨host, hhost, hne⟩, _, hcarries, hnonce⟩
  | compared hsecret ha hcanonical hnonce => exact nomatch hf

/-- and these do not end in anything else. -/
theorem Judged.signingFailure (h : Judged r secret outcome)
    (hcause : secret = "" ∨ HasBlankNonce r) :
    ∃ f, outcome = .error f ∧ f.kind = .signingFailure := by
  cases h with
  | unkeyed hsecret => exact ⟨_, rfl, rfl⟩
  | unauthorized hsecret ha =>
      obtain ⟨-, a, hcarries, -⟩ := hcause.resolve_left hsecret
      rw [authorization_eq_ok_iff.mpr hcarries] at ha
      exact nomatch ha
  | hostless hsecret ha hhost => exact absurd (hcause.resolve_left hsecret).1 hhost
  | unquotable hsecret ha hcanonical hnonce => exact ⟨_, rfl, rfl⟩
  | compared hsecret ha hcanonical hnonce =>
      obtain ⟨-, a, hcarries, hblank⟩ := hcause.resolve_left hsecret
      obtain rfl := hcarries.unique (authorization_eq_ok_iff.mp ha)
      exact absurd hblank (hcarries.isQuotable_nonce_iff.mp hnonce)

end Judged

/-- **Whose fault a refusal is.** A verification fails for the request or for the signing. The
latter is reported exactly for an empty secret, and for a nonce with a blank in a request that names
a host. A request without an authorization that can be read is always the one at fault. -/
theorem verify_failure_kinds (r : Http.Request) (secret : String) :
    (∀ f, (verify r secret).value = .error f →
      f.kind = .requestInvalid ∨ f.kind = .signingFailure) ∧
    ((∃ f, (verify r secret).value = .error f ∧ f.kind = .signingFailure) ↔
      secret = "" ∨ HasBlankNonce r) ∧
    (secret ≠ "" → (∀ a, ¬ Carries r a) →
      ∃ f, (verify r secret).value = .error f ∧ f.kind = .requestInvalid) := by
  have hjudged := judged_verify r secret
  refine ⟨fun f hf => hjudged.kind_eq hf, ⟨?_, hjudged.signingFailure⟩, ?_⟩
  · rintro ⟨f, hf, hkind⟩
    exact hjudged.of_signingFailure hf hkind
  · intro hsecret hnone
    cases hvalue : (verify r secret).value with
    | error f =>
        rcases hjudged.kind_eq hvalue with hkind | hkind
        · exact ⟨f, rfl, hkind⟩
        · obtain ⟨-, a, hcarries, -⟩ :=
            (hjudged.of_signingFailure hvalue hkind).resolve_left hsecret
          exact absurd hcarries (hnone a)
    | ok verdict =>
        obtain ⟨a, _, _, ha, -⟩ := exists_of_verify_eq_ok hvalue
        exact absurd (authorization_eq_ok_iff.mp ha) (hnone a)

/-- A header with a space in the nonce. -/
def spacedHeader : String := Authorization.layout "i" "7" "n n" "AAAA"

/-- A request that carries it. -/
def spaced : Http.Request :=
  ⟨"GET", ⟨some "http", some "h", "/p", none⟩,
    [(Http.authorizationHeader, ⟨Utf8.encode spacedHeader, false⟩)]⟩

/-- It is the signing that is reported for it, under a secret that is not empty. -/
theorem verify_failure_spaced :
    Http.Request.build (Utf8.encode "GET") (Utf8.encode "http://h/p")
        [(Utf8.encode "authorization", Utf8.encode spacedHeader)] = .ok spaced ∧
      "s" ≠ "" ∧ (verify spaced "s").value = .error CanonicalRequest.nonceNotQuotable ∧
      CanonicalRequest.nonceNotQuotable.kind = .signingFailure := by
  exact ⟨by decide +kernel, by decide, rfl, rfl⟩

end Verification

end MacAccess
