import MacAccess.Proofs.Grammar
import MacAccess.Proofs.Verification

/-!
# What a signature leaves behind

A signature changes one header and nothing else. Whatever authorizations a request had before are
gone, and in their place there is one, kept out of sight, that spells the four fields. All other
headers stand as they stood, with all their values in order.

Nothing that a signing depends on lies in what it changes. So a request that was signed before is
signed, or refused, like one that never was, and of any number of signings only the last one shows.
-/

namespace MacAccess

/-! ## Requests but for their authorizations -/

namespace Http

/-- The headers without the fields of a name. -/
def Headers.without (hs : Headers) (name : String) : Headers := hs.filter fun f => f.1 != name

theorem Headers.without_replace (hs : Headers) (name : String) (value : HeaderValue) :
    (hs.replace name value).without name = hs.without name := by
  simp [replace, append, without, List.filter_append, List.filter_filter]

theorem Headers.values_without (hs : Headers) {name other : String} (h : other ≠ name) :
    (hs.without name).values other = hs.values other := by
  unfold without values
  rw [List.filter_filter]
  refine congrArg (List.map _) (List.filter_congr fun f _ => ?_)
  by_cases hf : f.1 = other
  · simp [hf, h]
  · simp [hf]

/-- Whether two requests are the same but for their authorizations. -/
structure Request.SameElsewhere (r r' : Request) : Prop where
  method : r.method = r'.method
  uri : r.uri = r'.uri
  others : r.headers.without authorizationHeader = r'.headers.without authorizationHeader

namespace Request.SameElsewhere

variable {r r' r'' : Request}

theorem refl (r : Request) : r.SameElsewhere r := ⟨rfl, rfl, rfl⟩

theorem trans (h : r.SameElsewhere r') (h' : r'.SameElsewhere r'') : r.SameElsewhere r'' :=
  ⟨h.method.trans h'.method, h.uri.trans h'.uri, h.others.trans h'.others⟩

/-- Another name has the same values in both. -/
theorem values_eq (h : r.SameElsewhere r') {name : String} (hname : name ≠ authorizationHeader) :
    r.headers.values name = r'.headers.values name := by
  rw [← r.headers.values_without hname, h.others, r'.headers.values_without hname]

/-- With the same authorization they are the same. -/
theorem authorize_eq (h : r.SameElsewhere r') (value : HeaderValue) :
    r.authorize value = r'.authorize value := by
  have hheaders : r.headers.replace authorizationHeader value =
      r'.headers.replace authorizationHeader value :=
    congrArg (Headers.append · authorizationHeader value) h.others
  rw [authorize, authorize, h.method, h.uri, hheaders]

theorem ofRequest_eq (h : r.SameElsewhere r') :
    CanonicalRequest.ofRequest r = CanonicalRequest.ofRequest r' := by
  unfold CanonicalRequest.ofRequest
  rw [h.method, h.uri]

end Request.SameElsewhere

theorem Request.sameElsewhere_authorize (r : Request) (value : HeaderValue) :
    (r.authorize value).SameElsewhere r :=
  ⟨rfl, rfl, r.headers.without_replace authorizationHeader value⟩

end Http

/-! ## The signed text and the header -/

theorem CanonicalRequest.text_eq (r : CanonicalRequest) (t : Timestamp) (nonce : String) :
    r.text t nonce = toString t.toInt ++ "\n" ++ nonce ++ "\n" ++ r.method ++ "\n" ++ r.path ++
      "\n" ++ r.host ++ "\n" ++ toString r.port.toNat ++ "\n\n" := by
  apply String.toList_inj.mp
  simp [text, lines, String.join_cons]

theorem Authorization.render_eq_text (a : Authorization) :
    a.render = "MAC id=\"" ++ a.id ++ "\", ts=\"" ++ toString a.timestamp.toInt ++
      "\", nonce=\"" ++ a.nonce ++ "\", mac=\"" ++ a.mac ++ "\"" := by
  rw [render_eq_layout,
    ← Spelling.text_eq_layout ⟨a.id, toString a.timestamp.toInt, a.nonce, a.mac⟩, Spelling.text]

namespace Signing

namespace Attempt

/-- A signing changes authorizations at most. -/
theorem sameElsewhere_outcome (a : Attempt) : a.outcome.request.SameElsewhere a.request := by
  rcases a.accepted_or_refused with ⟨c, canonical, haccepted⟩ | ⟨q, -, hrefused⟩
  · rw [haccepted.outcome_eq]
    exact a.request.sameElsewhere_authorize _
  · rw [hrefused]
    exact .refl _

variable {a : Attempt} {c : Credential} {canonical : CanonicalRequest}

/-- The authorization of an accepted attempt, with the tag of its request line by line. -/
theorem Accepted.made_eq (h : a.Accepted c canonical) {host : String}
    (hhost : a.request.uri.host? = some host) :
    a.made c canonical = ⟨c.identity, a.timestamp, a.nonce,
      Base64.encode (Hmac.tag (Utf8.encode c.secret) (Utf8.encode
        (toString a.timestamp.toInt ++ "\n" ++ a.nonce ++ "\n" ++ a.request.method.toUpper ++
          "\n" ++ a.request.uri.path ++ "\n" ++ host.toLower ++ "\n" ++
          toString a.request.effectivePort.toNat ++ "\n\n")))⟩ := by
  obtain ⟨host', hhost', -, rfl⟩ := CanonicalRequest.ofRequest_eq_ok_iff.mp h.canonical
  obtain rfl : host = host' := Option.some.inj (hhost.symm.trans hhost')
  rw [made, authorization, Signature.mac, CanonicalRequest.text_eq]

theorem Accepted.text?_madeValue (h : a.Accepted c canonical) :
    (a.madeValue c canonical).text? = some (a.made c canonical).render :=
  Http.HeaderValue.text?_encode h.isPrintable_made true

theorem Accepted.values_outcome (h : a.Accepted c canonical) :
    a.outcome.request.headers.values Http.authorizationHeader = [a.madeValue c canonical] := by
  rw [h.outcome_eq]
  exact a.request.headers.values_replace Http.authorizationHeader _

end Attempt

/-- **All that a signature changes.** A signed request has one authorization, kept out of sight. Its
tag is the one of the six fields of the request as it was, a line each, with the time and the nonce
of this signing, and it reads as the four fields that it was made of. The values of every other
header, the method and the URI are as they were. -/
theorem sign_effect {σ : Type} (ask : Host σ → Answer × Host σ) (context : Context) (h : Host σ)
    (r : Http.Request) (credential? : Option Credential) {signed : Http.Request}
    (hok : ((sign r credential?).run ask context h).1 = ⟨signed, .ok ()⟩) :
    ∃ c host mac text value, credential? = some c ∧ r.uri.host? = some host ∧
      mac = Base64.encode (Hmac.tag (Utf8.encode c.secret) (Utf8.encode
        (toString (context.reading h).toInt ++ "\n" ++ context.nextNonce h ++ "\n" ++
          r.method.toUpper ++ "\n" ++ r.uri.path ++ "\n" ++ host.toLower ++ "\n" ++
          toString r.effectivePort.toNat ++ "\n\n"))) ∧
      text = "MAC id=\"" ++ c.identity ++ "\", ts=\"" ++ toString (context.reading h).toInt ++
        "\", nonce=\"" ++ context.nextNonce h ++ "\", mac=\"" ++ mac ++ "\"" ∧
      signed.headers.values "authorization" = [value] ∧ value.sensitive = true ∧
      value.text? = some text ∧
      Authorization.read text = .ok ⟨c.identity, context.reading h, context.nextNonce h, mac⟩ ∧
      (∀ name, name ≠ "authorization" → signed.headers.values name = r.headers.values name) ∧
      signed.method = r.method ∧ signed.uri = r.uri := by
  rw [Attempt.run_sign] at hok
  have hverdict : (Attempt.on context h r credential?).outcome.verdict = .ok () := by rw [hok]
  obtain ⟨c, canonical, haccepted⟩ := Attempt.accepted_of_ok hverdict
  obtain ⟨host, hhost, -, -⟩ := CanonicalRequest.ofRequest_eq_ok_iff.mp haccepted.canonical
  have hvalues := haccepted.values_outcome
  have hsame := (Attempt.on context h r credential?).sameElsewhere_outcome
  have htext := haccepted.text?_madeValue
  have hread := Authorization.read_eq_ok_iff.mpr haccepted.parse_made
  rw [haccepted.made_eq hhost, Authorization.render_eq_text] at htext hread
  rw [hok] at hvalues hsame
  refine ⟨c, host, _, _, _, haccepted.credential, hhost, rfl, rfl, hvalues, rfl, htext, hread, ?_,
    hsame.method, hsame.uri⟩
  intro name hname
  exact hsame.values_eq hname

/-- A header with two values, one of them kept out of sight, between two stale authorizations. -/
def clutter : Http.Headers :=
  [("authorization", ⟨Utf8.encode "Basic dXNlcjpwYXNz", false⟩),
    ("x-tag", ⟨Utf8.encode "first", false⟩), ("authorization", ⟨Utf8.encode "Bearer stale", true⟩),
    ("x-tag", ⟨Utf8.encode "second", true⟩)]

def cluttered : Http.Request := { CanonicalRequest.plain with headers := clutter }

/-- What becomes of a request with these headers. -/
def signedCluttered : Outcome :=
  ((sign cluttered (some Verification.someCredential)).run Verification.noAnswer
    Verification.fixedContext Verification.untouchedHost).1

theorem accepted_cluttered :
    (Attempt.on Verification.fixedContext Verification.untouchedHost cluttered
      (some Verification.someCredential)).Accepted Verification.someCredential
        CanonicalRequest.common :=
  ⟨rfl, by decide, by decide +kernel, by decide +kernel, by decide, by decide +kernel⟩

theorem signedCluttered_eq : signedCluttered = ⟨signedCluttered.request, .ok ()⟩ := by
  rw [signedCluttered, Attempt.run_sign, accepted_cluttered.outcome_eq]

theorem sign_effect_cluttered : signedCluttered.verdict = .ok () ∧
    ∃ mac value, signedCluttered.request.headers.values "authorization" = [value] ∧
      value.sensitive = true ∧
      value.text? = some ("MAC id=\"uuid\", ts=\"1336363200\", nonce=\"dj83hs9s\", mac=\"" ++ mac ++
        "\"") ∧
      signedCluttered.request.headers.values "x-tag" =
        [⟨Utf8.encode "first", false⟩, ⟨Utf8.encode "second", true⟩] := by
  obtain ⟨c, host, mac, text, value, hcredential, -, -, htext, hvalues, hsensitive, hspelt, -,
    hothers, -, -⟩ := sign_effect Verification.noAnswer Verification.fixedContext
      Verification.untouchedHost cluttered (some Verification.someCredential) signedCluttered_eq
  obtain rfl : Verification.someCredential = c := Option.some.inj hcredential
  refine ⟨congrArg Outcome.verdict signedCluttered_eq, mac, value, hvalues, hsensitive, ?_, ?_⟩
  · rw [hspelt, htext]
    rfl
  · rw [hothers "x-tag" (by decide)]
    decide

/-! ## One signing after another -/

namespace Attempt

/-- What is required of an attempt is not looked for in its authorizations, -/
theorem firstUnmet?_congr {a b : Attempt} (hrequest : a.request.SameElsewhere b.request)
    (hcredential : a.credential? = b.credential?) (htimestamp : a.timestamp = b.timestamp)
    (hnonce : a.nonce = b.nonce) : a.firstUnmet? = b.firstUnmet? := by
  have hmeets : ∀ q, a.Meets q ↔ b.Meets q := by
    intro q
    cases q with
    | credential => rw [Meets, Meets, hcredential]
    | secret => rw [Meets, Meets, hcredential]
    | identity => rw [Meets, Meets, hcredential]
    | host => rw [Meets, Meets, hrequest.uri]
    | clock => rw [Meets, Meets, htimestamp]
    | nonce => rw [Meets, Meets, hnonce]
  simp only [firstUnmet?, hmeets]

theorem failure_congr {a b : Attempt} (hrequest : a.request.SameElsewhere b.request)
    (htimestamp : a.timestamp = b.timestamp) (q : Requirement) : a.failure q = b.failure q := by
  cases q with
  | host => rw [failure, failure, hrequest.uri]
  | clock => rw [failure, failure, htimestamp]
  | _ => rfl

/-- nor is what it comes to. -/
theorem outcome_congr {a b : Attempt} (hrequest : a.request.SameElsewhere b.request)
    (hcredential : a.credential? = b.credential?) (htimestamp : a.timestamp = b.timestamp)
    (hnonce : a.nonce = b.nonce) :
    (b.outcome.verdict = .ok () ∧ a.outcome = b.outcome) ∨
      ∃ f, a.outcome = refused a.request f ∧ b.outcome = refused b.request f := by
  rcases b.accepted_or_refused with ⟨c, canonical, haccepted⟩ | ⟨q, hfirst, hrefused⟩
  · have haccepted' : a.Accepted c canonical := {
      credential := hcredential.trans haccepted.credential
      secret := haccepted.secret
      identity := haccepted.identity
      canonical := hrequest.ofRequest_eq.trans haccepted.canonical
      clock := htimestamp ▸ haccepted.clock
      nonce := hnonce ▸ haccepted.nonce }
    have hvalue : a.madeValue c canonical = b.madeValue c canonical := by
      rw [madeValue, madeValue, made, made, htimestamp, hnonce]
    rw [haccepted.outcome_eq, haccepted'.outcome_eq, hvalue, hrequest.authorize_eq]
    exact Or.inl ⟨rfl, rfl⟩
  · refine Or.inr ⟨b.failure q, ?_, hrefused⟩
    rw [← failure_congr hrequest htimestamp]
    exact outcome_of_firstUnmet?
      ((firstUnmet?_congr hrequest hcredential htimestamp hnonce).trans hfirst)

end Attempt

/-- A signing of a request in place: by which means, and with which credential. -/
structure Round where
  context : Context
  credential? : Option Credential

/-- What signings of one request come to: each of them, the request after them, and the host. -/
structure Succession (σ : Type) where
  outcomes : List Outcome
  request : Http.Request
  host : Host σ

section Rounds

variable {σ : Type} (ask : Host σ → Answer × Host σ)

def Round.run (round : Round) (r : Http.Request) (h : Host σ) : Outcome × Host σ :=
  (sign r round.credential?).run ask round.context h

/-- Signs a request in place, round after round. -/
def rounds : List Round → Http.Request → Host σ → Succession σ
  | [], r, h => ⟨[], r, h⟩
  | round :: later, r, h =>
    let (outcome, after) := round.run ask r h
    let rest := rounds later outcome.request after
    { rest with outcomes := outcome :: rest.outcomes }

theorem Round.run_eq (round : Round) (r : Http.Request) (h : Host σ) :
    (round.run ask r h).1 = (Attempt.on round.context h r round.credential?).outcome :=
  Attempt.run_sign ask round.context h r round.credential?

theorem rounds_cons (round : Round) (later : List Round) (r : Http.Request) (h : Host σ) :
    rounds ask (round :: later) r h =
      { rounds ask later (round.run ask r h).1.request (round.run ask r h).2 with
        outcomes := (round.run ask r h).1 ::
          (rounds ask later (round.run ask r h).1.request (round.run ask r h).2).outcomes } := rfl

/-- The last of some rounds is run on what the others leave. -/
theorem rounds_concat (earlier : List Round) (round : Round) (r : Http.Request) (h : Host σ) :
    rounds ask (earlier ++ [round]) r h =
      ⟨(rounds ask earlier r h).outcomes ++
          [(round.run ask (rounds ask earlier r h).request (rounds ask earlier r h).host).1],
        (round.run ask (rounds ask earlier r h).request (rounds ask earlier r h).host).1.request,
        (round.run ask (rounds ask earlier r h).request (rounds ask earlier r h).host).2⟩ := by
  induction earlier generalizing r h with
  | nil => rfl
  | cons first earlier ih =>
      rw [List.cons_append]
      simp only [rounds_cons, ih, List.cons_append]

/-- One round changes authorizations at most, -/
theorem Round.sameElsewhere_run (round : Round) (r : Http.Request) (h : Host σ) :
    (round.run ask r h).1.request.SameElsewhere r := by
  rw [round.run_eq]
  exact Attempt.sameElsewhere_outcome _

/-- and so do any number of them. -/
theorem sameElsewhere_rounds (earlier : List Round) (r : Http.Request) (h : Host σ) :
    (rounds ask earlier r h).request.SameElsewhere r := by
  induction earlier generalizing r h with
  | nil => exact .refl r
  | cons round earlier ih =>
      rw [rounds_cons]
      exact (ih _ _).trans (round.sameElsewhere_run ask r h)

/-- A round tells nothing of the authorizations that it finds, if the time and the nonce are the
same. -/
theorem Round.run_congr (round : Round) {r r' : Http.Request} (hrequest : r.SameElsewhere r')
    {h h' : Host σ} (hreading : round.context.reading h = round.context.reading h')
    (hnonce : round.context.nextNonce h = round.context.nextNonce h') :
    ((round.run ask r' h').1.verdict = .ok () ∧ (round.run ask r h).1 = (round.run ask r' h').1) ∨
      ∃ f, (round.run ask r h).1 = refused r f ∧ (round.run ask r' h').1 = refused r' f := by
  rw [round.run_eq, round.run_eq]
  exact Attempt.outcome_congr hrequest rfl hreading hnonce

end Rounds

/-- **The last signature wins, and earlier ones leave no trace.** A request that was signed before
is signed with the same result as if it had not been, or refused for the same failure and left as
it was, at the same time and with the same nonce. So signings of a request that all succeed come to
what the last of them alone makes of it. -/
theorem last_signature_wins {σ : Type} (ask : Host σ → Answer × Host σ) {r signed : Http.Request}
    {first : Round} {before : Host σ} (hfirst : (first.run ask r before).1 = ⟨signed, .ok ()⟩)
    (second : Round) (h h' : Host σ)
    (hreading : second.context.reading h = second.context.reading h')
    (hnonce : second.context.nextNonce h = second.context.nextNonce h') :
    (second.run ask signed h).1.verdict = (second.run ask r h').1.verdict ∧
    (∀ r', (second.run ask r h').1 = ⟨r', .ok ()⟩ → (second.run ask signed h).1 = ⟨r', .ok ()⟩) ∧
    (∀ f, (second.run ask r h').1.verdict = .error f →
      (second.run ask signed h).1 = ⟨signed, .error f⟩) ∧
    ∀ (earlier : List Round) (last : Round) (start : Host σ),
      (∀ outcome ∈ (rounds ask (earlier ++ [last]) r start).outcomes, outcome.verdict = .ok ()) →
      (rounds ask (earlier ++ [last]) r start).request =
        (last.run ask r (rounds ask earlier r start).host).1.request := by
  have hsame : signed.SameElsewhere r := by
    have hrun := first.sameElsewhere_run ask r before
    rwa [hfirst] at hrun
  refine ⟨?_, ?_, ?_, ?_⟩
  · rcases second.run_congr ask hsame hreading hnonce with ⟨-, heq⟩ | ⟨f, hagain, halone⟩
    · rw [heq]
    · rw [hagain, halone]
      rfl
  · intro r' halone
    rcases second.run_congr ask hsame hreading hnonce with ⟨-, heq⟩ | ⟨f, -, hrefused⟩
    · exact heq.trans halone
    · rw [halone] at hrefused
      exact nomatch congrArg Outcome.verdict hrefused
  · intro f hf
    rcases second.run_congr ask hsame hreading hnonce with ⟨hok, -⟩ | ⟨g, hagain, halone⟩
    · rw [hok] at hf
      exact nomatch hf
    · rw [halone] at hf
      obtain rfl : g = f := Except.error.inj hf
      exact hagain
  · intro earlier last start hall
    rw [rounds_concat] at hall ⊢
    have hlast := hall _ (List.mem_append_right _ (List.mem_singleton_self _))
    rcases last.run_congr ask (sameElsewhere_rounds ask earlier r start) rfl rfl with
      ⟨-, heq⟩ | ⟨f, hrefused, -⟩
    · exact congrArg Outcome.request heq
    · rw [hrefused] at hlast
      exact nomatch hlast

/-- The round that signs a cluttered request, -/
def firstRound : Round := ⟨Verification.fixedContext, some Verification.someCredential⟩

/-- one with another credential at another time, -/
def secondRound : Round :=
  ⟨⟨.unavailable, .empty, .fixed 1336363201, .fixed "other"⟩, some ⟨"uuid2", "apikey2"⟩⟩

/-- and one without a credential. -/
def emptyRound : Round := ⟨Verification.fixedContext, none⟩

theorem firstRound_run : (firstRound.run Verification.noAnswer cluttered
    Verification.untouchedHost).1 = ⟨signedCluttered.request, .ok ()⟩ := signedCluttered_eq

/-- What the other credential makes of the request alone. -/
def secondAlone : Outcome :=
  (secondRound.run Verification.noAnswer cluttered Verification.untouchedHost).1

theorem secondAlone_eq : secondAlone = ⟨secondAlone.request, .ok ()⟩ := by
  have haccepted : (Attempt.on secondRound.context Verification.untouchedHost cluttered
      secondRound.credential?).Accepted ⟨"uuid2", "apikey2"⟩ CanonicalRequest.common :=
    ⟨rfl, by decide, by decide +kernel, by decide +kernel, by decide, by decide +kernel⟩
  rw [secondAlone, Round.run_eq, haccepted.outcome_eq]

theorem last_signature_wins_cluttered :
    (firstRound.run Verification.noAnswer cluttered Verification.untouchedHost).1 =
      ⟨signedCluttered.request, .ok ()⟩ ∧
    (secondRound.run Verification.noAnswer signedCluttered.request Verification.untouchedHost).1 =
      ⟨secondAlone.request, .ok ()⟩ ∧
    (emptyRound.run Verification.noAnswer signedCluttered.request Verification.untouchedHost).1 =
      ⟨signedCluttered.request, .error missingCredential⟩ := by
  obtain ⟨-, hwins, -, -⟩ := last_signature_wins Verification.noAnswer firstRound_run
    secondRound Verification.untouchedHost Verification.untouchedHost rfl rfl
  obtain ⟨-, -, hrefused, -⟩ := last_signature_wins Verification.noAnswer firstRound_run
    emptyRound Verification.untouchedHost Verification.untouchedHost rfl rfl
  exact ⟨firstRound_run, hwins _ secondAlone_eq, hrefused _ rfl⟩

end Signing

end MacAccess
