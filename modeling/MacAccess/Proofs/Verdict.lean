import MacAccess.Proofs.Verification

/-!
# What a verdict depends on

A verdict is given on the target of a request and on three fields of its first authorization: the
timestamp, the nonce and the tag. Requests that agree in these get the same verdict and the same
records in the journal, failures included. So nothing that is not covered by the tag can tip a
verdict: not the query, the user information or the scheme of a URI that goes to the same port, not
another header or a second authorization, not the identity, not a zero before the timestamp.
-/

namespace MacAccess

/-! ## User information -/

namespace Http.Authority

theorem afterLast?_append {c : Char} {before after : List Char} (h : c ∉ after) :
    afterLast? c (before ++ c :: after) = some after := by
  have hmem : c ∈ before ++ c :: after := by simp
  have hreverse : (before ++ c :: after).reverse = after.reverse ++ c :: before.reverse := by simp
  have hlast : c ∉ after.reverse := by simpa using h
  rw [afterLast?, if_pos hmem, hreverse, Separator.takeWhile_part hlast, List.reverse_reverse]

theorem afterLast?_of_notMem {c : Char} {cs : List Char} (h : c ∉ cs) : afterLast? c cs = none :=
  if_neg h

/-- A character that occurs has a last occurrence. -/
theorem exists_last {c : Char} {cs : List Char} (h : c ∈ cs) :
    ∃ before after, cs = before ++ c :: after ∧ c ∉ after := by
  obtain ⟨front, back, hreverse, hfront⟩ := List.eq_append_cons_of_mem (List.mem_reverse.mpr h)
  refine ⟨back.reverse, front.reverse, ?_, by simpa using hfront⟩
  rw [← List.reverse_reverse cs, hreverse]
  simp

/-- A number is made of digits, but for a sign before them. -/
theorem portNumber?_of_mem {c : Char} {cs : List Char} (hc : c ∈ cs) (hdigit : c.isDigit = false)
    (hplus : c ≠ '+') : portNumber? cs = none := by
  unfold portNumber?
  refine if_neg ?_
  rintro ⟨-, hall⟩
  have hisDigit : c.isDigit = true := by
    apply List.all_eq_true.mp hall
    split
    · exact (List.mem_cons.mp hc).resolve_left hplus
    · exact hc
  rw [hdigit] at hisDigit
  exact Bool.noConfusion hisDigit

theorem toList_userinfo (user authority : String) :
    (user ++ "@" ++ authority).toList = user.toList ++ '@' :: authority.toList := by
  have hat : "@".toList = ['@'] := rfl
  simp [hat]

theorem host_userinfo (user : String) {authority : String} (h : '@' ∉ authority.toList) :
    host (user ++ "@" ++ authority) = host authority := by
  rw [host, host, toList_userinfo, afterLast?_append h, afterLast?_of_notMem h]
  rfl

/-- A colon in the user information starts no port, as the text after it has an `@`. -/
theorem port?_userinfo (user authority : String) :
    port? (user ++ "@" ++ authority) = port? authority := by
  rw [port?, port?, toList_userinfo]
  by_cases hport : ':' ∈ authority.toList
  · obtain ⟨before, after, heq, hafter⟩ := exists_last hport
    have hsplit : user.toList ++ '@' :: authority.toList =
        (user.toList ++ '@' :: before) ++ ':' :: after := by
      rw [heq]
      simp
    rw [hsplit, afterLast?_append hafter, heq, afterLast?_append hafter]
  · rw [afterLast?_of_notMem hport]
    by_cases huser : ':' ∈ user.toList
    · obtain ⟨before, after, heq, hafter⟩ := exists_last huser
      have hlast : ':' ∉ after ++ '@' :: authority.toList := by
        simp [hafter, hport]
      have hsplit : user.toList ++ '@' :: authority.toList =
          before ++ ':' :: (after ++ '@' :: authority.toList) := by
        rw [heq]
        simp
      have hat : '@' ∈ after ++ '@' :: authority.toList := by simp
      rw [hsplit, afterLast?_append hlast]
      exact portNumber?_of_mem hat (by decide) (by decide)
    · rw [afterLast?_of_notMem (by simp [huser, hport])]

end Http.Authority

namespace Verification

/-! ## Verdicts -/

/-- Whether two requests carry the same proof: their first authorizations are spelt the same, or
both can be read and agree in all that is checked. -/
def SameProof (r r' : Http.Request) : Prop :=
  r.authorization?.map Http.HeaderValue.octets = r'.authorization?.map Http.HeaderValue.octets ∨
    ∃ a a', authorization r = .ok a ∧ authorization r' = .ok a' ∧
      a.timestamp = a'.timestamp ∧ a.nonce = a'.nonce ∧ a.mac = a'.mac

/-- What is read of an authorization is in its octets. -/
theorem authorization_congr {r r' : Http.Request}
    (h : r.authorization?.map Http.HeaderValue.octets =
      r'.authorization?.map Http.HeaderValue.octets) :
    authorization r = authorization r' := by
  unfold authorization
  cases hvalue : r.authorization? with
  | none =>
      rw [hvalue] at h
      rw [Option.map_eq_none_iff.mp h.symm]
  | some value =>
      rw [hvalue] at h
      obtain ⟨value', hvalue', hoctets⟩ := Option.map_eq_some_iff.mp h.symm
      have htext : value.text? = value'.text? := by
        rw [Http.HeaderValue.text?, Http.HeaderValue.text?, hoctets]
      rw [hvalue']
      simp only [htext]

/-- The signed text has no room for anything but the target, the timestamp and the nonce. -/
theorem signedText_congr {r r' : Http.Request} {canonical canonical' : CanonicalRequest}
    (h : CanonicalRequest.ofRequest r = .ok canonical)
    (h' : CanonicalRequest.ofRequest r' = .ok canonical') (htarget : r.SameTarget r')
    (t : Timestamp) (nonce : String) :
    canonical.signedText t nonce = canonical'.signedText t nonce := by
  obtain ⟨hmethod, hpath, hhost, hport⟩ :=
    (CanonicalRequest.fields_eq_iff_sameTarget h h').mpr htarget
  have hlines := (CanonicalRequest.lines_eq_iff canonical canonical' t t nonce nonce).mpr
    ⟨rfl, rfl, hmethod, hpath, hhost, hport⟩
  simp only [CanonicalRequest.signedText, CanonicalRequest.text, hlines]

/-- Requests with the same target and the same proof are told apart by nothing. -/
theorem verify_congr {r r' : Http.Request} {canonical canonical' : CanonicalRequest}
    (h : CanonicalRequest.ofRequest r = .ok canonical)
    (h' : CanonicalRequest.ofRequest r' = .ok canonical') (htarget : r.SameTarget r')
    (hproof : SameProof r r') (secret : String) : verify r secret = verify r' secret := by
  unfold verify
  rcases hproof with hoctets | ⟨a, a', ha, ha', htime, hnonce, hmac⟩
  · rw [authorization_congr hoctets]
    split_ifs
    · rfl
    · cases authorization r' with
      | error f => rfl
      | ok a => simp only [h, h', signedText_congr h h' htarget]
  · rw [ha, ha']
    simp only [h, h', htime, hnonce, hmac, signedText_congr h h' htarget]

end Verification

/-! ## What no tag covers -/

/-- A request with other words for all that no tag covers: another scheme, user information before
the host, another query, other headers. -/
def Http.Request.reword (r : Http.Request) (scheme : Option String) (user : String)
    (query : Option String) (headers : Http.Headers) : Http.Request :=
  ⟨r.method, ⟨scheme, r.uri.authority.map (user ++ "@" ++ ·), r.uri.path, query⟩, headers⟩

namespace Http.Request

variable {r : Http.Request} (scheme : Option String) (user : String) (query : Option String)
  (headers : Http.Headers)

theorem host?_reword (h : ∀ authority ∈ r.uri.authority, '@' ∉ authority.toList) :
    (r.reword scheme user query headers).uri.host? = r.uri.host? := by
  unfold reword Uri.host?
  cases hauthority : r.uri.authority with
  | none => rfl
  | some authority => exact congrArg some (Authority.host_userinfo user (h authority hauthority))

/-- The port is that of the request with the other scheme. -/
theorem effectivePort_reword : (r.reword scheme user query headers).effectivePort =
    Request.effectivePort { r with uri := { r.uri with scheme } } := by
  have hport : (r.reword scheme user query headers).uri.port? = r.uri.port? := by
    unfold reword Uri.port?
    cases r.uri.authority with
    | none => rfl
    | some authority => exact Authority.port?_userinfo user authority
  rw [effectivePort, hport]
  rfl

theorem sameTarget_reword (h : ∀ authority ∈ r.uri.authority, '@' ∉ authority.toList)
    {host : String} (hhost : r.uri.host? = some host)
    (hport : Request.effectivePort { r with uri := { r.uri with scheme } } = r.effectivePort) :
    r.SameTarget (r.reword scheme user query headers) where
  method := (toUpper_eq_toUpper_iff _ _).mp rfl
  path := rfl
  host := ⟨host, hhost, host, (host?_reword scheme user query headers h).trans hhost,
    (toLower_eq_toLower_iff _ _).mp rfl⟩
  port := ((effectivePort_reword scheme user query headers).trans hport).symm

end Http.Request

namespace Verification

/-- **Nothing that is not covered tips a verdict.** Requests with the same target and the same proof
get the same verdict, or the same failure, with the same records. In particular a request gets the
verdict that it gets in other words: under another scheme for the same port, with user information,
with another query, with other headers around or after its first authorization. -/
theorem verify_indifferent {r r' : Http.Request} {canonical canonical' : CanonicalRequest}
    (h : CanonicalRequest.ofRequest r = .ok canonical)
    (h' : CanonicalRequest.ofRequest r' = .ok canonical') (htarget : r.SameTarget r')
    (hproof : SameProof r r') (secret : String) :
    verify r secret = verify r' secret ∧
    ∀ (scheme : Option String) (user : String) (query : Option String) (headers : Http.Headers),
      (∀ authority ∈ r.uri.authority, '@' ∉ authority.toList) →
      Http.Request.effectivePort { r with uri := { r.uri with scheme } } = r.effectivePort →
      (headers.get? Http.authorizationHeader).map Http.HeaderValue.octets =
        r.authorization?.map Http.HeaderValue.octets →
      verify (r.reword scheme user query headers) secret = verify r secret := by
  refine ⟨verify_congr h h' htarget hproof secret, ?_⟩
  intro scheme user query headers hplain hport hoctets
  obtain ⟨host, hhost, hne, -⟩ := CanonicalRequest.ofRequest_eq_ok_iff.mp h
  obtain ⟨_, hreworded⟩ := CanonicalRequest.exists_ofRequest
    ⟨host, (Http.Request.host?_reword scheme user query headers hplain).trans hhost, hne⟩
  have hsame := Http.Request.sameTarget_reword scheme user query headers hplain hhost hport
  exact (verify_congr h hreworded hsame (Or.inl hoctets.symm) secret).symm

/-- An authorization with zeros before the timestamp, and the same for another identity. -/
def paddedHeader : String := Authorization.layout "uuid" "007" "dj83hs9s" "AAAA"

def otherHeader : String := Authorization.layout "someone" "7" "dj83hs9s" "AAAA"

def stray : Http.HeaderValue := ⟨Utf8.encode "Basic 0", false⟩

/-- A request with a port and a query, -/
def terse : Http.Request :=
  ⟨"get", ⟨some "http", some "Example.com:80", "/a", some "x=1"⟩,
    [(Http.authorizationHeader, ⟨Utf8.encode paddedHeader, false⟩)]⟩

/-- and one with user information instead, among other headers. -/
def wordy : Http.Request :=
  ⟨"GET", ⟨some "http", some "u:p@example.com", "/a", none⟩,
    [("x-request-id", stray), (Http.authorizationHeader, ⟨Utf8.encode otherHeader, true⟩),
      (Http.authorizationHeader, stray)]⟩

/-- Headers with the authorization of the first request, kept out of sight, among others. -/
def crowd : Http.Headers :=
  [("x-request-id", stray), (Http.authorizationHeader, ⟨Utf8.encode paddedHeader, true⟩),
    (Http.authorizationHeader, stray)]

theorem sameProof_wordy : SameProof terse wordy := by
  have hterse : authorization terse = .ok ⟨"uuid", 7, "dj83hs9s", "AAAA"⟩ := by decide +kernel
  have hwordy : authorization wordy = .ok ⟨"someone", 7, "dj83hs9s", "AAAA"⟩ := by decide +kernel
  exact Or.inr ⟨_, _, hterse, hwordy, rfl, rfl, rfl⟩

theorem verify_indifferent_wordy : terse.SameTarget wordy ∧ SameProof terse wordy ∧
    verify terse "apikey" = verify wordy "apikey" ∧
    verify (terse.reword (some "ftp") "u:443" none crowd) "apikey" = verify terse "apikey" := by
  have hterse : CanonicalRequest.ofRequest terse = .ok CanonicalRequest.common := by decide +kernel
  have hwordy : CanonicalRequest.ofRequest wordy = .ok CanonicalRequest.common := by decide +kernel
  have htarget : terse.SameTarget wordy :=
    (CanonicalRequest.fields_eq_iff_sameTarget hterse hwordy).mp ⟨rfl, rfl, rfl, rfl⟩
  obtain ⟨hsame, hreworded⟩ := verify_indifferent hterse hwordy htarget sameProof_wordy "apikey"
  have hplain : ∀ authority ∈ terse.uri.authority, '@' ∉ authority.toList := by decide
  have hport : Http.Request.effectivePort
      { terse with uri := { terse.uri with scheme := some "ftp" } } = terse.effectivePort := by
    decide
  exact ⟨htarget, sameProof_wordy, hsame, hreworded _ _ _ _ hplain hport (by decide)⟩

end Verification

end MacAccess
