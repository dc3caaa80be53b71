import Mathlib.Data.List.Forall2
import Std.Data.String.ToInt
import MacAccess.Proofs.Request
import MacAccess.Proofs.Separator

/-!
# What a signed text tells

No line of a signed text holds a newline, so the lines are read off the text, and each line tells
its field: the timestamp and the nonce as they are, the method and the host up to the case of
letters, the path and the port. Two signed texts are equal exactly if all six agree, whatever else
the two requests hold.
-/

namespace MacAccess

/-! ## The case of letters -/

/-- Whether two characters are the same, or the same ASCII letter in two cases. -/
def SameLetter (a b : Char) : Prop :=
  a = b ∨ (a.isAlpha = true ∧ b.isAlpha = true ∧ a.toNat % 32 = b.toNat % 32)

/-- Whether two texts are the same up to the case of ASCII letters. -/
def EqualUpToCase (s t : String) : Prop := List.Forall₂ SameLetter s.toList t.toList

theorem toNat_toLower (c : Char) :
    c.toLower.toNat = if 65 ≤ c.toNat ∧ c.toNat ≤ 90 then c.toNat + 32 else c.toNat := by
  have hupper : c.val ≥ 'A'.val ∧ c.val ≤ 'Z'.val ↔ 65 ≤ c.toNat ∧ c.toNat ≤ 90 := Iff.rfl
  unfold Char.toLower
  split_ifs with h hnat hnat
  · have hle : c.val.toNat ≤ 90 := hnat.2
    change (c.val + 32).toNat = c.val.toNat + 32
    rw [UInt32.toNat_add]
    exact Nat.mod_eq_of_lt (Nat.lt_of_le_of_lt (Nat.add_le_add_right hle 32) (by decide))
  · exact absurd (hupper.mp h) hnat
  · exact absurd (hupper.mpr hnat) h
  · rfl

theorem toNat_toUpper (c : Char) :
    c.toUpper.toNat = if 97 ≤ c.toNat ∧ c.toNat ≤ 122 then c.toNat - 32 else c.toNat := by
  have hlower : 'a'.val ≤ c.val ∧ c.val ≤ 'z'.val ↔ 97 ≤ c.toNat ∧ c.toNat ≤ 122 := Iff.rfl
  unfold Char.toUpper
  split_ifs with h hnat hnat
  · have hbounds : 97 ≤ c.val.toNat ∧ c.val.toNat ≤ 122 := hnat
    -- subtracting 32 is written as adding its complement to 2³²
    have hcomplement : ('A'.val - 'a'.val).toNat = 2 ^ 32 - 32 := by decide
    change (c.val + ('A'.val - 'a'.val)).toNat = c.val.toNat - 32
    rw [UInt32.toNat_add, hcomplement]
    omega
  · exact absurd (hlower.mp h) hnat
  · exact absurd (hlower.mpr hnat) h
  · rfl

theorem isAlpha_iff (c : Char) :
    c.isAlpha = true ↔ (65 ≤ c.toNat ∧ c.toNat ≤ 90) ∨ (97 ≤ c.toNat ∧ c.toNat ≤ 122) := by
  unfold Char.isAlpha Char.isUpper Char.isLower
  simp only [Bool.or_eq_true, Bool.and_eq_true, decide_eq_true_eq]
  exact Iff.rfl

theorem toLower_eq_iff (a b : Char) : a.toLower = b.toLower ↔ SameLetter a b := by
  rw [SameLetter, isAlpha_iff, isAlpha_iff, ← Char.toNat_inj, ← Char.toNat_inj, toNat_toLower,
    toNat_toLower]
  split_ifs <;> omega

theorem toUpper_eq_iff (a b : Char) : a.toUpper = b.toUpper ↔ SameLetter a b := by
  rw [SameLetter, isAlpha_iff, isAlpha_iff, ← Char.toNat_inj, ← Char.toNat_inj, toNat_toUpper,
    toNat_toUpper]
  split_ifs <;> omega

theorem map_eq_iff_forall₂ {f : Char → Char} (hf : ∀ a b, f a = f b ↔ SameLetter a b)
    (s t : String) : s.map f = t.map f ↔ EqualUpToCase s t := by
  rw [← String.toList_inj, String.toList_map, String.toList_map, ← List.forall₂_eq_eq_eq,
    List.forall₂_map_left_iff, List.forall₂_map_right_iff, EqualUpToCase]
  exact ⟨List.Forall₂.imp fun a b => (hf a b).mp, List.Forall₂.imp fun a b => (hf a b).mpr⟩

theorem toLower_eq_toLower_iff (s t : String) : s.toLower = t.toLower ↔ EqualUpToCase s t :=
  map_eq_iff_forall₂ toLower_eq_iff s t

theorem toUpper_eq_toUpper_iff (s t : String) : s.toUpper = t.toUpper ↔ EqualUpToCase s t :=
  map_eq_iff_forall₂ toUpper_eq_iff s t

theorem newline_notMem_map {f : Char → Char} (hf : ∀ c, f c = '\n' → c = '\n') {s : String}
    (h : '\n' ∉ s.toList) : '\n' ∉ (s.map f).toList := by
  rw [String.toList_map]
  intro hmem
  obtain ⟨c, hc, hnewline⟩ := List.mem_map.mp hmem
  exact h (hf c hnewline ▸ hc)

theorem newline_of_toLower {c : Char} (h : c.toLower = '\n') : c = '\n' := by
  rw [← Char.toNat_inj] at h ⊢
  rw [toNat_toLower] at h
  change _ = 10 at h
  change _ = 10
  split_ifs at h <;> omega

theorem newline_of_toUpper {c : Char} (h : c.toUpper = '\n') : c = '\n' := by
  rw [← Char.toNat_inj] at h ⊢
  rw [toNat_toUpper] at h
  change _ = 10 at h
  change _ = 10
  split_ifs at h <;> omega

/-! ## Quotable texts -/

theorem isQuotable_iff_octets (text : String) :
    isQuotable text = true ↔ ∀ b ∈ Utf8.encode text, 0x21 ≤ b ∧ b ≤ 0x7E ∧ b ≠ 0x22 := by
  simp [isQuotable, List.all_eq_true, and_assoc]

theorem isQuotable_iff (text : String) : isQuotable text = true ↔
    ∀ c ∈ text.toList, 0x21 ≤ c.toNat ∧ c.toNat ≤ 0x7E ∧ c ≠ '"' := by
  have hascii : ∀ b : UInt8, (0x21 ≤ b && b ≤ 0x7E && b != 0x22) = true → b < 0x80 := by
    intro b hb
    simp only [Bool.and_eq_true, decide_eq_true_eq] at hb
    exact Std.lt_of_le_of_lt hb.1.2 (by decide)
  rw [isQuotable, Utf8.all_encode hascii]
  refine forall₂_congr fun c _ => ?_
  have hvisible (h : c.toNat < 0x80) :
      (0x21 ≤ UInt8.ofNat c.toNat && UInt8.ofNat c.toNat ≤ 0x7E && UInt8.ofNat c.toNat != 0x22) =
        true ↔ 0x21 ≤ c.toNat ∧ c.toNat ≤ 0x7E ∧ c ≠ '"' := by
    have hnat : (UInt8.ofNat c.toNat).toNat = c.toNat := by
      rw [UInt8.toNat_ofNat', Nat.mod_eq_of_lt (by omega)]
    simp [UInt8.le_iff_toNat_le, ← UInt8.toNat_inj, ← Char.toNat_inj, hnat, and_assoc]
  constructor
  · rintro ⟨hlt, hoctet⟩
    exact (hvisible hlt).mp hoctet
  · intro h
    have hlt : c.toNat < 0x80 := Nat.lt_of_le_of_lt h.2.1 (by decide)
    exact ⟨hlt, (hvisible hlt).mpr h⟩

theorem newline_notMem_of_isQuotable {text : String} (h : isQuotable text = true) :
    '\n' ∉ text.toList := by
  intro hmem
  exact absurd ((isQuotable_iff text).mp h _ hmem).1 (by decide)

theorem isPrintable_of_isQuotable {text : String} (h : isQuotable text = true) :
    Http.IsPrintable text := by
  intro c hc
  obtain ⟨hlow, hhigh, -⟩ := (isQuotable_iff text).mp h c hc
  exact ⟨by omega, hhigh⟩

theorem quote_notMem_of_isQuotable {text : String} (h : isQuotable text = true) :
    '"' ∉ text.toList := by
  intro hmem
  exact absurd rfl ((isQuotable_iff text).mp h _ hmem).2.2

/-! ## The covered fields -/

/-- The port that a request goes to: the one that its URI names, or the one of its scheme. -/
def Http.Request.effectivePort (r : Http.Request) : UInt16 :=
  match r.uri.port? with
  | some port => port
  | none => if r.uri.scheme.map String.toLower = some "https" then 443 else 80

/-- Whether two requests agree in all that a signature covers. -/
structure Http.Request.SameTarget (r r' : Http.Request) : Prop where
  method : EqualUpToCase r.method r'.method
  path : r.uri.path = r'.uri.path
  host : ∃ host ∈ r.uri.host?, ∃ host' ∈ r'.uri.host?, EqualUpToCase host host'
  port : r.effectivePort = r'.effectivePort

namespace CanonicalRequest

theorem effectivePort_eq (r : Http.Request) :
    r.uri.port?.getD (defaultPort (r.uri.scheme.getD "http")) = r.effectivePort := by
  rw [Http.Request.effectivePort]
  cases r.uri.port? with
  | some port => rfl
  | none =>
      cases r.uri.scheme with
      | none =>
          have hhttp : "http".toLower ≠ "https" := by decide +kernel
          simp [defaultPort, hhttp]
      | some scheme => simp [defaultPort]

/-- **The canonical form, field by field.** There is one exactly if the request names a host. -/
theorem ofRequest_eq_ok_iff {r : Http.Request} {canonical : CanonicalRequest} :
    ofRequest r = .ok canonical ↔
      ∃ host, r.uri.host? = some host ∧ host ≠ "" ∧
        canonical = ⟨r.method.toUpper, r.uri.scheme.getD "http", host.toLower, r.effectivePort,
          r.uri.path⟩ := by
  rw [ofRequest, ← effectivePort_eq]
  cases r.uri.host? with
  | none => exact ⟨nofun, nofun⟩
  | some host =>
      by_cases hempty : host = ""
      · subst hempty
        exact ⟨nofun, fun ⟨_, hhost, hne, _⟩ => absurd (Option.some.inj hhost).symm hne⟩
      · have hnonempty : ¬ host.isEmpty = true := by simpa using hempty
        simp only [if_neg hnonempty]
        constructor
        · intro h
          exact ⟨host, rfl, hempty, (Except.ok.inj h).symm⟩
        · rintro ⟨host', hhost, -, rfl⟩
          rw [Option.some.inj hhost]

theorem exists_ofRequest {r : Http.Request} (h : ∃ host ∈ r.uri.host?, host ≠ "") :
    ∃ canonical, ofRequest r = .ok canonical := by
  obtain ⟨host, hhost, hne⟩ := h
  exact ⟨_, ofRequest_eq_ok_iff.mpr ⟨host, hhost, hne, rfl⟩⟩

theorem ofRequest_of_no_host {r : Http.Request} (h : ¬ ∃ host ∈ r.uri.host?, host ≠ "") :
    ofRequest r = .error (missingHost r.uri) := by
  unfold ofRequest
  cases hhost : r.uri.host? with
  | none => rfl
  | some host =>
      have hempty : host = "" := by
        by_contra hne
        exact h ⟨host, hhost, hne⟩
      rw [hempty]
      rfl

theorem ofRequest_authorize (r : Http.Request) (value : Http.HeaderValue) :
    ofRequest (r.authorize value) = ofRequest r := rfl

/-! ## Lines -/

theorem newline_notMem_natRepr (n : Nat) : '\n' ∉ n.repr.toList := by
  rw [Nat.toList_repr]
  intro hmem
  exact absurd (Nat.isDigit_of_mem_toDigits (by decide) (by decide) hmem) (by decide)

theorem newline_notMem_intRepr (n : Int) : '\n' ∉ n.repr.toList := by
  rw [Int.repr_eq_if]
  split_ifs
  · exact newline_notMem_natRepr _
  · rw [String.toList_append]
    intro hmem
    rcases List.mem_append.mp hmem with hsign | hdigits
    · exact absurd hsign (by decide)
    · exact newline_notMem_natRepr _ hdigits

/-- No line of the text that is signed for a request that was read holds a newline. -/
theorem newline_notMem_lines {r : Http.Request} (hr : r.IsRead) {canonical : CanonicalRequest}
    (h : ofRequest r = .ok canonical) (t : Timestamp) {nonce : String}
    (hnonce : isQuotable nonce = true) :
    ∀ line ∈ canonical.lines t nonce, '\n' ∉ line.toList := by
  obtain ⟨host, hhost, -, rfl⟩ := ofRequest_eq_ok_iff.mp h
  intro line hline
  simp only [lines, List.mem_cons, List.not_mem_nil, or_false] at hline
  rcases hline with rfl | rfl | rfl | rfl | rfl | rfl | rfl
  · exact newline_notMem_intRepr _
  · exact newline_notMem_of_isQuotable hnonce
  · exact newline_notMem_map (fun _ => newline_of_toUpper) hr.newline_notMem_method
  · exact hr.newline_notMem_path
  · exact newline_notMem_map (fun _ => newline_of_toLower) (hr.newline_notMem_host hhost)
  · exact newline_notMem_natRepr _
  · exact List.not_mem_nil

theorem signedText_eq_ok_iff {r : CanonicalRequest} {t : Timestamp} {nonce text : String} :
    (r.signedText t nonce).value = .ok text ↔
      isQuotable nonce = true ∧ text = r.text t nonce := by
  rw [signedText]
  split_ifs with h
  · simp [h, eq_comm]
  · simp [h, Noted.silently]

/-- Lines are equal exactly if what they were made of is. -/
theorem lines_eq_iff (r r' : CanonicalRequest) (t t' : Timestamp) (nonce nonce' : String) :
    r.lines t nonce = r'.lines t' nonce' ↔
      t = t' ∧ nonce = nonce' ∧ r.method = r'.method ∧ r.path = r'.path ∧ r.host = r'.host ∧
        r.port = r'.port := by
  simp [lines, Int.toString_eq_repr, Int.repr_inj, Int64.toInt_inj, Nat.repr_inj, UInt16.toNat_inj]

/-- The text tells its lines, as none of them holds a newline. -/
theorem text_eq_iff_lines {P Q : Http.Request} (hP : P.IsRead) (hQ : Q.IsRead)
    {p q : CanonicalRequest} (hp : ofRequest P = .ok p) (hq : ofRequest Q = .ok q)
    {t t' : Timestamp} {nonce nonce' : String} (hnonce : isQuotable nonce = true)
    (hnonce' : isQuotable nonce' = true) :
    p.text t nonce = q.text t' nonce' ↔ p.lines t nonce = q.lines t' nonce' := by
  constructor
  · exact Separator.lines_inj (newline_notMem_lines hP hp t hnonce)
      (newline_notMem_lines hQ hq t' hnonce')
  · intro hlines
    rw [text, text, hlines]

/-- The lines of a request tell its target. -/
theorem fields_eq_iff_sameTarget {P Q : Http.Request} {p q : CanonicalRequest}
    (hp : ofRequest P = .ok p) (hq : ofRequest Q = .ok q) :
    (p.method = q.method ∧ p.path = q.path ∧ p.host = q.host ∧ p.port = q.port) ↔
      P.SameTarget Q := by
  obtain ⟨host, hhost, -, rfl⟩ := ofRequest_eq_ok_iff.mp hp
  obtain ⟨host', hhost', -, rfl⟩ := ofRequest_eq_ok_iff.mp hq
  rw [toUpper_eq_toUpper_iff, toLower_eq_toLower_iff]
  constructor
  · rintro ⟨hmethod, hpath, hfolded, hport⟩
    exact ⟨hmethod, hpath, ⟨host, hhost, host', hhost', hfolded⟩, hport⟩
  · rintro ⟨hmethod, hpath, ⟨h, hh, h', hh', hfolded⟩, hport⟩
    obtain rfl : host = h := Option.some.inj (hhost.symm.trans hh)
    obtain rfl : host' = h' := Option.some.inj (hhost'.symm.trans hh')
    exact ⟨hmethod, hpath, hfolded, hport⟩

/-- Texts are equal exactly if the timestamps, the nonces and the targets are. -/
theorem text_eq_iff_sameTarget {P Q : Http.Request} (hP : P.IsRead) (hQ : Q.IsRead)
    {p q : CanonicalRequest} (hp : ofRequest P = .ok p) (hq : ofRequest Q = .ok q)
    {t t' : Timestamp} {nonce nonce' : String} (hnonce : isQuotable nonce = true)
    (hnonce' : isQuotable nonce' = true) :
    p.text t nonce = q.text t' nonce' ↔ t = t' ∧ nonce = nonce' ∧ P.SameTarget Q := by
  rw [text_eq_iff_lines hP hQ hp hq hnonce hnonce', lines_eq_iff, fields_eq_iff_sameTarget hp hq]

/-- **A signed text stands for its six fields.** The texts that are signed for two requests are
equal exactly if the timestamps and the nonces are, and the requests have the same target. -/
theorem signedText_eq_iff_sameTarget {P Q : Http.Request} (hP : P.IsRead) (hQ : Q.IsRead)
    {p q : CanonicalRequest} (hp : ofRequest P = .ok p) (hq : ofRequest Q = .ok q)
    {t t' : Timestamp} {nonce nonce' : String} {x y : String}
    (hx : (p.signedText t nonce).value = .ok x) (hy : (q.signedText t' nonce').value = .ok y) :
    x = y ↔ t = t' ∧ nonce = nonce' ∧ P.SameTarget Q := by
  obtain ⟨hnonce, rfl⟩ := signedText_eq_ok_iff.mp hx
  obtain ⟨hnonce', rfl⟩ := signedText_eq_ok_iff.mp hy
  exact text_eq_iff_sameTarget hP hQ hp hq hnonce hnonce'

/-- A request with a port, a query and letters in the other case. -/
def spelled : Http.Request := ⟨"get", ⟨some "http", some "Example.com:80", "/a", some "x=1"⟩, []⟩

/-- A request with user information, for the same target. -/
def plain : Http.Request := ⟨"GET", ⟨some "http", some "u:p@example.com", "/a", none⟩, []⟩

/-- What is signed for both. -/
def common : CanonicalRequest := ⟨"GET", "http", "example.com", 80, "/a"⟩

theorem isRead_spelled : spelled.IsRead :=
  ⟨⟨Utf8.encode "get", by decide +kernel⟩,
    ⟨Utf8.encode "HTTP://Example.com:80/a?x=1", by decide +kernel⟩⟩

theorem isRead_plain : plain.IsRead :=
  ⟨⟨Utf8.encode "GET", by decide +kernel⟩,
    ⟨Utf8.encode "http://u:p@example.com/a", by decide +kernel⟩⟩

theorem signedText_eq_iff_sameTarget_common :
    ofRequest spelled = .ok common ∧ ofRequest plain = .ok common ∧
      (common.signedText 1 "n").value = .ok "1\nn\nGET\n/a\nexample.com\n80\n\n" ∧
      (1 : Timestamp) = 1 ∧ "n" = "n" ∧ spelled.SameTarget plain := by
  have hspelled : ofRequest spelled = .ok common := by decide +kernel
  have hplain : ofRequest plain = .ok common := by decide +kernel
  have htext : (common.signedText 1 "n").value =
      .ok "1\nn\nGET\n/a\nexample.com\n80\n\n" := by decide +kernel
  exact ⟨hspelled, hplain, htext, (signedText_eq_iff_sameTarget isRead_spelled isRead_plain
    hspelled hplain htext htext).mp rfl⟩

end CanonicalRequest

end MacAccess
