import Mathlib.Tactic.Common
import MacAccess.Proofs.Utf8

/-!
# Requests as they are read

Reading lets no newline into a method, a path or a host. The method and the authority are made of
octets of their own classes, and the path has exactly the octets that were checked before it was
decoded. A request keeps this when it is signed, as only its headers change then.
-/

namespace MacAccess

theorem newline_mem_encode {s : String} (h : '\n' ∈ s.toList) : 0x0A ∈ Utf8.encode s :=
  List.mem_flatMap.mpr ⟨'\n', h, by decide⟩

namespace Http

theorem newline_notMem_method? {octets : Bytes} {m : String} (h : method? octets = some m) :
    '\n' ∉ m.toList := by
  rw [method?] at h
  split_ifs at h with hmethod
  intro hmem
  rw [← Option.some.inj h] at hmem
  have htoken := List.all_eq_true.mp hmethod.2 _ (newline_mem_asciiText hmem)
  exact absurd htoken (by decide)

/-! ## Authorities -/

namespace Authority

theorem step_newline (s : Scan) : s.step 0x0A = .error .character := rfl

theorem newline_notMem_of_scan : ∀ {octets : Bytes} {s s' : Scan},
    octets.foldlM Scan.step s = .ok s' → 0x0A ∉ octets
  | [], _, _, _ => List.not_mem_nil
  | b :: octets, s, s', h => by
      rw [List.foldlM_cons] at h
      obtain ⟨next, hstep, h⟩ := ok_of_bind h
      intro hmem
      rcases List.mem_cons.mp hmem with rfl | hrest
      · rw [step_newline] at hstep
        exact nomatch hstep
      · exact newline_notMem_of_scan h hrest

theorem newline_notMem_split {input octets rest : Bytes} (h : split input = .ok (octets, rest)) :
    0x0A ∉ octets := by
  rw [split] at h
  obtain ⟨s, hscan, h⟩ := ok_of_bind h
  split_ifs at h with hcomplete
  obtain ⟨rfl, rfl⟩ := Prod.mk.inj (Except.ok.inj h)
  exact newline_notMem_of_scan hscan

theorem mem_afterLast? {c x : Char} {cs after : List Char} (h : afterLast? c cs = some after)
    (hx : x ∈ after) : x ∈ cs := by
  rw [afterLast?] at h
  split_ifs at h with hc
  rw [← Option.some.inj h, List.mem_reverse] at hx
  exact List.mem_reverse.mp ((List.takeWhile_sublist _).subset hx)

/-- A host holds only characters of its authority, and the bracket that may close it. -/
theorem mem_host {text : String} {x : Char} (hx : x ∈ (host text).toList) :
    x ∈ text.toList ∨ x = ']' := by
  have hafter : ∀ y ∈ (afterLast? '@' text.toList).getD text.toList, y ∈ text.toList := by
    intro y hy
    cases hlast : afterLast? '@' text.toList with
    | none => simpa [hlast] using hy
    | some after => exact mem_afterLast? hlast (by simpa [hlast] using hy)
  rw [host, String.toList_ofList] at hx
  split at hx
  · rcases List.mem_append.mp hx with hx | hx
    · exact Or.inl (hafter x ((List.takeWhile_sublist _).subset hx))
    · exact Or.inr (List.mem_singleton.mp hx)
  · exact Or.inl (hafter x ((List.takeWhile_sublist _).subset hx))

end Authority

/-! ## URIs -/

namespace Uri

theorem checkedText_eq_ok {isAllowed : UInt8 → Bool} {octets : Bytes} {text : String}
    (h : checkedText isAllowed octets = .ok text) :
    octets.all isAllowed = true ∧ Utf8.encode text = octets := by
  rw [checkedText] at h
  split_ifs at h with hall
  cases hdecode : Utf8.decode? octets with
  | none =>
      rw [hdecode] at h
      exact nomatch h
  | some decoded =>
      rw [hdecode] at h
      rw [← Except.ok.inj h]
      exact ⟨hall, Utf8.encode_of_decode? hdecode⟩

/-- The path has the octets before the query, or is the slash if there are none. -/
theorem path_of_pathAndQuery {input : Bytes} {path : String} {query : Option String}
    (h : pathAndQuery input = .ok (path, query)) :
    ∃ octets text, checkedText isPathOctet octets = .ok text ∧
      path = if text = "" then "/" else text := by
  obtain ⟨text, htext, h⟩ := ok_of_bind h
  refine ⟨_, text, htext, ?_⟩
  dsimp only at h
  split at h
  · exact (Prod.mk.inj (Except.ok.inj h)).1.symm
  · obtain ⟨_, _, h⟩ := ok_of_bind h
    exact (Prod.mk.inj (Except.ok.inj h)).1.symm

theorem newline_notMem_withPath {scheme authority : Option String} {input : Bytes} {u : Uri}
    (h : withPath scheme authority input = .ok u) :
    u.authority = authority ∧ '\n' ∉ u.path.toList := by
  rw [withPath] at h
  obtain ⟨⟨path, query⟩, hread, rfl⟩ := ok_of_map h
  refine ⟨rfl, ?_⟩
  obtain ⟨octets, text, htext, hpath⟩ := path_of_pathAndQuery hread
  obtain ⟨hall, hoctets⟩ := checkedText_eq_ok htext
  change '\n' ∉ path.toList
  rw [hpath]
  split_ifs with hempty
  · decide
  · intro hmem
    have hoctet := newline_mem_encode hmem
    rw [hoctets] at hoctet
    exact absurd (List.all_eq_true.mp hall _ hoctet) (by decide)

/-- The forms in which a URI is read. -/
theorem ofOctets_cases {input : Bytes} {u : Uri} (h : ofOctets input = .ok u) :
    u = ⟨none, none, "*", none⟩ ∨ withPath none none input = .ok u ∨
      (∃ leftover rest, authorityForm leftover rest = .ok u) ∨
      (∃ scheme rest, absoluteForm scheme rest = .ok u) := by
  rw [ofOctets] at h
  split_ifs at h with hlong hempty hstar hslash hone
  · exact Or.inl (Except.ok.inj h).symm
  · exact Or.inr (Or.inl h)
  · exact Or.inr (Or.inr (Or.inl ⟨_, _, h⟩))
  · split at h
    · exact nomatch h
    · exact nomatch h
    · exact Or.inr (Or.inr (Or.inl ⟨_, _, h⟩))
    · exact Or.inr (Or.inr (Or.inr ⟨_, _, h⟩))

theorem authorityForm_eq_ok {leftover : UriFlaw} {input : Bytes} {u : Uri}
    (h : authorityForm leftover input = .ok u) :
    ∃ octets, Authority.split input = .ok (octets, []) ∧
      u = ⟨none, some (Octet.asciiText octets), "", none⟩ := by
  rw [authorityForm] at h
  split at h
  · exact nomatch h
  · exact ⟨_, by assumption, (Except.ok.inj h).symm⟩
  · exact nomatch h

theorem absoluteForm_eq_ok {scheme : String} {input : Bytes} {u : Uri}
    (h : absoluteForm scheme input = .ok u) :
    ∃ octets rest, Authority.split input = .ok (octets, rest) ∧
      withPath (some scheme) (some (Octet.asciiText octets)) rest = .ok u := by
  rw [absoluteForm] at h
  split at h
  · exact nomatch h
  · exact nomatch h
  · exact ⟨_, _, by assumption, h⟩

/-- **No newline in a URI that was read**, neither in its path nor in its host. -/
theorem newline_notMem_ofOctets {input : Bytes} {u : Uri} (h : ofOctets input = .ok u) :
    '\n' ∉ u.path.toList ∧ ∀ host ∈ u.host?, '\n' ∉ host.toList := by
  have hhost : ∀ {octets rest input : Bytes}, Authority.split input = .ok (octets, rest) →
      '\n' ∉ (Authority.host (Octet.asciiText octets)).toList := by
    intro octets rest input hsplit hmem
    rcases Authority.mem_host hmem with hmem | hbracket
    · exact Authority.newline_notMem_split hsplit (newline_mem_asciiText hmem)
    · exact absurd hbracket (by decide)
  rcases ofOctets_cases h with rfl | hpath | ⟨leftover, rest, hform⟩ | ⟨scheme, rest, hform⟩
  · exact ⟨by decide, nofun⟩
  · obtain ⟨hauthority, hread⟩ := newline_notMem_withPath hpath
    refine ⟨hread, ?_⟩
    rw [host?, hauthority]
    exact nofun
  · obtain ⟨octets, hsplit, rfl⟩ := authorityForm_eq_ok hform
    refine ⟨List.not_mem_nil, ?_⟩
    rintro host ⟨⟩
    exact hhost hsplit
  · obtain ⟨octets, rest, hsplit, hpath⟩ := absoluteForm_eq_ok hform
    obtain ⟨hauthority, hread⟩ := newline_notMem_withPath hpath
    refine ⟨hread, ?_⟩
    rw [host?, hauthority]
    rintro host ⟨⟩
    exact hhost hsplit

end Uri

/-! ## Header values -/

/-- Whether a text is of spaces and visible ASCII. -/
def IsPrintable (s : String) : Prop := ∀ c ∈ s.toList, 0x20 ≤ c.toNat ∧ c.toNat ≤ 0x7E

instance (s : String) : Decidable (IsPrintable s) := List.decidableBAll _ s.toList

theorem IsPrintable.append {s t : String} (hs : IsPrintable s) (ht : IsPrintable t) :
    IsPrintable (s ++ t) := by
  intro c hc
  rw [String.toList_append] at hc
  rcases List.mem_append.mp hc with hc | hc
  · exact hs c hc
  · exact ht c hc

namespace HeaderValue

theorem isAllowed_of_isText {b : UInt8} (h : isText b = true) : isAllowed b = true := by
  simp only [isText, isAllowed, Bool.or_eq_true, Bool.and_eq_true, decide_eq_true_eq, bne_iff_ne,
    beq_iff_eq] at h ⊢
  rcases h with htab | ⟨hlow, hhigh⟩
  · exact Or.inl htab
  · refine Or.inr ⟨hlow, ?_⟩
    rintro rfl
    exact absurd hhigh (by decide)

theorem lt_of_isText {b : UInt8} (h : isText b = true) : b < 0x80 := by
  simp only [isText, Bool.or_eq_true, Bool.and_eq_true, decide_eq_true_eq, beq_iff_eq] at h
  rcases h with rfl | ⟨-, hhigh⟩
  · decide
  · exact Std.lt_of_le_of_lt hhigh (by decide)

theorem all_isText_encode {s : String} (h : IsPrintable s) :
    (Utf8.encode s).all isText = true := by
  refine (Utf8.all_encode (fun _ => lt_of_isText) s).mpr fun c hc => ?_
  obtain ⟨hlow, hhigh⟩ := h c hc
  have hnat : (UInt8.ofNat c.toNat).toNat = c.toNat := by
    rw [UInt8.toNat_ofNat', Nat.mod_eq_of_lt (by omega)]
  refine ⟨by omega, ?_⟩
  simp [isText, UInt8.le_iff_toNat_le, hnat, hlow, hhigh]

/-- **A printable text is a header value**, -/
theorem ofText?_of_isPrintable {s : String} (h : IsPrintable s) :
    ofText? s = some ⟨Utf8.encode s, false⟩ := by
  have hallowed : (Utf8.encode s).all isAllowed = true :=
    List.all_eq_true.mpr fun b hb =>
      isAllowed_of_isText (List.all_eq_true.mp (all_isText_encode h) b hb)
  rw [ofText?, ofOctets?, if_pos hallowed]

/-- and a header value with its octets is read as this text. -/
theorem text?_encode {s : String} (h : IsPrintable s) (sensitive : Bool) :
    text? ⟨Utf8.encode s, sensitive⟩ = some s := by
  have hascii : ∀ c ∈ s.toList, c.toNat < 0x80 :=
    fun c hc => Nat.lt_of_le_of_lt (h c hc).2 (by decide)
  rw [text?, if_pos (all_isText_encode h), Utf8.asciiText_encode hascii]

/-- A header value that is text has the octets of this text. -/
theorem encode_of_text? {v : HeaderValue} {text : String} (h : v.text? = some text) :
    Utf8.encode text = v.octets := by
  unfold text? at h
  split_ifs at h with hall
  rw [← Option.some.inj h]
  apply Utf8.encode_asciiText
  intro b hb
  exact lt_of_isText (List.all_eq_true.mp hall b hb)

end HeaderValue

theorem Headers.values_replace (hs : Headers) (name : String) (value : HeaderValue) :
    (hs.replace name value).values name = [value] := by
  have hgone : (hs.filter fun f => f.1 != name).filter (fun f => f.1 == name) = [] := by
    rw [List.filter_eq_nil_iff]
    intro f hf
    simpa using (List.mem_filter.mp hf).2
  simp [replace, append, values, List.filter_append, hgone]

theorem Headers.get?_replace (hs : Headers) (name : String) (value : HeaderValue) :
    (hs.replace name value).get? name = some value := by
  rw [get?, values_replace]
  rfl

theorem Request.authorization?_authorize (r : Request) (value : HeaderValue) :
    (r.authorize value).authorization? = some value :=
  r.headers.get?_replace authorizationHeader value

/-! ## Requests -/

/-- Whether the method and the URI of a request were read from octets, as every request's are. The
headers may have changed since. -/
structure Request.IsRead (r : Request) : Prop where
  method : ∃ octets, method? octets = some r.method
  uri : ∃ octets, Uri.ofOctets octets = .ok r.uri

namespace Request

theorem isRead_of_build {method uri : Bytes} {headers : List (Bytes × Bytes)} {r : Request}
    (h : build method uri headers = .ok r) : r.IsRead := by
  rw [build] at h
  split at h
  · exact nomatch h
  · exact nomatch h
  · exact nomatch h
  · rw [← Except.ok.inj h]
    exact ⟨⟨_, by assumption⟩, ⟨_, by assumption⟩⟩

theorem IsRead.authorize {r : Request} (h : r.IsRead) (value : HeaderValue) :
    (r.authorize value).IsRead := ⟨h.method, h.uri⟩

theorem IsRead.newline_notMem_method {r : Request} (h : r.IsRead) : '\n' ∉ r.method.toList := by
  obtain ⟨octets, hread⟩ := h.method
  exact newline_notMem_method? hread

theorem IsRead.newline_notMem_path {r : Request} (h : r.IsRead) : '\n' ∉ r.uri.path.toList := by
  obtain ⟨octets, hread⟩ := h.uri
  exact (Uri.newline_notMem_ofOctets hread).1

theorem IsRead.newline_notMem_host {r : Request} (h : r.IsRead) {host : String}
    (hhost : r.uri.host? = some host) : '\n' ∉ host.toList := by
  obtain ⟨octets, hread⟩ := h.uri
  exact (Uri.newline_notMem_ofOctets hread).2 host hhost

end Request

end Http

end MacAccess
