import Mathlib.Data.List.TakeWhile
import MacAccess.Proofs.Verdict

/-!
# Which port is signed

The port text of an authority is what follows the colon after the host. A number there is the port
that is signed, and without such a text it is the port of the scheme. So it is too with a text that
is no number, as this is read as no port at all; the request is not refused for it.

The reader looks for the last colon of the whole authority instead. What joins the two is the scan
that let the authority in: a bracket that opens is closed, so that a colon in an IP literal or in
user information is never followed by a number alone, and after the host there is one colon at most,
unless a bracket opened in the user information closes behind it.
-/

namespace MacAccess

namespace Http.Authority

/-! ## What a scan keeps -/

/-- The ways in which a scan goes on with one more octet. -/
inductive Scan.Advances (s : Scan) : UInt8 → Scan → Prop where
  | colon (hfew : s.colons < maxColons) :
      Advances s 0x3A { s with colons := s.colons + 1, atSign := false }
  | opening (hpercent : s.percent = false) (hopened : s.opened = false) :
      Advances s 0x5B { s with opened := true, atSign := false }
  | closing (hopened : s.opened = true) (hclosed : s.closed = false) :
      Advances s 0x5D { s with closed := true, colons := 0, percent := false, atSign := false }
  | atSign : Advances s 0x40 { s with colons := 0, percent := false, atSign := true }
  | percent : Advances s 0x25 { s with percent := true, atSign := false }
  | plain {b : UInt8} (hplain : isPlain b = true) : Advances s b { s with atSign := false }

theorem Scan.advances_of_step {s s' : Scan} {b : UInt8} (h : s.step b = .ok s') :
    s.Advances b s' := by
  unfold step at h
  simp only [beq_iff_eq] at h
  split_ifs at h with hcolon hmany hopening hrefused hclosing hunopened hat hpercent hplain
  · obtain rfl := Except.ok.inj h
    subst hcolon
    exact .colon (Nat.lt_of_not_le hmany)
  · obtain rfl := Except.ok.inj h
    subst hopening
    have hfree : s.percent = false ∧ s.opened = false := by simpa using hrefused
    exact .opening hfree.1 hfree.2
  · obtain rfl := Except.ok.inj h
    subst hclosing
    have hpending : s.opened = true ∧ s.closed = false := by simpa using hunopened
    exact .closing hpending.1 hpending.2
  · obtain rfl := Except.ok.inj h
    subst hat
    exact .atSign
  · obtain rfl := Except.ok.inj h
    subst hpercent
    exact .percent
  · obtain rfl := Except.ok.inj h
    exact .plain hplain

namespace Scan

/-- A scan goes through every octet of its input. -/
theorem exists_of_scan_append {pre post : Bytes} {b : UInt8} {s s' : Scan}
    (h : (pre ++ b :: post).foldlM step s = .ok s') :
    ∃ here next, pre.foldlM step s = .ok here ∧ here.Advances b next ∧
      post.foldlM step next = .ok s' := by
  rw [List.foldlM_append] at h
  obtain ⟨here, hpre, h⟩ := ok_of_bind h
  rw [List.foldlM_cons] at h
  obtain ⟨next, hstep, hpost⟩ := ok_of_bind h
  exact ⟨here, next, hpre, advances_of_step hstep, hpost⟩

/-- Along a scan the colons are counted, as long as nothing starts the count anew, -/
theorem colons_of_scan : ∀ {octets : Bytes} {s s' : Scan}, octets.foldlM step s = .ok s' →
    0x5D ∉ octets → 0x40 ∉ octets → s'.colons = s.colons + octets.count 0x3A
  | [], s, s', h, _, _ => by
      rw [← Except.ok.inj h]
      rfl
  | b :: octets, s, s', h, hclosing, hat => by
      rw [List.foldlM_cons] at h
      obtain ⟨next, hstep, h⟩ := ok_of_bind h
      have hrest := colons_of_scan h (List.not_mem_of_not_mem_cons hclosing)
        (List.not_mem_of_not_mem_cons hat)
      rw [hrest]
      cases advances_of_step hstep with
      | colon => rw [List.count_cons_self, Nat.add_assoc, Nat.add_comm 1]
      | closing => exact absurd List.mem_cons_self hclosing
      | atSign => exact absurd List.mem_cons_self hat
      | plain hplain =>
          have hcolon : b ≠ 0x3A := by
            rintro rfl
            exact absurd hplain (by decide)
          rw [List.count_cons_of_ne hcolon]
      | opening | percent => rw [List.count_cons_of_ne (by decide)]

/-- What each octet of an input keeps, the scan of it keeps. -/
theorem keeps_of_scan {P : Scan → Prop} : ∀ {octets : Bytes} {s s' : Scan},
    octets.foldlM step s = .ok s' →
    (∀ b ∈ octets, ∀ s s' : Scan, s.Advances b s' → P s → P s') → P s → P s'
  | [], s, s', h, _, hs => by rwa [← Except.ok.inj h]
  | b :: octets, s, s', h, hkeeps, hs => by
      rw [List.foldlM_cons] at h
      obtain ⟨next, hstep, h⟩ := ok_of_bind h
      refine keeps_of_scan h (fun b hb => hkeeps b (List.mem_cons_of_mem _ hb)) ?_
      exact hkeeps b List.mem_cons_self s next (advances_of_step hstep) hs

section Brackets

variable {octets : Bytes} {s s' : Scan} (h : octets.foldlM step s = .ok s')

include h

/-- No bracket is closed but by its sign, -/
theorem closed_eq_false_of_scan (hclosing : 0x5D ∉ octets) (hs : s.closed = false) :
    s'.closed = false := by
  refine keeps_of_scan (P := fun s => s.closed = false) h ?_ hs
  intro b hb s s' hstep hs
  cases hstep with
  | closing => exact absurd hb hclosing
  | _ => exact hs

/-- one that is open stays so, -/
theorem opened_of_scan (hs : s.opened = true) : s'.opened = true := by
  refine keeps_of_scan (P := fun s => s.opened = true) h ?_ hs
  intro b _ s s' hstep hs
  cases hstep with
  | opening => rfl
  | _ => exact hs

/-- and one that is closed was open before. -/
theorem opened_of_closed_of_scan (hs : s.closed = true → s.opened = true) :
    s'.closed = true → s'.opened = true := by
  refine keeps_of_scan (P := fun s => s.closed = true → s.opened = true) h ?_ hs
  intro b _ s s' hstep hs
  cases hstep with
  | opening => exact fun _ => rfl
  | closing hopened => exact fun _ => hopened
  | _ => exact hs

end Brackets

end Scan

/-- Whether an authority is one that a scan lets in. -/
def IsScanned (text : String) : Prop :=
  ∃ octets s, octets.foldlM Scan.step Scan.start = .ok s ∧ s.isComplete = true ∧
    Octet.asciiText octets = text

theorem isScanned_of_split {input octets rest : Bytes} (h : split input = .ok (octets, rest)) :
    IsScanned (Octet.asciiText octets) := by
  rw [split] at h
  obtain ⟨s, hscan, h⟩ := ok_of_bind h
  split_ifs at h with hcomplete
  obtain ⟨rfl, rfl⟩ := Prod.mk.inj (Except.ok.inj h)
  exact ⟨_, s, hscan, hcomplete, rfl⟩

end Http.Authority

/-! ## Places in an authority -/

theorem toChar_injective : Function.Injective Octet.toChar := by
  intro a b h
  rw [← UInt8.toNat_inj, ← toNat_toChar a, h, toNat_toChar]

namespace Http.Authority.IsScanned

variable {text : String} {before after : List Char}

/-- A place in an accepted authority is a place in its scan. -/
theorem exists_scan (h : IsScanned text) {b : UInt8}
    (heq : text.toList = before ++ Octet.toChar b :: after) :
    ∃ pre post here next s, post.map Octet.toChar = after ∧
      List.foldlM Scan.step Scan.start pre = .ok here ∧ here.Advances b next ∧
      List.foldlM Scan.step next post = .ok s ∧ s.isComplete = true := by
  obtain ⟨octets, s, hscan, hcomplete, rfl⟩ := h
  rw [Octet.asciiText, String.toList_ofList, List.map_eq_append_iff] at heq
  obtain ⟨pre, rest, rfl, -, hrest⟩ := heq
  obtain ⟨b', post, rfl, hb, hpost⟩ := List.map_eq_cons_iff.mp hrest
  obtain rfl := toChar_injective hb
  obtain ⟨here, next, hpre, hstep, hscan⟩ := Scan.exists_of_scan_append hscan
  exact ⟨pre, post, here, next, s, hpost, hpre, hstep, hscan, hcomplete⟩

/-- A bracket that opens is closed later. -/
theorem closing_mem (h : IsScanned text) (heq : text.toList = before ++ '[' :: after) :
    ']' ∈ after := by
  obtain ⟨pre, post, here, next, s, rfl, hpre, hstep, hscan, hcomplete⟩ :=
    h.exists_scan (b := 0x5B) heq
  by_contra hnone
  have hpost : 0x5D ∉ post := fun hmem => hnone (List.mem_map_of_mem (f := Octet.toChar) hmem)
  have hhere := Scan.opened_of_closed_of_scan hpre nofun
  cases hstep with
  | opening hpercent hunopened =>
      have hunclosed : here.closed = false := by
        cases hclosed : here.closed with
        | false => rfl
        | true => exact nomatch hunopened.symm.trans (hhere hclosed)
      have hopened := Scan.opened_of_scan hscan rfl
      have hstill := Scan.closed_eq_false_of_scan hscan hpost hunclosed
      simp [Scan.isComplete, hopened, hstill] at hcomplete
  | plain hplain => exact absurd hplain (by decide)

/-- A colon is the last one, if neither a bracket nor user information ends after it. -/
theorem colon_notMem (h : IsScanned text) (heq : text.toList = before ++ ':' :: after)
    (hclosing : ']' ∉ after) (hat : '@' ∉ after) : ':' ∉ after := by
  obtain ⟨pre, post, here, next, s, rfl, -, hstep, hscan, hcomplete⟩ :=
    h.exists_scan (b := 0x3A) heq
  have hnot {b : UInt8} (hb : Octet.toChar b ∉ post.map Octet.toChar) : b ∉ post :=
    fun hmem => hb (List.mem_map_of_mem hmem)
  have hcolons := Scan.colons_of_scan hscan (hnot hclosing) (hnot hat)
  have hmost : s.colons ≤ 1 := by
    simp only [Scan.isComplete, Bool.and_eq_true, decide_eq_true_eq] at hcomplete
    exact hcomplete.1.1.2
  intro hmem
  have hcount : 0 < post.count 0x3A :=
    List.count_pos_iff.mpr ((List.mem_map_of_injective toChar_injective).mp hmem)
  cases hstep with
  | colon =>
      dsimp only at hcolons
      omega
  | plain hplain => exact absurd hplain (by decide)

end Http.Authority.IsScanned

namespace Http.Authority

/-! ## The port text -/

/-- The authority without its user information. -/
def hostPort (text : String) : List Char := (afterLast? '@' text.toList).getD text.toList

/-- The text after the colon that follows the host, if there is such a colon. -/
def portText? (text : String) : Option String :=
  match ((hostPort text).drop (host text).length).dropWhile (· != ':') with
  | [] => none
  | _ :: port => some (String.ofList port)

/-- Whether a text is the number of a port in decimal digits, with a plus sign or without. -/
def Denotes (text : String) (port : UInt16) : Prop :=
  ∃ digits : List Char, (text.toList = digits ∨ text.toList = '+' :: digits) ∧ digits ≠ [] ∧
    digits.all Char.isDigit = true ∧ Nat.ofDigitChars 10 digits 0 = port.toNat

/-- The number is that of the digits left without a plus sign. -/
theorem portNumber?_eq_some_iff_of_sign {cs digits : List Char} {port : UInt16}
    (h : cs = '+' :: digits ∨ cs = digits ∧ ¬ ∃ rest, digits = '+' :: rest) :
    portNumber? cs = some port ↔ digits ≠ [] ∧ digits.all Char.isDigit = true ∧
      Nat.ofDigitChars 10 digits 0 = port.toNat := by
  have heq : portNumber? cs = if digits ≠ [] ∧ digits.all Char.isDigit = true then
      (if Nat.ofDigitChars 10 digits 0 < 65536 then
        some (UInt16.ofNat (Nat.ofDigitChars 10 digits 0)) else none) else none := by
    rcases h with rfl | ⟨rfl, hplain⟩
    · rfl
    · unfold portNumber?
      dsimp only
      split
      · next rest => exact absurd ⟨rest, rfl⟩ hplain
      · rfl
  rw [heq]
  constructor
  · intro hport
    split_ifs at hport with hdigits hlt
    refine ⟨hdigits.1, hdigits.2, ?_⟩
    rw [← Option.some.inj hport, UInt16.toNat_ofNat', Nat.mod_eq_of_lt hlt]
  · rintro ⟨hne, hall, hvalue⟩
    rw [if_pos ⟨hne, hall⟩, hvalue, if_pos port.toNat_lt, UInt16.ofNat_toNat]

theorem portNumber?_eq_some_iff {text : String} {port : UInt16} :
    portNumber? text.toList = some port ↔ Denotes text port := by
  constructor
  · intro h
    by_cases hplus : ∃ digits, text.toList = '+' :: digits
    · obtain ⟨digits, hcs⟩ := hplus
      exact ⟨digits, Or.inr hcs, (portNumber?_eq_some_iff_of_sign (Or.inl hcs)).mp h⟩
    · exact ⟨_, Or.inl rfl, (portNumber?_eq_some_iff_of_sign (Or.inr ⟨rfl, hplus⟩)).mp h⟩
  · rintro ⟨digits, hcs, hdigits⟩
    refine (portNumber?_eq_some_iff_of_sign (hcs.symm.imp_right fun hcs => ⟨hcs, ?_⟩)).mpr hdigits
    rintro ⟨rest, rfl⟩
    exact nomatch hdigits.2.1

/-- There is no more user information in what follows the last `@`. -/
theorem hostPort_spec (text : String) :
    '@' ∉ hostPort text ∧
      (text.toList = hostPort text ∨ ∃ user, text.toList = user ++ '@' :: hostPort text) := by
  unfold hostPort
  by_cases hat : '@' ∈ text.toList
  · obtain ⟨user, rest, heq, hrest⟩ := exists_last hat
    rw [heq, afterLast?_append hrest]
    exact ⟨hrest, Or.inr ⟨user, rfl⟩⟩
  · rw [afterLast?_of_notMem hat]
    exact ⟨hat, Or.inl rfl⟩

theorem port?_eq_of_hostPort (text : String) :
    port? text = afterLast? ':' (hostPort text) >>= portNumber? := by
  obtain ⟨-, hwhole | ⟨user, huser⟩⟩ := hostPort_spec text
  · rw [port?, hwhole]
  · have hsplit : text = String.ofList user ++ "@" ++ String.ofList (hostPort text) := by
      rw [← String.toList_inj, toList_userinfo, String.toList_ofList, String.toList_ofList]
      exact huser
    rw [hsplit, port?_userinfo, ← hsplit, port?, String.toList_ofList]

theorem afterLast?_append_cons (c : Char) (before after : List Char) :
    afterLast? c (before ++ c :: after) = some ((afterLast? c after).getD after) := by
  by_cases hmem : c ∈ after
  · obtain ⟨front, last, rfl, hlast⟩ := exists_last hmem
    have hsplit : before ++ c :: (front ++ c :: last) = (before ++ c :: front) ++ c :: last := by
      simp
    rw [hsplit, afterLast?_append hlast, afterLast?_append hlast]
    rfl
  · rw [afterLast?_append hmem, afterLast?_of_notMem hmem]
    rfl

/-! ## Where the host ends -/

/-- A literal ends with its bracket, -/
theorem toList_host_of_literal {text : String} {tail : List Char}
    (h : hostPort text = '[' :: tail) :
    (host text).toList = ('[' :: tail).takeWhile (· != ']') ++ [']'] := by
  unfold hostPort at h
  unfold host
  dsimp only
  rw [h]
  exact String.toList_ofList

/-- a name before a colon. -/
theorem toList_host_of_name {text : String} (h : ¬ ∃ tail, hostPort text = '[' :: tail) :
    (host text).toList = (hostPort text).takeWhile (· != ':') := by
  unfold hostPort at h ⊢
  unfold host
  dsimp only
  split
  · next tail htail => exact absurd ⟨tail, htail⟩ h
  · exact String.toList_ofList

/-- What follows the host starts after it, and a colon within the host is followed by the bracket
that ends it. -/
theorem IsScanned.hostPort_eq {text : String} (h : IsScanned text) :
    ∃ rest, hostPort text = (host text).toList ++ rest ∧
      (':' ∈ (host text).toList → ∃ literal, (host text).toList = literal ++ [']']) := by
  by_cases hopening : ∃ tail, hostPort text = '[' :: tail
  · obtain ⟨tail, htail⟩ := hopening
    have hclosing : ']' ∈ tail := by
      obtain ⟨-, hwhole | ⟨user, huser⟩⟩ := hostPort_spec text
      · have hstart : text.toList = [] ++ '[' :: tail := hwhole.trans htail
        exact h.closing_mem hstart
      · have hmiddle : text.toList = (user ++ ['@']) ++ '[' :: tail := by
          rw [huser, htail, List.append_assoc, List.singleton_append]
        exact h.closing_mem hmiddle
    obtain ⟨inside, rest, rfl, hinside⟩ := List.eq_append_cons_of_mem hclosing
    have hnone : ']' ∉ '[' :: inside := by simpa using hinside
    have hliteral : (host text).toList = ('[' :: inside) ++ [']'] := by
      rw [toList_host_of_literal htail, ← List.cons_append, Separator.takeWhile_part hnone]
    refine ⟨rest, ?_, fun _ => ⟨_, hliteral⟩⟩
    rw [hliteral, htail]
    simp
  · have hname := toList_host_of_name hopening
    refine ⟨(hostPort text).dropWhile (· != ':'), ?_, ?_⟩
    · rw [hname, List.takeWhile_append_dropWhile]
    · rw [hname]
      exact fun hmem => absurd hmem (Separator.notMem_takeWhile ':' _)

theorem portText?_eq {text : String} {rest : List Char}
    (h : hostPort text = (host text).toList ++ rest) :
    portText? text = match rest.dropWhile (· != ':') with
      | [] => none
      | _ :: port => some (String.ofList port) := by
  rw [portText?, h, ← String.length_toList, List.drop_left]

/-- **The port read is that of the port text.** It is the number after the last colon there, and
the number that the whole text is if there is no other colon in it. -/
theorem IsScanned.port?_eq {text : String} (h : IsScanned text) :
    port? text = portText? text >>= fun port =>
      portNumber? ((afterLast? ':' port.toList).getD port.toList) := by
  obtain ⟨rest, heq, hliteral⟩ := h.hostPort_eq
  rw [port?_eq_of_hostPort, portText?_eq heq, heq]
  by_cases hcolon : ':' ∈ rest
  · obtain ⟨before, after, rfl, hbefore⟩ := List.eq_append_cons_of_mem hcolon
    rw [Separator.dropWhile_part hbefore, ← List.append_assoc, afterLast?_append_cons]
    simp
  · have hnone : rest.dropWhile (· != ':') = [] :=
      List.dropWhile_eq_nil_iff.mpr (Separator.ne_of_mem hcolon)
    rw [hnone]
    by_cases hhost : ':' ∈ (host text).toList
    · -- A colon of the literal has its closing bracket behind it.
      obtain ⟨before, after, hsplit, hafter⟩ := exists_last hhost
      have hclosing : ']' ∈ after := by
        obtain ⟨literal, hends⟩ := hliteral hhost
        have hend : (':' :: after).getLast? = some ']' := by
          rw [← List.getLast?_append_cons before, ← hsplit, hends, List.getLast?_concat]
        refine (List.mem_cons.mp (List.mem_of_getLast? hend)).resolve_left (by decide)
      have hlast : ':' ∉ after ++ rest := by simp [hafter, hcolon]
      rw [hsplit, List.append_assoc, List.cons_append, afterLast?_append hlast]
      exact portNumber?_of_mem (List.mem_append_left _ hclosing) (by decide) (by decide)
    · rw [afterLast?_of_notMem (by simp [hhost, hcolon])]
      rfl

/-- The port text is what its authority ends with, without user information. -/
theorem IsScanned.exists_of_portText? {text port : String} (h : IsScanned text)
    (hport : portText? text = some port) :
    '@' ∉ port.toList ∧ ∃ before, text.toList = before ++ ':' :: port.toList := by
  obtain ⟨rest, heq, -⟩ := h.hostPort_eq
  rw [portText?_eq heq] at hport
  split at hport
  · exact nomatch hport
  · next c after hdrop =>
    obtain rfl := Option.some.inj hport
    rw [Separator.eq_append_of_dropWhile hdrop, ← List.append_assoc] at heq
    obtain ⟨hat, hwhole⟩ := hostPort_spec text
    rw [heq] at hat hwhole
    rw [String.toList_ofList]
    refine ⟨fun hmem => hat (by simp [hmem]), ?_⟩
    rcases hwhole with hwhole | ⟨user, huser⟩
    · exact ⟨_, hwhole⟩
    · rw [← List.cons_append, ← List.append_assoc] at huser
      exact ⟨_, huser⟩

theorem Denotes.colon_notMem {text : String} {port : UInt16} (h : Denotes text port) :
    ':' ∉ text.toList := by
  obtain ⟨digits, htext, -, hall, -⟩ := h
  have hdigits : ':' ∉ digits := fun hmem => absurd (List.all_eq_true.mp hall ':' hmem) (by decide)
  rcases htext with htext | htext
  · exact htext ▸ hdigits
  · rw [htext]
    exact List.not_mem_cons_of_ne_of_not_mem (by decide) hdigits

theorem IsScanned.port?_of_denotes {text port : String} {number : UInt16} (h : IsScanned text)
    (hport : portText? text = some port) (hnumber : Denotes port number) :
    port? text = some number := by
  rw [h.port?_eq, hport]
  change portNumber? ((afterLast? ':' port.toList).getD port.toList) = some number
  rw [afterLast?_of_notMem hnumber.colon_notMem]
  exact portNumber?_eq_some_iff.mpr hnumber

/-- A text that is no number is read as no port, but for a number after another colon in it. That
takes a bracket between the two, one that was opened before the host. -/
theorem IsScanned.port?_of_not_denotes {text port : String} (h : IsScanned text)
    (hport : portText? text = some port) (hnone : ∀ number, ¬ Denotes port number) :
    port? text = none ∨ ']' ∈ port.toList ∧ ∃ before tail number,
      port = before ++ ":" ++ tail ∧ Denotes tail number ∧ port? text = some number := by
  have hread : port? text = portNumber? ((afterLast? ':' port.toList).getD port.toList) := by
    rw [h.port?_eq, hport]
    rfl
  cases hnumber : port? text with
  | none => exact Or.inl rfl
  | some number =>
      rw [hread] at hnumber
      have hcolon : ':' ∈ port.toList := by
        by_contra hcolon
        rw [afterLast?_of_notMem hcolon] at hnumber
        exact hnone number (portNumber?_eq_some_iff.mp hnumber)
      obtain ⟨hat, start, hwhole⟩ := h.exists_of_portText? hport
      have hclosing : ']' ∈ port.toList := by
        by_contra hclosing
        exact h.colon_notMem hwhole hclosing hat hcolon
      obtain ⟨before, tail, hsplit, htail⟩ := exists_last hcolon
      rw [hsplit, afterLast?_append htail, Option.getD_some] at hnumber
      refine Or.inr ⟨hclosing, String.ofList before, String.ofList tail, number, ?_, ?_, rfl⟩
      · rw [← String.toList_inj, hsplit]
        have hsign : ":".toList = [':'] := rfl
        simp [hsign]
      · rw [← String.toList_ofList (l := tail)] at hnumber
        exact portNumber?_eq_some_iff.mp hnumber

end Http.Authority

/-! ## The port that is signed -/

theorem Http.Request.IsRead.isScanned {r : Http.Request} (hr : r.IsRead) {authority : String}
    (h : r.uri.authority = some authority) : Http.Authority.IsScanned authority := by
  obtain ⟨octets, hread⟩ := hr.uri
  rcases Http.Uri.ofOctets_cases hread with hstar | hpath | ⟨leftover, rest, hform⟩ |
    ⟨scheme, rest, hform⟩
  · rw [hstar] at h
    exact nomatch h
  · rw [(Http.Uri.newline_notMem_withPath hpath).1] at h
    exact nomatch h
  · obtain ⟨octets, hsplit, hu⟩ := Http.Uri.authorityForm_eq_ok hform
    rw [hu] at h
    rw [← Option.some.inj h]
    exact Http.Authority.isScanned_of_split hsplit
  · obtain ⟨octets, rest, hsplit, hpath⟩ := Http.Uri.absoluteForm_eq_ok hform
    rw [(Http.Uri.newline_notMem_withPath hpath).1] at h
    rw [← Option.some.inj h]
    exact Http.Authority.isScanned_of_split hsplit

/-- The port of the scheme, https in any case or another one. -/
def Http.Uri.schemePort (u : Http.Uri) : UInt16 :=
  if u.scheme.map String.toLower = some "https" then 443 else 80

namespace CanonicalRequest

open Http.Authority

/-- **The port that is signed.** A request that names a host has a canonical form. Its port is the
number that the port text denotes, and the port of the scheme if there is no port text or an empty
one. With any other text the request is not refused: the port of the scheme is signed then too,
except where a bracket closes behind the host and another colon starts a number after it. -/
theorem port_signed {r : Http.Request} (hr : r.IsRead) {authority : String}
    (hauthority : r.uri.authority = some authority) (hhost : Http.Authority.host authority ≠ "") :
    ∃ canonical, ofRequest r = .ok canonical ∧
      ((portText? authority).getD "" = "" → canonical.port = r.uri.schemePort) ∧
      ∀ text, portText? authority = some text →
        (∀ port, Denotes text port → canonical.port = port) ∧
        ((∀ port, ¬ Denotes text port) → canonical.port = r.uri.schemePort ∨
          ']' ∈ text.toList ∧
            ∃ before tail, text = before ++ ":" ++ tail ∧ Denotes tail canonical.port) := by
  have hscanned := hr.isScanned hauthority
  have hport : r.uri.port? = port? authority := by
    rw [Http.Uri.port?, hauthority]
    rfl
  have hnamed {port : UInt16} (h : port? authority = some port) : r.effectivePort = port := by
    rw [Http.Request.effectivePort, hport, h]
  have hscheme (h : port? authority = none) : r.effectivePort = r.uri.schemePort := by
    rw [Http.Request.effectivePort, hport, h]
    rfl
  have hfound : r.uri.host? = some (Http.Authority.host authority) := by
    rw [Http.Uri.host?, hauthority]
    rfl
  refine ⟨_, ofRequest_eq_ok_iff.mpr ⟨_, hfound, hhost, rfl⟩, ?_, ?_⟩
  · intro hempty
    refine hscheme ?_
    rw [hscanned.port?_eq]
    cases htext : portText? authority with
    | none => rfl
    | some text =>
        rw [htext, Option.getD_some] at hempty
        rw [hempty]
        rfl
  · intro text htext
    refine ⟨fun port hdenotes => hnamed (hscanned.port?_of_denotes htext hdenotes), ?_⟩
    intro hnone
    obtain habsent | ⟨hclosing, before, tail, port, hsplit, hdenotes, hread⟩ :=
      hscanned.port?_of_not_denotes htext hnone
    · exact Or.inl (hscheme habsent)
    · exact Or.inr ⟨hclosing, before, tail, hsplit, (hnamed hread).symm ▸ hdenotes⟩

/-- A request with colons all over its authority. -/
def literal : Http.Request := ⟨"GET", ⟨some "https", some "u:1@[::1]:08443", "/p", none⟩, []⟩

theorem port_signed_literal : Http.Authority.host "u:1@[::1]:08443" = "[::1]" ∧
    portText? "u:1@[::1]:08443" = some "08443" ∧ Denotes "08443" 8443 ∧
    ∃ canonical, ofRequest literal = .ok canonical ∧ canonical.port = 8443 := by
  have hread : literal.IsRead :=
    ⟨⟨Utf8.encode "GET", by decide +kernel⟩,
      ⟨Utf8.encode "https://u:1@[::1]:08443/p", by decide +kernel⟩⟩
  have hhost : Http.Authority.host "u:1@[::1]:08443" = "[::1]" := by decide +kernel
  have htext : portText? "u:1@[::1]:08443" = some "08443" := by decide +kernel
  have hdenotes : Denotes "08443" 8443 :=
    ⟨"08443".toList, Or.inl rfl, by decide, by decide, by decide⟩
  obtain ⟨canonical, hcanonical, -, hport⟩ := port_signed hread rfl (hhost ▸ by decide)
  exact ⟨hhost, htext, hdenotes, canonical, hcanonical, (hport _ htext).1 _ hdenotes⟩

/-- A request that names a port beyond the last one. -/
def beyond : Http.Request := ⟨"GET", ⟨some "http", some "example.com:65536", "/", none⟩, []⟩

/-- It is signed for the port of its scheme. -/
theorem port_signed_beyond :
    Http.Request.build (Utf8.encode "GET") (Utf8.encode "http://example.com:65536/") [] =
        .ok beyond ∧
      Http.Authority.host "example.com:65536" = "example.com" ∧
      portText? "example.com:65536" = some "65536" ∧ (∀ port, ¬ Denotes "65536" port) ∧
      ofRequest beyond = .ok ⟨"GET", "http", "example.com", 80, "/"⟩ := by
  refine ⟨by decide +kernel, by decide +kernel, by decide +kernel, ?_, by decide +kernel⟩
  intro port hdenotes
  have hread := portNumber?_eq_some_iff.mpr hdenotes
  have hnone : portNumber? "65536".toList = none := by decide
  rw [hnone] at hread
  cases hread

end CanonicalRequest

end MacAccess
