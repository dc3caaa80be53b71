import MacAccess.Proofs.Authorization

/-!
# The grammar of header values

A header value is the scheme and four fields in their order, each between quotes, with decimal
digits for the timestamp. Reading accepts these texts and no others, whatever the fields hold. What
carries this is that quotes are not escaped: a text that can be read has eight of them, so one quote
more in a field makes a printed authorization unreadable instead of moving the fields.
-/

namespace MacAccess.Authorization

/-! ## Spellings -/

/-- The four fields of a header value, as they are spelt. -/
@[ext]
structure Spelling where
  id : String
  ts : String
  nonce : String
  mac : String

namespace Spelling

/-- The header value with these fields. -/
def text (s : Spelling) : String :=
  "MAC id=\"" ++ s.id ++ "\", ts=\"" ++ s.ts ++ "\", nonce=\"" ++ s.nonce ++ "\", mac=\"" ++
    s.mac ++ "\""

/-- The number that the timestamp is spelt as. -/
def seconds (s : Spelling) : Nat := Nat.ofDigitChars 10 s.ts.toList 0

/-- Whether the fields are spelt as those of a header value must be. -/
structure IsLegal (s : Spelling) : Prop where
  id : '"' ∉ s.id.toList
  nonempty : s.ts ≠ ""
  digits : ∀ c ∈ s.ts.toList, c.isDigit = true
  -- `2 ^ 63 - 1`, the largest timestamp
  range : s.seconds ≤ 9223372036854775807
  nonce : '"' ∉ s.nonce.toList
  mac : '"' ∉ s.mac.toList

/-- The authorization that is spelt. -/
def meaning (s : Spelling) : Authorization := ⟨s.id, Int64.ofNat s.seconds, s.nonce, s.mac⟩

end Spelling

/-- Digits without the zeros in front that can be left out. -/
def withoutSpareZeros : List Char → List Char
  | '0' :: c :: digits => withoutSpareZeros (c :: digits)
  | digits => digits

/-- The spelling without spare zeros in the timestamp. -/
def Spelling.trimmed (s : Spelling) : Spelling :=
  { s with ts := String.ofList (withoutSpareZeros s.ts.toList) }

namespace Spelling

theorem text_eq_layout (s : Spelling) : s.text = layout s.id s.ts s.nonce s.mac := by
  apply String.toList_inj.mp
  simp [text, layout, field, scheme]

variable {s s' : Spelling}

theorem IsLegal.quote_notMem_ts (h : s.IsLegal) : '"' ∉ s.ts.toList := by
  intro hmem
  exact absurd (h.digits _ hmem) (by decide)

/-- Legal fields are read as they are spelt, -/
theorem IsLegal.readFields_text (h : s.IsLegal) :
    readFields s.text = .ok (s.id.toList, s.ts.toList, s.nonce.toList, s.mac.toList) := by
  rw [text_eq_layout]
  exact readFields_layout h.id h.quote_notMem_ts h.nonce h.mac

/-- so their header value tells them. -/
theorem IsLegal.eq_of_text_eq (h : s.IsLegal) (h' : s'.IsLegal) (heq : s.text = s'.text) :
    s = s' := by
  have hfields := h.readFields_text
  rw [heq, h'.readFields_text] at hfields
  obtain ⟨hid, hts, hnonce, hmac⟩ : s'.id = s.id ∧ s'.ts = s.ts ∧ s'.nonce = s.nonce ∧
      s'.mac = s.mac := by
    simpa [String.toList_inj] using Except.ok.inj hfields
  exact Spelling.ext hid.symm hts.symm hnonce.symm hmac.symm

theorem IsLegal.readTimestamp_ts (h : s.IsLegal) :
    readTimestamp s.ts.toList = .ok s.meaning.timestamp := by
  have hne : s.ts.toList ≠ [] := by simpa using h.nonempty
  exact readTimestamp_eq_ok_iff.mpr ⟨hne, List.all_eq_true.mpr h.digits, h.range, rfl⟩

theorem IsLegal.toInt_timestamp (h : s.IsLegal) : s.meaning.timestamp.toInt = s.seconds :=
  toInt_ofNat_of_le h.range

/-- **A legal spelling is read as what it means**, -/
theorem IsLegal.parse_text (h : s.IsLegal) : parse s.text = .ok s.meaning := by
  rw [text_eq_layout]
  exact parse_layout h.readTimestamp_ts h.quote_notMem_ts h.id h.nonce h.mac

/-- and nothing but legal spellings is read. -/
theorem exists_of_parse {text : String} {a : Authorization} (h : parse text = .ok a) :
    ∃ s : Spelling, s.IsLegal ∧ s.text = text := by
  obtain ⟨id, ts, nonce, mac, hfields, hts, -⟩ := parse_eq_ok h
  obtain ⟨⟨hid, -, hnonce, hmac⟩, rfl⟩ := readFields_eq_ok hfields
  obtain ⟨hne, hdigits, hrange, -⟩ := readTimestamp_eq_ok_iff.mp hts
  refine ⟨⟨String.ofList id, String.ofList ts, String.ofList nonce, String.ofList mac⟩, ?_,
    text_eq_layout _⟩
  exact {
    id := by simpa using hid
    nonempty := by simpa using hne
    digits := by simpa using hdigits
    range := by rwa [seconds, String.toList_ofList]
    nonce := by simpa using hnonce
    mac := by simpa using hmac }

end Spelling

/-! ## Spare zeros -/

/-- Zeros that are left out do not change the number. -/
theorem toDigits_eq_withoutSpareZeros (digits : List Char) (hne : digits ≠ [])
    (h : digits.all Char.isDigit = true) :
    Nat.toDigits 10 (Nat.ofDigitChars 10 digits 0) = withoutSpareZeros digits := by
  fun_induction withoutSpareZeros digits with
  | case1 c digits ih =>
      rw [List.all_cons, Bool.and_eq_true] at h
      rw [Nat.ofDigitChars_cons]
      exact ih (List.cons_ne_nil _ _) h.2
  | case2 digits hother =>
      refine (toDigits_ofDigitChars_eq_iff hne h).mpr ?_
      intro hzero
      cases digits with
      | nil => exact absurd rfl hne
      | cons c rest =>
          obtain rfl : c = '0' := Option.some.inj hzero
          cases rest with
          | nil => rfl
          | cons d rest => exact absurd rfl (hother d rest)

/-- What was read is printed as it was spelt, but for spare zeros. -/
theorem Spelling.IsLegal.render_meaning {s : Spelling} (h : s.IsLegal) :
    s.meaning.render = s.trimmed.text := by
  have hne : s.ts.toList ≠ [] := by simpa using h.nonempty
  obtain ⟨-, hdigits, hnonneg, hvalue⟩ := readTimestamp_eq_ok h.readTimestamp_ts
  have hts : toString s.meaning.timestamp.toInt = s.trimmed.ts := by
    apply String.toList_inj.mp
    rw [toList_toString_of_nonneg hnonneg, hvalue, toDigits_eq_withoutSpareZeros _ hne hdigits,
      trimmed, String.toList_ofList]
  rw [render_eq_layout, hts, Spelling.text_eq_layout]
  rfl

/-- **Reading accepts exactly the grammar.** A text is read if and only if it is the header value of
a legal spelling. There is one such spelling at most, the text is read as what it means, and
printing that gives the text without spare zeros. All other texts are refused as an invalid
request. -/
theorem read_accepts_grammar (text : String) :
    ((∃ a, read text = .ok a) ↔ ∃ s : Spelling, s.IsLegal ∧ s.text = text) ∧
    (∀ s s' : Spelling, s.IsLegal → s'.IsLegal → s.text = text → s'.text = text → s = s') ∧
    (∀ s : Spelling, s.IsLegal → s.text = text →
      ∃ t : Timestamp, t.toInt = s.seconds ∧
        read text = .ok ⟨s.id, t, s.nonce, s.mac⟩ ∧
        render ⟨s.id, t, s.nonce, s.mac⟩ = s.trimmed.text) ∧
    ((∀ s : Spelling, s.IsLegal → s.text ≠ text) →
      ∃ f, read text = .error f ∧ f.kind = .requestInvalid) := by
  have hread : ∀ s : Spelling, s.IsLegal → s.text = text → read text = .ok s.meaning := by
    rintro s hlegal rfl
    exact read_eq_ok_iff.mpr hlegal.parse_text
  have hspelt : ∀ a, read text = .ok a → ∃ s : Spelling, s.IsLegal ∧ s.text = text :=
    fun a ha => Spelling.exists_of_parse (read_eq_ok_iff.mp ha)
  refine ⟨⟨fun ⟨a, ha⟩ => hspelt a ha, fun ⟨s, hlegal, htext⟩ => ⟨_, hread s hlegal htext⟩⟩,
    ?_, ?_, ?_⟩
  · intro s s' hlegal hlegal' htext htext'
    exact hlegal.eq_of_text_eq hlegal' (htext.trans htext'.symm)
  · intro s hlegal htext
    exact ⟨s.meaning.timestamp, hlegal.toInt_timestamp, hread s hlegal htext,
      hlegal.render_meaning⟩
  · intro hother
    cases hresult : read text with
    | error f => exact ⟨f, rfl, kind_of_read_eq_error hresult⟩
    | ok a =>
        obtain ⟨s, hlegal, htext⟩ := hspelt a hresult
        exact absurd htext (hother s hlegal)

/-! ## Counting quotes -/

theorem count_quote_layout (id ts nonce mac : String) :
    (layout id ts nonce mac).toList.count '"' =
      8 + id.toList.count '"' + ts.toList.count '"' + nonce.toList.count '"' +
        mac.toList.count '"' := by
  simp [layout, field, scheme]
  omega

/-- **A layout can be read only if no field of it holds a quote**, whatever else the fields are made
to look like. -/
theorem quote_notMem_of_readFields_layout {id ts nonce mac : String}
    {fields : List Char × List Char × List Char × List Char}
    (h : readFields (layout id ts nonce mac) = .ok fields) :
    '"' ∉ id.toList ∧ '"' ∉ ts.toList ∧ '"' ∉ nonce.toList ∧ '"' ∉ mac.toList := by
  obtain ⟨id', ts', nonce', mac'⟩ := fields
  obtain ⟨⟨hid, hts, hnonce, hmac⟩, hlayout⟩ := readFields_eq_ok h
  have hcount := congrArg (fun text => text.toList.count '"') hlayout
  simp only [count_quote_layout, String.toList_ofList, List.count_eq_zero_of_not_mem hid,
    List.count_eq_zero_of_not_mem hts, List.count_eq_zero_of_not_mem hnonce,
    List.count_eq_zero_of_not_mem hmac] at hcount
  refine ⟨?_, ?_, ?_, ?_⟩ <;> rw [← List.count_eq_zero] <;> omega

/-- Whether an authorization can be told from its header value. -/
structure IsSpellable (a : Authorization) : Prop where
  timestamp : 0 ≤ a.timestamp
  id : '"' ∉ a.id.toList
  nonce : '"' ∉ a.nonce.toList
  mac : '"' ∉ a.mac.toList

/-- A sign is no digit. -/
theorem nonneg_of_readTimestamp_toString {t t' : Timestamp}
    (h : readTimestamp (toString t.toInt).toList = .ok t') : 0 ≤ t := by
  by_contra hneg
  have hint : ¬ 0 ≤ t.toInt := fun hle => hneg (Int64.le_iff_toInt_le.mpr hle)
  have hsign : '-' ∈ (toString t.toInt).toList := by
    rw [Int.toString_eq_repr, Int.repr_eq_if, if_neg hint, String.toList_append]
    exact List.mem_append_left _ List.mem_cons_self
  obtain ⟨-, hdigits, -⟩ := readTimestamp_eq_ok h
  exact absurd (List.all_eq_true.mp hdigits _ hsign) (by decide)

/-- **A printed authorization is read as itself or not at all.** -/
theorem parse_render_eq_ok {a b : Authorization} (h : parse a.render = .ok b) :
    a.IsSpellable ∧ b = a := by
  obtain ⟨id, ts, nonce, mac, hfields, hts, -⟩ := parse_eq_ok h
  rw [render_eq_layout] at hfields
  obtain ⟨hid, hquote, hnonce, hmac⟩ := quote_notMem_of_readFields_layout hfields
  rw [readFields_layout hid hquote hnonce hmac] at hfields
  obtain ⟨-, rfl, -, -⟩ : _ ∧ (toString a.timestamp.toInt).toList = ts ∧ _ ∧ _ := by
    simpa using Except.ok.inj hfields
  have hnonneg := nonneg_of_readTimestamp_toString hts
  refine ⟨⟨hnonneg, hid, hnonce, hmac⟩, ?_⟩
  exact Except.ok.inj (h.symm.trans (parse_render hnonneg hid hnonce hmac))

/-- **Printing and reading never misreads.** A printed authorization is read as it was if its
timestamp is not negative and no field of it holds a quote, and is refused as an invalid request
otherwise. It is never read as another one. -/
theorem read_render_faithful (a : Authorization) :
    (a.IsSpellable → read a.render = .ok a) ∧
    (¬ a.IsSpellable → ∃ f, read a.render = .error f ∧ f.kind = .requestInvalid) ∧
    ∀ b, read a.render = .ok b → b = a := by
  refine ⟨?_, ?_, ?_⟩
  · intro h
    exact read_eq_ok_iff.mpr (parse_render h.timestamp h.id h.nonce h.mac)
  · intro h
    cases hresult : read a.render with
    | error f => exact ⟨f, rfl, kind_of_read_eq_error hresult⟩
    | ok b => exact absurd (parse_render_eq_ok (read_eq_ok_iff.mp hresult)).1 h
  · intro b hresult
    exact (parse_render_eq_ok (read_eq_ok_iff.mp hresult)).2

/-- An identity that imitates the field after it does not get past the one that follows. -/
example : parse (render ⟨"a\", ts=\"5", 7, "n", "m"⟩) = .error (.missingField "nonce") := rfl

end MacAccess.Authorization
