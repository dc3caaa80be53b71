import Mathlib.Data.List.Basic
import MacAccess.Authorization
import MacAccess.Proofs.Request
import MacAccess.Proofs.Separator

/-!
# Printing and reading authorizations

Reading finds in a header value the four fields that were laid out in it, as long as none of them
holds a quote. A timestamp that is not negative comes back from its decimal digits, so a printed
authorization is read back as it was.

The other way round, a header value that can be read is laid out as its fields are spelt. Printing
what was read gives the same text but for the timestamp, which may have been spelt with zeros that
a printed one does not have.
-/

namespace MacAccess.Authorization

/-! ## Fields -/

/-- A header value with four fields as they are spelt. -/
def layout (id ts nonce mac : String) : String :=
  scheme ++ " " ++ field "id" id ++ ", " ++ field "ts" ts ++ ", " ++ field "nonce" nonce ++ ", " ++
    field "mac" mac

theorem render_eq_layout (a : Authorization) :
    a.render = layout a.id (toString a.timestamp.toInt) a.nonce a.mac := rfl

theorem after?_append (text : String) (rest : List Char) :
    after? text (text.toList ++ rest) = some rest := by
  have hprefix : text.toList.isPrefixOf (text.toList ++ rest) = true :=
    List.isPrefixOf_iff_prefix.mpr (List.prefix_append _ _)
  rw [after?, if_pos hprefix, ← String.length_toList, List.drop_left]

theorem readField_field (name : String) {value : String} (h : '"' ∉ value.toList)
    (rest : List Char) :
    readField name ((field name value).toList ++ rest) = .ok (value.toList, rest) := by
  have hsplit : (field name value).toList ++ rest =
      (name ++ "=\"").toList ++ (value.toList ++ '"' :: rest) := by
    simp [field]
  rw [readField, hsplit, after?_append]
  simp only [Separator.dropWhile_part h, Separator.takeWhile_part h]

theorem readNextField_field (name : String) {value : String} (h : '"' ∉ value.toList)
    (rest : List Char) :
    readNextField name (", ".toList ++ ((field name value).toList ++ rest)) =
      .ok (value.toList, rest) := by
  rw [readNextField, after?_append]
  exact readField_field name h rest

/-- **Fields without a quote are read as they are spelt.** -/
theorem readFields_layout {id ts nonce mac : String} (hid : '"' ∉ id.toList)
    (hts : '"' ∉ ts.toList) (hnonce : '"' ∉ nonce.toList) (hmac : '"' ∉ mac.toList) :
    readFields (layout id ts nonce mac) =
      .ok (id.toList, ts.toList, nonce.toList, mac.toList) := by
  have hlist : (layout id ts nonce mac).toList =
      (scheme ++ " ").toList ++ ((field "id" id).toList ++
        (", ".toList ++ ((field "ts" ts).toList ++
          (", ".toList ++ ((field "nonce" nonce).toList ++
            (", ".toList ++ ((field "mac" mac).toList ++ []))))))) := by
    simp [layout]
  rw [readFields, hlist, after?_append]
  simp only [readField_field "id" hid, readNextField_field "ts" hts,
    readNextField_field "nonce" hnonce, readNextField_field "mac" hmac, bind, Except.bind]
  rfl

/-! ## Timestamps -/

theorem toList_toString_of_nonneg {t : Timestamp} (h : 0 ≤ t) :
    (toString t.toInt).toList = Nat.toDigits 10 t.toInt.toNat := by
  have hint : 0 ≤ t.toInt := by simpa using Int64.le_iff_toInt_le.mp h
  rw [Int.toString_eq_repr, Int.repr_eq_if, if_pos hint, Nat.toList_repr]

theorem readTimestamp_toString {t : Timestamp} (h : 0 ≤ t) :
    readTimestamp (toString t.toInt).toList = .ok t := by
  have hint : 0 ≤ t.toInt := by simpa using Int64.le_iff_toInt_le.mp h
  have hlast : t.toInt.toNat ≤ lastTimestamp := by
    have := t.toInt_lt
    simp only [lastTimestamp]
    omega
  have hdigits : (Nat.toDigits 10 t.toInt.toNat).all Char.isDigit = true :=
    List.all_eq_true.mpr fun c hc => Nat.isDigit_of_mem_toDigits (by decide) (by decide) hc
  have hback : Int64.ofNat t.toInt.toNat = t := t.ofNat_toNatClampNeg h
  have hdecimal : ¬ (Nat.toDigits 10 t.toInt.toNat = [] ∨
      ¬ (Nat.toDigits 10 t.toInt.toNat).all Char.isDigit = true) := by
    rintro (hnil | hother)
    · exact Nat.toDigits_ne_nil hnil
    · exact hother hdigits
  rw [toList_toString_of_nonneg h, readTimestamp, if_neg hdecimal]
  simp only [Nat.ofDigitChars_ten_toDigits, if_pos hlast, hback]

theorem quote_notMem_toString {t : Timestamp} (h : 0 ≤ t) :
    '"' ∉ (toString t.toInt).toList := by
  rw [toList_toString_of_nonneg h]
  intro hmem
  exact absurd (Nat.isDigit_of_mem_toDigits (by decide) (by decide) hmem) (by decide)

/-- **A layout of fields without quotes is read**, if its digits spell a timestamp, -/
theorem parse_layout {id ts nonce mac : String} {t : Timestamp}
    (hts : readTimestamp ts.toList = .ok t) (hquote : '"' ∉ ts.toList) (hid : '"' ∉ id.toList)
    (hnonce : '"' ∉ nonce.toList) (hmac : '"' ∉ mac.toList) :
    parse (layout id ts nonce mac) = .ok ⟨id, t, nonce, mac⟩ := by
  rw [parse, readFields_layout hid hquote hnonce hmac]
  simp only [bind, Except.bind, hts, String.ofList_toList]
  rfl

/-- and so a printed authorization is read back. -/
theorem parse_render {a : Authorization} (hts : 0 ≤ a.timestamp) (hid : '"' ∉ a.id.toList)
    (hnonce : '"' ∉ a.nonce.toList) (hmac : '"' ∉ a.mac.toList) : parse a.render = .ok a := by
  rw [render_eq_layout]
  exact parse_layout (readTimestamp_toString hts) (quote_notMem_toString hts) hid hnonce hmac

/-! ## Header values -/

theorem isPrintable_toString {t : Timestamp} (h : 0 ≤ t) :
    Http.IsPrintable (toString t.toInt) := by
  intro c hc
  rw [toList_toString_of_nonneg h] at hc
  have hdigit := Nat.isDigit_of_mem_toDigits (by decide) (by decide) hc
  have hbounds := Char.isDigit_iff_toNat.mp hdigit
  exact ⟨Nat.le_trans (by decide) hbounds.1, Nat.le_trans hbounds.2 (by decide)⟩

theorem isPrintable_field {name value : String} (hname : Http.IsPrintable name)
    (hvalue : Http.IsPrintable value) : Http.IsPrintable (field name value) :=
  ((hname.append (by decide)).append hvalue).append (by decide)

/-- **A layout of printable fields is printable**, so it can stand in a header. -/
theorem isPrintable_layout {id ts nonce mac : String} (hid : Http.IsPrintable id)
    (hts : Http.IsPrintable ts) (hnonce : Http.IsPrintable nonce) (hmac : Http.IsPrintable mac) :
    Http.IsPrintable (layout id ts nonce mac) := by
  have hseparator : Http.IsPrintable ", " := by decide
  have hscheme : Http.IsPrintable (scheme ++ " ") := by decide
  have hidField : Http.IsPrintable (field "id" id) := isPrintable_field (by decide) hid
  have htsField : Http.IsPrintable (field "ts" ts) := isPrintable_field (by decide) hts
  have hnonceField : Http.IsPrintable (field "nonce" nonce) := isPrintable_field (by decide) hnonce
  have hmacField : Http.IsPrintable (field "mac" mac) := isPrintable_field (by decide) hmac
  exact ((((((hscheme.append hidField).append hseparator).append htsField).append
    hseparator).append hnonceField).append hseparator).append hmacField

theorem isPrintable_render {a : Authorization} (hts : 0 ≤ a.timestamp)
    (hid : Http.IsPrintable a.id) (hnonce : Http.IsPrintable a.nonce)
    (hmac : Http.IsPrintable a.mac) : Http.IsPrintable a.render := by
  rw [render_eq_layout]
  exact isPrintable_layout hid (isPrintable_toString hts) hnonce hmac

/-! ## What was read -/

theorem eq_append_of_after? {text : String} {cs rest : List Char} (h : after? text cs = some rest) :
    cs = text.toList ++ rest := by
  unfold after? at h
  split_ifs at h with hprefix
  obtain ⟨tail, rfl⟩ := List.isPrefixOf_iff_prefix.mp hprefix
  rw [← String.length_toList, List.drop_left] at h
  rw [Option.some.inj h]

/-- A field that was read holds no quote, and stands there as a field with its value does. -/
theorem eq_append_of_readField {name : String} {cs value rest : List Char}
    (h : readField name cs = .ok (value, rest)) :
    '"' ∉ value ∧ cs = (field name (String.ofList value)).toList ++ rest := by
  unfold readField at h
  split at h
  · exact nomatch h
  · next quoted hafter =>
    split at h
    · exact nomatch h
    · next closing tail hdrop =>
      obtain ⟨rfl, rfl⟩ := Prod.mk.inj (Except.ok.inj h)
      refine ⟨Separator.notMem_takeWhile '"' quoted, ?_⟩
      calc cs = (name ++ "=\"").toList ++ quoted := eq_append_of_after? hafter
        _ = (name ++ "=\"").toList ++ (quoted.takeWhile (· != '"') ++ '"' :: tail) :=
            congrArg _ (Separator.eq_append_of_dropWhile hdrop)
        _ = (field name (String.ofList (quoted.takeWhile (· != '"')))).toList ++ tail := by
            simp [field]

theorem eq_append_of_readNextField {name : String} {cs value rest : List Char}
    (h : readNextField name cs = .ok (value, rest)) :
    '"' ∉ value ∧ cs = ", ".toList ++ ((field name (String.ofList value)).toList ++ rest) := by
  unfold readNextField at h
  split at h
  · exact nomatch h
  · next following hafter =>
    obtain ⟨hquote, hfield⟩ := eq_append_of_readField h
    refine ⟨hquote, ?_⟩
    rw [eq_append_of_after? hafter, hfield]

/-- **A header value that was read is laid out as its fields are spelt**, and these hold no
quote. -/
theorem readFields_eq_ok {text : String} {id ts nonce mac : List Char}
    (h : readFields text = .ok (id, ts, nonce, mac)) :
    ('"' ∉ id ∧ '"' ∉ ts ∧ '"' ∉ nonce ∧ '"' ∉ mac) ∧
      text = layout (String.ofList id) (String.ofList ts) (String.ofList nonce)
        (String.ofList mac) := by
  unfold readFields at h
  split at h
  · next afterScheme hscheme =>
    obtain ⟨⟨id', cs⟩, hid, h⟩ := ok_of_bind h
    obtain ⟨⟨ts', cs'⟩, hts, h⟩ := ok_of_bind h
    obtain ⟨⟨nonce', cs''⟩, hnonce, h⟩ := ok_of_bind h
    obtain ⟨⟨mac', cs'''⟩, hmac, h⟩ := ok_of_bind h
    dsimp only at hts hnonce hmac h
    split at h
    · obtain ⟨rfl, rfl, rfl, rfl⟩ : id' = id ∧ ts' = ts ∧ nonce' = nonce ∧ mac' = mac := by
        simpa using Except.ok.inj h
      obtain ⟨hquoteId, hid⟩ := eq_append_of_readField hid
      obtain ⟨hquoteTs, hts⟩ := eq_append_of_readNextField hts
      obtain ⟨hquoteNonce, hnonce⟩ := eq_append_of_readNextField hnonce
      obtain ⟨hquoteMac, hmac⟩ := eq_append_of_readNextField hmac
      refine ⟨⟨hquoteId, hquoteTs, hquoteNonce, hquoteMac⟩, ?_⟩
      apply String.toList_inj.mp
      rw [eq_append_of_after? hscheme, hid, hts, hnonce, hmac]
      simp [layout]
    · exact nomatch h
  · exact nomatch h

/-- **An authorization that was read is the one that the header value spells**, field by field. -/
theorem parse_eq_ok {text : String} {a : Authorization} (h : parse text = .ok a) :
    ∃ id ts nonce mac, readFields text = .ok (id, ts, nonce, mac) ∧
      readTimestamp ts = .ok a.timestamp ∧ text = layout a.id (String.ofList ts) a.nonce a.mac := by
  obtain ⟨⟨id, ts, nonce, mac⟩, hfields, h⟩ := ok_of_bind h
  obtain ⟨t, ht, h⟩ := ok_of_bind h
  rw [← Except.ok.inj h]
  exact ⟨id, ts, nonce, mac, hfields, ht, (readFields_eq_ok hfields).2⟩

/-- An authorization that was read was parsed, -/
theorem read_eq_ok_iff {text : String} {a : Authorization} :
    read text = .ok a ↔ parse text = .ok a := by
  rw [read]
  cases parse text with
  | error flaw => exact ⟨nofun, nofun⟩
  | ok b => exact ⟨fun h => congrArg Except.ok (Except.ok.inj h), fun h => congrArg Except.ok
      (Except.ok.inj h)⟩

/-- and whatever the flaw of a header value is, it is the request that is reported. -/
theorem kind_of_read_eq_error {text : String} {f : Failure} (h : read text = .error f) :
    f.kind = .requestInvalid := by
  rw [read] at h
  cases hparse : parse text with
  | error flaw =>
      rw [hparse] at h
      rw [← Except.error.inj h]
      rfl
  | ok a =>
      rw [hparse] at h
      exact nomatch h

/-! ## Spare zeros -/

/-- Whether digits are written without a zero in front that could be left out. -/
def NoSpareZero (digits : List Char) : Prop := digits.head? = some '0' → digits = ['0']

instance (digits : List Char) : Decidable (NoSpareZero digits) :=
  inferInstanceAs (Decidable (digits.head? = some '0' → digits = ['0']))

theorem digitChar_of_isDigit {c : Char} (h : c.isDigit = true) :
    c.toNat - '0'.toNat < 10 ∧ Nat.digitChar (c.toNat - '0'.toNat) = c := by
  have hall : ∀ d < 10, Nat.digitChar d = Char.ofNat (d + '0'.toNat) := by decide
  obtain ⟨hlow, hhigh⟩ := Char.isDigit_iff_toNat.mp h
  have hlt : c.toNat - '0'.toNat < 10 := by
    have h9 : '9'.toNat = '0'.toNat + 9 := by decide
    omega
  rw [hall _ hlt, Nat.sub_add_cancel hlow, Char.ofNat_toNat]
  exact ⟨hlt, rfl⟩

/-- Digits after a number that is not zero are appended to its own. -/
theorem toDigits_ofDigitChars {digits : List Char} (h : digits.all Char.isDigit = true) {n : Nat}
    (hn : 0 < n) :
    Nat.toDigits 10 (Nat.ofDigitChars 10 digits n) = Nat.toDigits 10 n ++ digits := by
  induction digits generalizing n with
  | nil => simp
  | cons c digits ih =>
      rw [List.all_cons, Bool.and_eq_true] at h
      obtain ⟨hlt, hchar⟩ := digitChar_of_isDigit h.1
      rw [Nat.ofDigitChars_cons, ih h.2 (by omega),
        ← Nat.toDigits_append_toDigits (by decide) hn hlt, Nat.toDigits_of_lt_base hlt, hchar,
        List.append_assoc]
      rfl

theorem noSpareZero_toDigits (n : Nat) : NoSpareZero (Nat.toDigits 10 n) := by
  have hhead : ∀ n > 0, (Nat.toDigits 10 n).head? ≠ some '0' := by
    intro n
    induction n using Nat.strongRecOn with
    | ind n ih =>
        intro hn
        by_cases hlt : n < 10
        · have hdigit : ∀ d < 10, d > 0 → Nat.digitChar d ≠ '0' := by decide
          rw [Nat.toDigits_of_lt_base hlt, List.head?_cons]
          exact fun h => hdigit n hlt hn (Option.some.inj h)
        · rw [Nat.toDigits_of_base_le (by decide) (by omega),
            List.head?_append_of_ne_nil _ Nat.toDigits_ne_nil]
          exact ih (n / 10) (by omega) (by omega)
  intro hzero
  by_cases hn : n > 0
  · exact absurd hzero (hhead n hn)
  · rw [Nat.eq_zero_of_not_pos hn, Nat.toDigits_zero]

/-- **Digits are those of their number exactly if no zero could be left out.** -/
theorem toDigits_ofDigitChars_eq_iff {digits : List Char} (hne : digits ≠ [])
    (h : digits.all Char.isDigit = true) :
    Nat.toDigits 10 (Nat.ofDigitChars 10 digits 0) = digits ↔ NoSpareZero digits := by
  constructor
  · intro hown
    rw [← hown]
    exact noSpareZero_toDigits _
  · intro hspare
    cases digits with
    | nil => exact absurd rfl hne
    | cons c digits =>
        by_cases hc : c = '0'
        · rw [hspare (congrArg some hc)]
          decide
        · rw [List.all_cons, Bool.and_eq_true] at h
          obtain ⟨hlt, hchar⟩ := digitChar_of_isDigit h.1
          have hpos : 0 < c.toNat - '0'.toNat := by
            by_contra hzero
            rw [Nat.eq_zero_of_not_pos hzero] at hchar
            exact hc (hchar.symm.trans (by decide))
          rw [Nat.ofDigitChars_cons, Nat.mul_zero, Nat.zero_add, toDigits_ofDigitChars h.2 hpos,
            Nat.toDigits_of_lt_base hlt, hchar]
          rfl

/-- **Digits are read as a timestamp exactly if their number is in range.** -/
theorem readTimestamp_eq_ok_iff {digits : List Char} {t : Timestamp} :
    readTimestamp digits = .ok t ↔
      digits ≠ [] ∧ digits.all Char.isDigit = true ∧
        Nat.ofDigitChars 10 digits 0 ≤ lastTimestamp ∧
        t = Int64.ofNat (Nat.ofDigitChars 10 digits 0) := by
  unfold readTimestamp
  split_ifs with hdecimal
  · refine ⟨nofun, ?_⟩
    rintro ⟨hne, hdigits, -⟩
    rcases hdecimal with hnil | hother
    · exact absurd hnil hne
    · exact absurd hdigits hother
  · rw [not_or, not_not] at hdecimal
    dsimp only
    split_ifs with hrange
    · constructor
      · intro h
        exact ⟨hdecimal.1, hdecimal.2, hrange, (Except.ok.inj h).symm⟩
      · rintro ⟨-, -, -, rfl⟩
        rfl
    · exact ⟨nofun, fun h => absurd h.2.2.1 hrange⟩

theorem toInt_ofNat_of_le {n : Nat} (h : n ≤ lastTimestamp) : (Int64.ofNat n).toInt = n :=
  Int64.toInt_ofNat_of_lt (Nat.lt_succ_of_le h)

theorem readTimestamp_eq_ok {digits : List Char} {t : Timestamp}
    (h : readTimestamp digits = .ok t) :
    digits ≠ [] ∧ digits.all Char.isDigit = true ∧ 0 ≤ t ∧
      t.toInt.toNat = Nat.ofDigitChars 10 digits 0 := by
  obtain ⟨hne, hdigits, hrange, rfl⟩ := readTimestamp_eq_ok_iff.mp h
  have hint := toInt_ofNat_of_le hrange
  refine ⟨hne, hdigits, ?_, ?_⟩
  · rw [Int64.le_iff_toInt_le, hint]
    exact Int.natCast_nonneg _
  · rw [hint, Int.toNat_natCast]

/-- A timestamp that was read is printed as it was spelt, but for spare zeros. -/
theorem toString_eq_iff_noSpareZero {digits : List Char} {t : Timestamp}
    (h : readTimestamp digits = .ok t) :
    toString t.toInt = String.ofList digits ↔ NoSpareZero digits := by
  obtain ⟨hne, hdigits, ht, hvalue⟩ := readTimestamp_eq_ok h
  rw [← toDigits_ofDigitChars_eq_iff hne hdigits, ← hvalue, ← toList_toString_of_nonneg ht,
    ← String.toList_inj, String.toList_ofList]

theorem layout_inj_timestamp {id ts ts' nonce mac : String} :
    layout id ts nonce mac = layout id ts' nonce mac ↔ ts = ts' := by
  simp [layout, field, String.append_assoc]

end MacAccess.Authorization
