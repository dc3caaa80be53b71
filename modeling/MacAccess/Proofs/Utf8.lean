import MacAccess.CanonicalRequest
import MacAccess.Proofs.Basic

/-!
# Text and its octets

`encode` tells texts apart, and strict decoding is its exact inverse: the text that octets decode to
has these octets again. So what a text holds can be read off its octets and the other way round; in
particular a text is quotable exactly if each of its characters is.
-/

namespace MacAccess

namespace Utf8

theorem encode_injective : Function.Injective encode := by
  intro s t h
  apply String.toByteArray_inj.mp
  rw [← s.utf8Encode_toList, ← t.utf8Encode_toList]
  exact congrArg List.toByteArray h

/-! ## ASCII texts -/

theorem utf8EncodeChar_of_ascii {c : Char} (h : c.toNat < 0x80) :
    String.utf8EncodeChar c = [UInt8.ofNat c.toNat] := by
  have hc : c.val.toNat ≤ 0x7F := Nat.le_of_lt_succ h
  simp only [String.utf8EncodeChar, if_pos hc]
  rfl

/-- The last octet of a character outside ASCII is outside ASCII. -/
theorem last_mem_utf8EncodeChar {c : Char} (h : ¬ c.toNat < 0x80) :
    UInt8.ofNat (c.val.toNat % 64 + 128) ∈ String.utf8EncodeChar c := by
  have hc : ¬ c.val.toNat ≤ 0x7F := fun hle => h (Nat.lt_succ_of_le hle)
  simp only [String.utf8EncodeChar, if_neg hc]
  split
  · simp
  · split <;> simp

theorem all_utf8EncodeChar {p : UInt8 → Bool} (hp : ∀ b, p b = true → b < 0x80) (c : Char) :
    (String.utf8EncodeChar c).all p = true ↔
      c.toNat < 0x80 ∧ p (UInt8.ofNat c.toNat) = true := by
  by_cases h : c.toNat < 0x80
  · simp [utf8EncodeChar_of_ascii h, h]
  · constructor
    · intro hall
      have hlast := hp _ (List.all_eq_true.mp hall _ (last_mem_utf8EncodeChar h))
      rw [UInt8.lt_iff_toNat_lt, UInt8.toNat_ofNat'] at hlast
      have h80 : (0x80 : UInt8).toNat = 128 := rfl
      omega
    · intro hc
      exact absurd hc.1 h

/-- **ASCII classes, by character.** A test that only ASCII octets pass holds of all octets of a
text exactly if the text is ASCII and its characters pass. -/
theorem all_encode {p : UInt8 → Bool} (hp : ∀ b, p b = true → b < 0x80) (s : String) :
    (encode s).all p = true ↔
      ∀ c ∈ s.toList, c.toNat < 0x80 ∧ p (UInt8.ofNat c.toNat) = true := by
  rw [encode, List.all_flatMap, List.all_eq_true]
  exact forall₂_congr fun c _ => all_utf8EncodeChar hp c

/-- An ASCII text is read back from its octets. -/
theorem asciiText_encode {s : String} (h : ∀ c ∈ s.toList, c.toNat < 0x80) :
    Octet.asciiText (encode s) = s := by
  have hchars : ∀ cs : List Char, (∀ c ∈ cs, c.toNat < 0x80) →
      (cs.flatMap String.utf8EncodeChar).map Octet.toChar = cs := by
    intro cs hcs
    induction cs with
    | nil => rfl
    | cons c cs ih =>
        have hc := hcs c List.mem_cons_self
        rw [List.flatMap_cons, utf8EncodeChar_of_ascii hc, List.map_append,
          ih fun x hx => hcs x (List.mem_cons_of_mem _ hx), List.map_singleton, toChar_ofNat hc]
        rfl
  rw [Octet.asciiText, encode, hchars s.toList h, String.ofList_toList]

theorem utf8EncodeChar_toChar {a : UInt8} (ha : a < 0x80) :
    String.utf8EncodeChar (Octet.toChar a) = [a] := by
  have hbound : a.toNat < 0x80 := UInt8.lt_iff_toNat_lt.mp ha
  have hvalid : a.toNat.isValidChar := Or.inl (by omega)
  have hval : (Octet.toChar a).val.toNat = a.toNat := val_ofNat hvalid
  simp only [String.utf8EncodeChar, hval]
  rw [if_pos (by omega), ofNat_eq_of_toNat rfl]

/-- ASCII octets are those of the text that they spell. -/
theorem encode_asciiText {octets : Bytes} (h : ∀ b ∈ octets, b < 0x80) :
    encode (Octet.asciiText octets) = octets := by
  rw [encode, Octet.asciiText, String.toList_ofList]
  induction octets with
  | nil => rfl
  | cons b octets ih =>
      rw [List.map_cons, List.flatMap_cons, utf8EncodeChar_toChar (h b List.mem_cons_self),
        ih fun x hx => h x (List.mem_cons_of_mem _ hx)]
      rfl

/-! ## Strict decoding -/

/-- The bounds on the first two octets of a character that has more than one. -/
theorem follows_bounds {a b : UInt8} (h : follows a b = true) :
    0xC2 ≤ a.toNat ∧ a.toNat ≤ 0xF4 ∧ 0x80 ≤ b.toNat ∧ b.toNat ≤ 0xBF ∧
      (a.toNat = 0xE0 → 0xA0 ≤ b.toNat) ∧ (a.toNat = 0xED → b.toNat ≤ 0x9F) ∧
      (a.toNat = 0xF0 → 0x90 ≤ b.toNat) ∧ (a.toNat = 0xF4 → b.toNat ≤ 0x8F) := by
  simp only [follows, isTail, Bool.and_eq_true, decide_eq_true_eq, beq_iff_eq,
    UInt8.le_iff_toNat_le, ← UInt8.toNat_inj, UInt8.reduceToNat] at h
  split_ifs at h <;> simp only [Bool.and_eq_true, decide_eq_true_eq] at h <;> omega

theorem isTail_bounds {b : UInt8} (h : isTail b = true) : 0x80 ≤ b.toNat ∧ b.toNat ≤ 0xBF := by
  simpa [isTail, UInt8.le_iff_toNat_le] using h

theorem utf8EncodeChar_scalar2 {a b : UInt8} (hab : follows a b = true) (ha : a < 0xE0) :
    String.utf8EncodeChar (scalar2 a b) = [a, b] := by
  have hbounds := follows_bounds hab
  have hlead : a.toNat < 0xE0 := UInt8.lt_iff_toNat_lt.mp ha
  have hvalid : (a.toNat % 32 * 64 + b.toNat % 64).isValidChar := Or.inl (by omega)
  have hval : (scalar2 a b).val.toNat = a.toNat % 32 * 64 + b.toNat % 64 := val_ofNat hvalid
  simp only [String.utf8EncodeChar, hval]
  rw [if_neg (by omega), if_pos (by omega), ofNat_eq_of_toNat (b := a) (by omega),
    ofNat_eq_of_toNat (b := b) (by omega)]

theorem utf8EncodeChar_scalar3 {a b c : UInt8} (hab : follows a b = true) (hc : isTail c = true)
    (ha : ¬ a < 0xE0) (ha' : a < 0xF0) :
    String.utf8EncodeChar (scalar3 a b c) = [a, b, c] := by
  have hbounds := follows_bounds hab
  have htail := isTail_bounds hc
  have hlow : ¬ a.toNat < 0xE0 := fun h => ha (UInt8.lt_iff_toNat_lt.mpr h)
  have hhigh : a.toNat < 0xF0 := UInt8.lt_iff_toNat_lt.mp ha'
  have hvalid : ((a.toNat % 16 * 64 + b.toNat % 64) * 64 + c.toNat % 64).isValidChar := by
    -- after a lead of `0xED` the bound on `b` keeps the surrogates out
    by_cases hED : a.toNat ≤ 0xED
    · exact Or.inl (by omega)
    · exact Or.inr (by omega)
  have hval : (scalar3 a b c).val.toNat =
      (a.toNat % 16 * 64 + b.toNat % 64) * 64 + c.toNat % 64 := val_ofNat hvalid
  simp only [String.utf8EncodeChar, hval]
  rw [if_neg (by omega), if_neg (by omega), if_pos (by omega),
    ofNat_eq_of_toNat (b := a) (by omega), ofNat_eq_of_toNat (b := b) (by omega),
    ofNat_eq_of_toNat (b := c) (by omega)]

theorem utf8EncodeChar_scalar4 {a b c d : UInt8} (hab : follows a b = true)
    (hc : isTail c = true) (hd : isTail d = true) (ha : ¬ a < 0xF0) :
    String.utf8EncodeChar (scalar4 a b c d) = [a, b, c, d] := by
  have hbounds := follows_bounds hab
  have htail := isTail_bounds hc
  have htail' := isTail_bounds hd
  have hlow : ¬ a.toNat < 0xF0 := fun h => ha (UInt8.lt_iff_toNat_lt.mpr h)
  have hvalid : (((a.toNat % 8 * 64 + b.toNat % 64) * 64 + c.toNat % 64) * 64 +
      d.toNat % 64).isValidChar := Or.inr (by omega)
  have hval : (scalar4 a b c d).val.toNat =
      ((a.toNat % 8 * 64 + b.toNat % 64) * 64 + c.toNat % 64) * 64 + d.toNat % 64 :=
    val_ofNat hvalid
  simp only [String.utf8EncodeChar, hval]
  rw [if_neg (by omega), if_neg (by omega), if_neg (by omega),
    ofNat_eq_of_toNat (b := a) (by omega), ofNat_eq_of_toNat (b := b) (by omega),
    ofNat_eq_of_toNat (b := c) (by omega), ofNat_eq_of_toNat (b := d) (by omega)]

theorem mapM_char?_scalar {c : Char} {ps : List Piece} {cs : List Char}
    (h : (Piece.scalar c :: ps).mapM Piece.char? = some cs) :
    ∃ cs', ps.mapM Piece.char? = some cs' ∧ cs = c :: cs' := by
  rw [List.mapM_cons] at h
  have hrest : ((ps.mapM Piece.char?).bind fun cs' => some (c :: cs')) = some cs := h
  obtain ⟨cs', hcs', hcons⟩ := Option.bind_eq_some_iff.mp hrest
  exact ⟨cs', hcs', (Option.some.inj hcons).symm⟩

theorem mapM_char?_malformed {octets : Bytes} {ps : List Piece} {cs : List Char} :
    (Piece.malformed octets :: ps).mapM Piece.char? ≠ some cs := by
  rw [List.mapM_cons]
  exact nofun

/-- The characters of pieces none of which is malformed have the octets of the input. -/
theorem encode_pieces (bs : Bytes) : ∀ cs : List Char,
    (pieces bs).mapM Piece.char? = some cs → cs.flatMap String.utf8EncodeChar = bs := by
  fun_induction pieces bs with
  | case1 =>
      intro cs h
      rw [← Option.some.inj h]
      rfl
  | case2 a rest ha ih =>
      intro cs h
      obtain ⟨cs', hcs', rfl⟩ := mapM_char?_scalar h
      rw [List.flatMap_cons, ih cs' hcs', utf8EncodeChar_toChar ha]
      rfl
  | case5 a _ b rest hab ha ih =>
      intro cs h
      obtain ⟨cs', hcs', rfl⟩ := mapM_char?_scalar h
      rw [List.flatMap_cons, ih cs' hcs', utf8EncodeChar_scalar2 (by simpa using hab) ha]
      rfl
  | case8 a _ b hab ha c rest hc ha' ih =>
      intro cs h
      obtain ⟨cs', hcs', rfl⟩ := mapM_char?_scalar h
      rw [List.flatMap_cons, ih cs' hcs',
        utf8EncodeChar_scalar3 (by simpa using hab) (by simpa using hc) ha ha']
      rfl
  | case11 a _ b hab ha c hc ha' d rest hd ih =>
      intro cs h
      obtain ⟨cs', hcs', rfl⟩ := mapM_char?_scalar h
      rw [List.flatMap_cons, ih cs' hcs', utf8EncodeChar_scalar4 (by simpa using hab)
        (by simpa using hc) (by simpa using hd) ha']
      rfl
  | case3 | case4 | case6 | case7 | case9 | case10 =>
      intro cs h
      exact absurd h mapM_char?_malformed

/-- **Strict decoding is the inverse of encoding.** -/
theorem encode_of_decode? {bs : Bytes} {s : String} (h : decode? bs = some s) : encode s = bs := by
  obtain ⟨cs, hcs, rfl⟩ := Option.map_eq_some_iff.mp h
  rw [encode, String.toList_ofList, encode_pieces bs cs hcs]

end Utf8

end MacAccess
