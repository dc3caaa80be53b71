import Mathlib.Tactic.Common
import MacAccess.Base64

/-!
# Base64, written and read

What is written is read back, group by group, and what is read is written as it stood, so an octet
sequence has one text. All that is written is visible ASCII without a quote, so a Base64 text can
stand in a quoted field and on a line.
-/

namespace MacAccess.Base64

/-! ## The alphabet -/

theorem value?_digit : ∀ n < 64, value? (digit n) = some n := by decide

theorem digit_ne_pad : ∀ n < 64, digit n ≠ '=' := by decide

theorem visible_digit : ∀ n < 64,
    0x21 ≤ (digit n).toNat ∧ (digit n).toNat ≤ 0x7E ∧ digit n ≠ '"' := by decide

/-- What is written is padding or a digit. -/
theorem mem_encodeChars {bs : Bytes} {x : Char} (hx : x ∈ encodeChars bs) :
    x = '=' ∨ ∃ n < 64, x = digit n := by
  fun_induction encodeChars bs with
  | case1 => exact absurd hx List.not_mem_nil
  | case2 a =>
      have ha := a.toNat_lt
      simp only [List.mem_cons, List.not_mem_nil, or_false] at hx
      rcases hx with rfl | rfl | rfl | rfl
      · exact Or.inr ⟨_, by omega, rfl⟩
      · exact Or.inr ⟨_, by omega, rfl⟩
      · exact Or.inl rfl
      · exact Or.inl rfl
  | case3 a b =>
      have ha := a.toNat_lt
      have hb := b.toNat_lt
      simp only [List.mem_cons, List.not_mem_nil, or_false] at hx
      rcases hx with rfl | rfl | rfl | rfl
      · exact Or.inr ⟨_, by omega, rfl⟩
      · exact Or.inr ⟨_, by omega, rfl⟩
      · exact Or.inr ⟨_, by omega, rfl⟩
      · exact Or.inl rfl
  | case4 a b c rest ih =>
      have ha := a.toNat_lt
      have hb := b.toNat_lt
      have hc := c.toNat_lt
      simp only [List.mem_cons] at hx
      rcases hx with rfl | rfl | rfl | rfl | hx
      · exact Or.inr ⟨_, by omega, rfl⟩
      · exact Or.inr ⟨_, by omega, rfl⟩
      · exact Or.inr ⟨_, by omega, rfl⟩
      · exact Or.inr ⟨_, by omega, rfl⟩
      · exact ih hx

theorem visible_encode {bs : Bytes} {x : Char} (hx : x ∈ (encode bs).toList) :
    0x21 ≤ x.toNat ∧ x.toNat ≤ 0x7E ∧ x ≠ '"' := by
  rw [encode, String.toList_ofList] at hx
  rcases mem_encodeChars hx with rfl | ⟨n, hn, rfl⟩
  · decide
  · exact visible_digit n hn

/-! ## Groups -/

theorem full?_digit {p q r s : Nat} (hp : p < 64) (hq : q < 64) (hr : r < 64) (hs : s < 64) :
    full? (digit p) (digit q) (digit r) (digit s) =
      some [.ofNat (p * 4 + q / 16), .ofNat (q % 16 * 16 + r / 4), .ofNat (r % 4 * 64 + s)] := by
  simp [full?, value?_digit p hp, value?_digit q hq, value?_digit r hr, value?_digit s hs]

theorem last?_digit_pad {p q r : Nat} (hp : p < 64) (hq : q < 64) (hr : r < 64)
    (hspare : r % 4 = 0) :
    last? (digit p) (digit q) (digit r) '=' =
      some [.ofNat (p * 4 + q / 16), .ofNat (q % 16 * 16 + r / 4)] := by
  simp [last?, digit_ne_pad r hr, value?_digit p hp, value?_digit q hq, value?_digit r hr, hspare]

theorem last?_digit_pad_pad {p q : Nat} (hp : p < 64) (hq : q < 64) (hspare : q % 16 = 0) :
    last? (digit p) (digit q) '=' '=' = some [.ofNat (p * 4 + q / 16)] := by
  simp [last?, value?_digit p hp, value?_digit q hq, hspare]

/-- A group without padding is read on its own, the last one included. -/
theorem decodeChars?_cons {w x y z : Char} (hz : z ≠ '=') (rest : List Char) :
    decodeChars? (w :: x :: y :: z :: rest) =
      (full? w x y z).bind fun group => (decodeChars? rest).map (group ++ ·) := by
  cases rest with
  | nil => cases hfull : full? w x y z <;> simp [decodeChars?, last?, hz, hfull]
  | cons c rest =>
      rw [decodeChars?]
      · cases hfull : full? w x y z <;> cases decodeChars? (c :: rest) <;> rfl
      · exact nofun

theorem decodeChars?_encodeChars (bs : Bytes) : decodeChars? (encodeChars bs) = some bs := by
  fun_induction encodeChars bs with
  | case1 => rfl
  | case2 a =>
      have ha := a.toNat_lt
      have hoctet : a.toNat / 4 * 4 + a.toNat % 4 * 16 / 16 = a.toNat := by omega
      rw [decodeChars?, last?_digit_pad_pad (by omega) (by omega) (by omega), hoctet,
        UInt8.ofNat_toNat]
  | case3 a b =>
      have ha := a.toNat_lt
      have hb := b.toNat_lt
      have hoctet : a.toNat / 4 * 4 + (a.toNat % 4 * 16 + b.toNat / 16) / 16 = a.toNat := by omega
      have hoctet' : (a.toNat % 4 * 16 + b.toNat / 16) % 16 * 16 + b.toNat % 16 * 4 / 4 =
          b.toNat := by omega
      rw [decodeChars?, last?_digit_pad (by omega) (by omega) (by omega) (by omega), hoctet,
        hoctet', UInt8.ofNat_toNat, UInt8.ofNat_toNat]
  | case4 a b c rest ih =>
      have ha := a.toNat_lt
      have hb := b.toNat_lt
      have hc := c.toNat_lt
      have hoctet : a.toNat / 4 * 4 + (a.toNat % 4 * 16 + b.toNat / 16) / 16 = a.toNat := by omega
      have hoctet' : (a.toNat % 4 * 16 + b.toNat / 16) % 16 * 16 +
          (b.toNat % 16 * 4 + c.toNat / 64) / 4 = b.toNat := by omega
      have hoctet'' : (b.toNat % 16 * 4 + c.toNat / 64) % 4 * 64 + c.toNat % 64 =
          c.toNat := by omega
      rw [decodeChars?_cons (digit_ne_pad _ (by omega)), ih,
        full?_digit (by omega) (by omega) (by omega) (by omega), hoctet, hoctet', hoctet'',
        UInt8.ofNat_toNat, UInt8.ofNat_toNat, UInt8.ofNat_toNat]
      rfl

/-- **What is written is read back.** -/
theorem decode?_encode (bs : Bytes) : decode? (encode bs) = some bs := by
  rw [decode?, encode, String.toList_ofList, decodeChars?_encodeChars]

/-! ## Read and written again -/

theorem digit_of_value? {c : Char} {n : Nat} (h : value? c = some n) : n < 64 ∧ digit n = c := by
  have hupper : 'A' ≤ c ∧ c ≤ 'Z' ↔ 65 ≤ c.toNat ∧ c.toNat ≤ 90 := Iff.rfl
  have hlower : 'a' ≤ c ∧ c ≤ 'z' ↔ 97 ≤ c.toNat ∧ c.toNat ≤ 122 := Iff.rfl
  have hdecimal : '0' ≤ c ∧ c ≤ '9' ↔ 48 ≤ c.toNat ∧ c.toNat ≤ 57 := Iff.rfl
  have hback : ∀ {k : Nat}, k = c.toNat → Char.ofNat k = c := by
    intro k hk
    rw [hk, Char.ofNat_toNat]
  unfold value? at h
  split_ifs at h with hA ha h0 hplus hslash <;> obtain rfl := Option.some.inj h
  · rw [hupper] at hA
    refine ⟨by omega, ?_⟩
    rw [digit, if_pos (by omega), hback (by omega)]
  · rw [hlower] at ha
    refine ⟨by omega, ?_⟩
    rw [digit, if_neg (by omega), if_pos (by omega), hback (by omega)]
  · rw [hdecimal] at h0
    refine ⟨by omega, ?_⟩
    rw [digit, if_neg (by omega), if_neg (by omega), if_pos (by omega), hback (by omega)]
  · exact ⟨by decide, hplus.symm⟩
  · exact ⟨by decide, hslash.symm⟩

theorem toNat_ofNat_of_lt {n : Nat} (h : n < 256) : (UInt8.ofNat n).toNat = n := by
  rw [UInt8.toNat_ofNat', Nat.mod_eq_of_lt h]

/-- A group that was read is written as it stood, -/
theorem encodeChars_of_full? {w x y z : Char} {group : Bytes} (h : full? w x y z = some group)
    (rest : Bytes) : encodeChars (group ++ rest) = w :: x :: y :: z :: encodeChars rest := by
  unfold full? at h
  simp only [Option.bind_eq_bind, Option.bind_eq_some_iff] at h
  obtain ⟨p, hp, q, hq, r, hr, s, hs, hgroup⟩ := h
  obtain ⟨hplt, rfl⟩ := digit_of_value? hp
  obtain ⟨hqlt, rfl⟩ := digit_of_value? hq
  obtain ⟨hrlt, rfl⟩ := digit_of_value? hr
  obtain ⟨hslt, rfl⟩ := digit_of_value? hs
  have ha : p * 4 + q / 16 < 256 := by omega
  have hb : q % 16 * 16 + r / 4 < 256 := by omega
  have hc : r % 4 * 64 + s < 256 := by omega
  have hp' : (p * 4 + q / 16) / 4 = p := by omega
  have hq' : (p * 4 + q / 16) % 4 * 16 + (q % 16 * 16 + r / 4) / 16 = q := by omega
  have hr' : (q % 16 * 16 + r / 4) % 16 * 4 + (r % 4 * 64 + s) / 64 = r := by omega
  have hs' : (r % 4 * 64 + s) % 64 = s := by omega
  rw [← Option.some.inj hgroup]
  simp only [List.cons_append, List.nil_append, encodeChars, toNat_ofNat_of_lt ha,
    toNat_ofNat_of_lt hb, toNat_ofNat_of_lt hc, hp', hq', hr', hs']

/-- and so is a last group. The bits that it leaves over are those that writing puts there. -/
theorem encodeChars_of_last? {w x y z : Char} {group : Bytes} (h : last? w x y z = some group) :
    encodeChars group = [w, x, y, z] := by
  unfold last? at h
  split_ifs at h with hz hy
  · simp only [Option.bind_eq_bind, Option.bind_eq_some_iff] at h
    obtain ⟨p, hp, q, hq, hgroup⟩ := h
    split_ifs at hgroup with hspare
    obtain ⟨hplt, rfl⟩ := digit_of_value? hp
    obtain ⟨hqlt, rfl⟩ := digit_of_value? hq
    have ha : p * 4 + q / 16 < 256 := by omega
    have hp' : (p * 4 + q / 16) / 4 = p := by omega
    have hq' : (p * 4 + q / 16) % 4 * 16 = q := by omega
    rw [← Option.some.inj hgroup, hz, hy]
    simp only [encodeChars, toNat_ofNat_of_lt ha, hp', hq']
  · simp only [Option.bind_eq_bind, Option.bind_eq_some_iff] at h
    obtain ⟨p, hp, q, hq, r, hr, hgroup⟩ := h
    split_ifs at hgroup with hspare
    obtain ⟨hplt, rfl⟩ := digit_of_value? hp
    obtain ⟨hqlt, rfl⟩ := digit_of_value? hq
    obtain ⟨hrlt, rfl⟩ := digit_of_value? hr
    have ha : p * 4 + q / 16 < 256 := by omega
    have hb : q % 16 * 16 + r / 4 < 256 := by omega
    have hp' : (p * 4 + q / 16) / 4 = p := by omega
    have hq' : (p * 4 + q / 16) % 4 * 16 + (q % 16 * 16 + r / 4) / 16 = q := by omega
    have hr' : (q % 16 * 16 + r / 4) % 16 * 4 = r := by omega
    rw [← Option.some.inj hgroup, hz]
    simp only [encodeChars, toNat_ofNat_of_lt ha, toNat_ofNat_of_lt hb, hp', hq', hr']
  · have hwritten := encodeChars_of_full? h []
    rwa [List.append_nil] at hwritten

theorem encodeChars_of_decodeChars? (cs : List Char) : ∀ bs : Bytes,
    decodeChars? cs = some bs → encodeChars bs = cs := by
  fun_induction decodeChars? cs with
  | case1 =>
      intro bs h
      rw [← Option.some.inj h]
      rfl
  | case2 w x y z =>
      intro bs h
      exact encodeChars_of_last? h
  | case3 w x y z rest hrest ih =>
      intro bs h
      simp only [Option.bind_eq_bind, Option.bind_eq_some_iff] at h
      obtain ⟨group, hgroup, others, hothers, happend⟩ := h
      rw [← Option.some.inj happend, encodeChars_of_full? hgroup, ih others hothers]
  | case4 cs =>
      intro bs h
      exact nomatch h

/-- **What is read is written as it stood.** So a text that is read has no other spelling. -/
theorem encode_of_decode? {text : String} {bs : Bytes} (h : decode? text = some bs) :
    encode bs = text := by
  rw [encode, encodeChars_of_decodeChars? _ bs h, String.ofList_toList]

end MacAccess.Base64
