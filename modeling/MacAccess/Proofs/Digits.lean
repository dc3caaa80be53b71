import Mathlib.Data.Nat.Digits.Defs
import Mathlib.Tactic.Ring
import MacAccess.Proofs.Base64

/-!
# Base64 texts as numbers

A Base64 text spells a number: its digits in base 64 stand for the number that the octets are in
base 256, with as many zero bits behind it as the last digit has to spare. The padding tells how
many. The lengths and the number leave one choice of digits, so octets have one spelling, and any
digits that end in spare bits of zero and in the padding for them are the spelling of some octets.
Reading accepts these texts and no others.
-/

namespace MacAccess.Base64

/-! ## Spellings -/

/-- The digits in the order of their values. -/
def alphabet : List Char :=
  "ABCDEFGHIJKLMNOPQRSTUVWXYZabcdefghijklmnopqrstuvwxyz0123456789+/".toList

/-- The values of digits, and how many characters of padding follow them. -/
structure Spelling where
  values : List Nat
  pads : Nat

namespace Spelling

def chars (s : Spelling) : List Char :=
  s.values.map (fun v => alphabet.getD v '=') ++ List.replicate s.pads '='

def text (s : Spelling) : String := String.ofList s.chars

/-- Whether a spelling is one of some octets: groups of four are full, padding fills the last one
only, and the bits that the padding leaves over are zero. -/
structure IsLegal (s : Spelling) : Prop where
  values : ∀ v ∈ s.values, v < 64
  pads : s.pads ≤ 2
  groups : 4 ∣ s.values.length + s.pads
  spare : ∀ v ∈ s.values.getLast?, 4 ^ s.pads ∣ v

/-- Whether the digits, taken as a number with spare bits at its end, are these octets. A group has
four characters for three octets, with padding for those that are not there. -/
structure Denotes (s : Spelling) (octets : Bytes) : Prop where
  groups : 3 * (s.values.length + s.pads) = 4 * (octets.length + s.pads)
  number : Nat.ofDigits 64 s.values.reverse =
    4 ^ s.pads * Nat.ofDigits 256 (octets.map UInt8.toNat).reverse

end Spelling

theorem alphabet_getD : ∀ n < 64, alphabet.getD n '=' = digit n := by decide

namespace Spelling

theorem chars_cons {v : Nat} (hv : v < 64) (values : List Nat) (pads : Nat) :
    (⟨v :: values, pads⟩ : Spelling).chars = digit v :: (⟨values, pads⟩ : Spelling).chars := by
  rw [chars, List.map_cons, alphabet_getD v hv]
  rfl

/-- The last digit has the spare bits of the whole number. -/
theorem Denotes.spare {s : Spelling} {octets : Bytes} (h : s.Denotes octets) (hpads : s.pads ≤ 2) :
    ∀ v ∈ s.values.getLast?, 4 ^ s.pads ∣ v := by
  intro v hv
  obtain ⟨before, hvalues⟩ := List.getLast?_eq_some_iff.mp hv
  have hbase : 4 ^ s.pads ∣ 64 := Nat.pow_dvd_pow (n := 3) 4 (by omega)
  have hwhole : 4 ^ s.pads ∣ v + 64 * Nat.ofDigits 64 before.reverse := by
    rw [← Nat.ofDigits_cons, ← List.reverse_concat, ← hvalues, h.number]
    exact Nat.dvd_mul_right _ _
  exact (Nat.dvd_add_left (hbase.mul_right _)).mp hwhole

/-- **Octets have one spelling.** -/
theorem eq_of_denotes {s s' : Spelling} {octets : Bytes} (hlegal : s.IsLegal) (h : s.Denotes octets)
    (hlegal' : s'.IsLegal) (h' : s'.Denotes octets) : s = s' := by
  rcases s with ⟨values, pads⟩
  rcases s' with ⟨values', pads'⟩
  have hgroups := h.groups
  have hgroups' := h'.groups
  have hle := hlegal.pads
  have hle' := hlegal'.pads
  dsimp only at hgroups hgroups' hle hle'
  -- the padding is what the number of octets lacks to a multiple of three
  obtain rfl : pads = pads' := by omega
  have hlength : values.length = values'.length := by omega
  have hreverse : values.reverse = values'.reverse := by
    refine Nat.ofDigits_inj_of_len_eq (b := 64) (by omega) ?_ ?_ ?_ (h.number.trans h'.number.symm)
    · simpa using hlength
    · intro v hv
      exact hlegal.values v (List.mem_reverse.mp hv)
    · intro v hv
      exact hlegal'.values v (List.mem_reverse.mp hv)
  rw [List.reverse_inj.mp hreverse]

end Spelling

/-! ## Written texts -/

/-- The values of the digits that are written for three octets. -/
def group (a b c : UInt8) : List Nat :=
  [a.toNat / 4, a.toNat % 4 * 16 + b.toNat / 16, b.toNat % 16 * 4 + c.toNat / 64, c.toNat % 64]

theorem lt_of_mem_group {a b c : UInt8} {v : Nat} (hv : v ∈ group a b c) : v < 64 := by
  have ha := a.toNat_lt
  have hb := b.toNat_lt
  have hc := c.toNat_lt
  simp only [group, List.mem_cons, List.not_mem_nil, or_false] at hv
  rcases hv with rfl | rfl | rfl | rfl
  · omega
  · omega
  · omega
  · omega

/-- What stands before the digits has the same place value as what stands before the octets, -/
theorem Spelling.Denotes.place {s : Spelling} {octets : Bytes} (h : s.Denotes octets) :
    64 ^ s.values.length = 4 ^ s.pads * 256 ^ octets.length := by
  have hgroups := h.groups
  have h64 : (64 : Nat) = 2 ^ 6 := rfl
  have h4 : (4 : Nat) = 2 ^ 2 := rfl
  have h256 : (256 : Nat) = 2 ^ 8 := rfl
  rw [h64, h4, h256, ← pow_mul, ← pow_mul, ← pow_mul, ← pow_add]
  congr 1
  omega

/-- and a group there is the same number in its four digits as in its three octets. -/
theorem Spelling.Denotes.group_append {values : List Nat} {pads : Nat} {octets : Bytes}
    (h : (⟨values, pads⟩ : Spelling).Denotes octets) (a b c : UInt8) :
    (⟨group a b c ++ values, pads⟩ : Spelling).Denotes (a :: b :: c :: octets) where
  groups := by
    have hgroups := h.groups
    simp only [group, List.length_append, List.length_cons, List.length_nil] at hgroups ⊢
    omega
  number := by
    have hnumber := h.number
    have hplace := h.place
    dsimp only at hnumber hplace
    have hgroup : ((a.toNat / 4 * 64 + (a.toNat % 4 * 16 + b.toNat / 16)) * 64 +
        (b.toNat % 16 * 4 + c.toNat / 64)) * 64 + c.toNat % 64 =
          (a.toNat * 256 + b.toNat) * 256 + c.toNat := by
      have ha := a.toNat_lt
      have hb := b.toNat_lt
      have hc := c.toNat_lt
      omega
    simp only [group, List.cons_append, List.nil_append, List.map_cons,
      Nat.ofDigits_reverse_cons, List.length_cons, List.length_map, pow_succ, hnumber, hplace]
    calc
      _ = 4 ^ pads * (Nat.ofDigits 256 (octets.map UInt8.toNat).reverse +
            256 ^ octets.length * (((a.toNat / 4 * 64 + (a.toNat % 4 * 16 + b.toNat / 16)) * 64 +
              (b.toNat % 16 * 4 + c.toNat / 64)) * 64 + c.toNat % 64)) := by ring
      _ = _ := by rw [hgroup]; ring

/-- **What is written is a legal spelling of the octets.** -/
theorem exists_spelling (bs : Bytes) :
    ∃ s : Spelling, s.IsLegal ∧ s.Denotes bs ∧ s.chars = encodeChars bs := by
  -- one induction for the digits, their number and their groups
  suffices h : ∃ s : Spelling, (∀ v ∈ s.values, v < 64) ∧ s.pads ≤ 2 ∧ s.Denotes bs ∧
      s.chars = encodeChars bs by
    obtain ⟨s, hvalues, hpads, hdenotes, hchars⟩ := h
    have hgroups := hdenotes.groups
    exact ⟨s, ⟨hvalues, hpads, by omega, hdenotes.spare hpads⟩, hdenotes, hchars⟩
  fun_induction encodeChars bs with
  | case1 =>
      refine ⟨⟨[], 0⟩, ?_, by decide, ⟨rfl, rfl⟩, rfl⟩
      intro v hv
      exact absurd hv List.not_mem_nil
  | case2 a =>
      have ha := a.toNat_lt
      refine ⟨⟨[a.toNat / 4, a.toNat % 4 * 16], 2⟩, ?_, Nat.le_refl _, ⟨rfl, ?_⟩, ?_⟩
      · simp only [List.mem_cons, List.not_mem_nil, or_false, forall_eq_or_imp, forall_eq]
        omega
      · simp only [List.reverse_cons, List.reverse_nil, List.nil_append, List.cons_append,
          List.map_cons, List.map_nil, Nat.ofDigits_cons, Nat.ofDigits_nil]
        omega
      · rw [Spelling.chars_cons (by omega), Spelling.chars_cons (by omega)]
        rfl
  | case3 a b =>
      have ha := a.toNat_lt
      have hb := b.toNat_lt
      refine ⟨⟨[a.toNat / 4, a.toNat % 4 * 16 + b.toNat / 16, b.toNat % 16 * 4], 1⟩, ?_,
        Nat.le_succ _, ⟨rfl, ?_⟩, ?_⟩
      · simp only [List.mem_cons, List.not_mem_nil, or_false, forall_eq_or_imp, forall_eq]
        omega
      · simp only [List.reverse_cons, List.reverse_nil, List.nil_append, List.cons_append,
          List.map_cons, List.map_nil, Nat.ofDigits_cons, Nat.ofDigits_nil]
        omega
      · rw [Spelling.chars_cons (by omega), Spelling.chars_cons (by omega),
          Spelling.chars_cons (by omega)]
        rfl
  | case4 a b c rest ih =>
      have ha := a.toNat_lt
      have hb := b.toNat_lt
      have hc := c.toNat_lt
      obtain ⟨⟨values, pads⟩, hvalues, hpads, hdenotes, hchars⟩ := ih
      refine ⟨⟨group a b c ++ values, pads⟩, ?_, hpads, hdenotes.group_append a b c, ?_⟩
      · intro v hv
        rcases List.mem_append.mp hv with hgroup | hrest
        · exact lt_of_mem_group hgroup
        · exact hvalues v hrest
      · simp only [group, List.cons_append, List.nil_append]
        rw [Spelling.chars_cons (by omega), Spelling.chars_cons (by omega),
          Spelling.chars_cons (by omega), Spelling.chars_cons (by omega), hchars]

/-- Four characters are written for each three octets or part of three. -/
theorem length_encode (bs : Bytes) : (encode bs).length = 4 * ((bs.length + 2) / 3) := by
  obtain ⟨s, hlegal, hdenotes, hchars⟩ := exists_spelling bs
  have hpads := hlegal.pads
  have hgroups := hdenotes.groups
  rw [encode, String.length_ofList, ← hchars, Spelling.chars, List.length_append, List.length_map,
    List.length_replicate]
  omega

/-- A text is what is written for octets exactly if it spells them. -/
theorem eq_encode_iff_denotes {text : String} {octets : Bytes} :
    text = encode octets ↔ ∃ s : Spelling, s.IsLegal ∧ s.Denotes octets ∧ s.text = text := by
  constructor
  · rintro rfl
    obtain ⟨s, hlegal, hdenotes, hchars⟩ := exists_spelling octets
    exact ⟨s, hlegal, hdenotes, by rw [Spelling.text, hchars, encode]⟩
  · rintro ⟨s, hlegal, hdenotes, rfl⟩
    obtain ⟨s', hlegal', hdenotes', hchars'⟩ := exists_spelling octets
    rw [Spelling.eq_of_denotes hlegal hdenotes hlegal' hdenotes', Spelling.text, hchars', encode]

/-! ## Legal texts -/

theorem Spelling.IsLegal.tail {p q r s : Nat} {values : List Nat} {pads : Nat}
    (h : (⟨p :: q :: r :: s :: values, pads⟩ : Spelling).IsLegal) :
    (⟨values, pads⟩ : Spelling).IsLegal where
  values v hv := h.values v (by simp [hv])
  pads := h.pads
  groups := by
    have hgroups := h.groups
    simp only [List.length_cons] at hgroups ⊢
    omega
  spare v hv := by
    have hlast : values.getLast? = some v := hv
    exact h.spare v (by simp [List.getLast?_cons, hlast])

/-- **Every legal spelling is written for some octets.** -/
theorem exists_encodeChars_of_isLegal : ∀ (values : List Nat) (pads : Nat),
    (⟨values, pads⟩ : Spelling).IsLegal →
      ∃ bs, encodeChars bs = (⟨values, pads⟩ : Spelling).chars
  | [], pads, h => by
      have hpads := h.pads
      have hgroups := h.groups
      simp only [List.length_nil] at hpads hgroups
      obtain rfl : pads = 0 := by omega
      exact ⟨[], rfl⟩
  | [p], pads, h => by
      have hpads := h.pads
      have hgroups := h.groups
      simp only [List.length_cons, List.length_nil] at hpads hgroups
      omega
  | [p, q], pads, h => by
      have hpads := h.pads
      have hgroups := h.groups
      simp only [List.length_cons, List.length_nil] at hpads hgroups
      obtain rfl : pads = 2 := by omega
      have hp := h.values p (by simp)
      have hq := h.values q (by simp)
      have hspare : 16 ∣ q := h.spare q rfl
      refine ⟨_, (encodeChars_of_last? (last?_digit_pad_pad hp hq (by omega))).trans ?_⟩
      rw [Spelling.chars_cons hp, Spelling.chars_cons hq]
      rfl
  | [p, q, r], pads, h => by
      have hpads := h.pads
      have hgroups := h.groups
      simp only [List.length_cons, List.length_nil] at hpads hgroups
      obtain rfl : pads = 1 := by omega
      have hp := h.values p (by simp)
      have hq := h.values q (by simp)
      have hr := h.values r (by simp)
      have hspare : 4 ∣ r := h.spare r rfl
      refine ⟨_, (encodeChars_of_last? (last?_digit_pad hp hq hr (by omega))).trans ?_⟩
      rw [Spelling.chars_cons hp, Spelling.chars_cons hq, Spelling.chars_cons hr]
      rfl
  | p :: q :: r :: s :: values, pads, h => by
      have hp := h.values p (by simp)
      have hq := h.values q (by simp)
      have hr := h.values r (by simp)
      have hs := h.values s (by simp)
      obtain ⟨bs, hbs⟩ := exists_encodeChars_of_isLegal values pads h.tail
      refine ⟨_, (encodeChars_of_full? (full?_digit hp hq hr hs) bs).trans ?_⟩
      rw [hbs, Spelling.chars_cons hp, Spelling.chars_cons hq, Spelling.chars_cons hr,
        Spelling.chars_cons hs]

/-! ## Reading -/

theorem decode_eq_ok_iff {text : String} {octets : Bytes} :
    decode text = .ok octets ↔ text = encode octets := by
  constructor
  · intro h
    unfold decode at h
    split at h
    · next found hfound =>
      rw [← Except.ok.inj h]
      exact (encode_of_decode? hfound).symm
    · exact nomatch h
  · rintro rfl
    rw [decode, decode?_encode]

theorem encode_injective {bs bs' : Bytes} (h : encode bs = encode bs') : bs = bs' := by
  have hread := congrArg decode? h
  rw [decode?_encode, decode?_encode] at hread
  exact Option.some.inj hread

theorem eq_notDecodable {text : String} {f : Failure} (h : decode text = .error f) :
    f = notDecodable := by
  unfold decode at h
  split at h
  · exact nomatch h
  · exact (Except.error.inj h).symm

/-- **Reading accepts exactly what writing produces**, which is exactly what the format allows. A
text is read as octets if it is what is written for them, that is if it is a legal spelling of their
number. Any other text fails, all in the same way: it has a character outside the alphabet, a group
that is not full, padding that is missing or too long or not at the end, or spare bits that are not
zero. -/
theorem decode_exact (text : String) :
    (∀ octets, decode text = .ok octets ↔ text = encode octets) ∧
    (∀ octets, text = encode octets ↔
      ∃ s : Spelling, s.IsLegal ∧ s.Denotes octets ∧ s.text = text) ∧
    (decode text = .error notDecodable ↔ ∀ octets, text ≠ encode octets) ∧
    (decode text = .error notDecodable ↔ ¬ ∃ s : Spelling, s.IsLegal ∧ s.text = text) ∧
    ∀ f, decode text = .error f → f = notDecodable := by
  have hfails : decode text = .error notDecodable ↔ ∀ octets, text ≠ encode octets := by
    constructor
    · intro h octets htext
      rw [decode_eq_ok_iff.mpr htext] at h
      exact nomatch h
    · intro h
      cases hdecode : decode text with
      | error f => rw [eq_notDecodable hdecode]
      | ok octets => exact absurd (decode_eq_ok_iff.mp hdecode) (h octets)
  refine ⟨fun octets => decode_eq_ok_iff, fun octets => eq_encode_iff_denotes, hfails, ?_,
    fun f hf => eq_notDecodable hf⟩
  rw [hfails]
  constructor
  · rintro h ⟨⟨values, pads⟩, hlegal, rfl⟩
    obtain ⟨bs, hbs⟩ := exists_encodeChars_of_isLegal values pads hlegal
    exact h bs (by rw [Spelling.text, ← hbs, encode])
  · intro h octets htext
    obtain ⟨s, hlegal, -, hspelt⟩ := eq_encode_iff_denotes.mp htext
    exact h ⟨s, hlegal, hspelt⟩

/-- Two characters of padding leave over four bits of the last digit, here zero and one. -/
example : decode "aQ==" = .ok [0x69] ∧ decode "aR==" = .error notDecodable := ⟨rfl, rfl⟩

end MacAccess.Base64
