import Mathlib.Tactic.Common
import MacAccess.Bytes

/-!
# Results and octets

How a chain of checks that succeeded is opened, and how octets and the ASCII characters with their
code points belong together.
-/

namespace MacAccess

/-! ## Checks that succeeded -/

section Checks

variable {ε α β : Type} {x : Except ε α}

theorem ok_of_bind {f : α → Except ε β} {b : β} (h : x >>= f = .ok b) :
    ∃ a, x = .ok a ∧ f a = .ok b := by
  cases x with
  | error e => exact nomatch h
  | ok a => exact ⟨a, rfl, h⟩

theorem ok_of_map {f : α → β} {b : β} (h : x.map f = .ok b) : ∃ a, x = .ok a ∧ f a = b := by
  cases x with
  | error e => exact nomatch h
  | ok a => exact ⟨a, rfl, Except.ok.inj h⟩

end Checks

/-! ## Octets and their characters -/

theorem ofNat_eq_of_toNat {n : Nat} {b : UInt8} (h : n = b.toNat) : UInt8.ofNat n = b := by
  rw [h, UInt8.ofNat_toNat]

theorem val_ofNat {n : Nat} (h : n.isValidChar) : (Char.ofNat n).val.toNat = n := by
  rw [Char.ofNat, dif_pos h]
  rfl

theorem toNat_toChar (b : UInt8) : (Octet.toChar b).toNat = b.toNat := by
  have hb := b.toNat_lt
  exact val_ofNat (Or.inl (by omega))

theorem toChar_ofNat {c : Char} (h : c.toNat < 0x80) : Octet.toChar (UInt8.ofNat c.toNat) = c := by
  rw [Octet.toChar, UInt8.toNat_ofNat', Nat.mod_eq_of_lt (by omega), Char.ofNat_toNat]

theorem mem_asciiText {octets : Bytes} {c : Char} (h : c ∈ (Octet.asciiText octets).toList) :
    ∃ b ∈ octets, b.toNat = c.toNat := by
  rw [Octet.asciiText, String.toList_ofList, List.mem_map] at h
  obtain ⟨b, hb, rfl⟩ := h
  exact ⟨b, hb, (toNat_toChar b).symm⟩

theorem newline_mem_asciiText {octets : Bytes}
    (h : '\n' ∈ (Octet.asciiText octets).toList) : 0x0A ∈ octets := by
  obtain ⟨b, hb, hnat⟩ := mem_asciiText h
  have hoctet : b = 0x0A := UInt8.toNat_inj.mp hnat
  exact hoctet ▸ hb

end MacAccess
