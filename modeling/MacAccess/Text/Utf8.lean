import MacAccess.Bytes

/-!
# UTF-8

A text becomes octets by `encode`. Octets become text in two ways, both read off one scan into
`Piece`s: `decode?` accepts only well-formed input, and `decodeLossy` puts U+FFFD in the place of
each malformed piece. A malformed piece is as long as it can be while some continuation of it would
be well formed, and one octet otherwise.
-/

namespace MacAccess.Utf8

/-- The octets of a text. -/
def encode (s : String) : Bytes := s.toList.flatMap String.utf8EncodeChar

/-- What a scan finds next: a character, or octets that no character has. -/
inductive Piece where
  | scalar (c : Char)
  | malformed (octets : Bytes)

/-- Whether an octet continues a character. -/
def isTail (b : UInt8) : Bool := 0x80 ≤ b && b ≤ 0xBF

/-- Whether `b` can follow the leading octet `a`. The bounds beyond `isTail` keep out overlong
forms, surrogates and code points above U+10FFFF. -/
def follows (a b : UInt8) : Bool :=
  if 0xC2 ≤ a && a ≤ 0xDF then isTail b
  else if a == 0xE0 then 0xA0 ≤ b && b ≤ 0xBF
  else if a == 0xED then 0x80 ≤ b && b ≤ 0x9F
  else if 0xE1 ≤ a && a ≤ 0xEF then isTail b
  else if a == 0xF0 then 0x90 ≤ b && b ≤ 0xBF
  else if a == 0xF4 then 0x80 ≤ b && b ≤ 0x8F
  else if 0xF1 ≤ a && a ≤ 0xF3 then isTail b
  else false

/-- The six payload bits of a continuation octet. -/
def payload (b : UInt8) : Nat := b.toNat % 64

def scalar2 (a b : UInt8) : Char := Char.ofNat (a.toNat % 32 * 64 + payload b)

def scalar3 (a b c : UInt8) : Char :=
  Char.ofNat ((a.toNat % 16 * 64 + payload b) * 64 + payload c)

def scalar4 (a b c d : UInt8) : Char :=
  Char.ofNat (((a.toNat % 8 * 64 + payload b) * 64 + payload c) * 64 + payload d)

/-- The pieces of an octet sequence, from left to right. -/
def pieces : Bytes → List Piece
  | [] => []
  | a :: rest =>
    if a < 0x80 then .scalar (Octet.toChar a) :: pieces rest
    else match rest with
      | [] => [.malformed [a]]
      | b :: rest₂ =>
        if !follows a b then .malformed [a] :: pieces (b :: rest₂)
        else if a < 0xE0 then .scalar (scalar2 a b) :: pieces rest₂
        else match rest₂ with
          | [] => [.malformed [a, b]]
          | c :: rest₃ =>
            if !isTail c then .malformed [a, b] :: pieces (c :: rest₃)
            else if a < 0xF0 then .scalar (scalar3 a b c) :: pieces rest₃
            else match rest₃ with
              | [] => [.malformed [a, b, c]]
              | d :: rest₄ =>
                if !isTail d then .malformed [a, b, c] :: pieces (d :: rest₄)
                else .scalar (scalar4 a b c d) :: pieces rest₄

def Piece.char? : Piece → Option Char
  | .scalar c => some c
  | .malformed _ => none

/-- The text that well-formed octets stand for. -/
def decode? (bs : Bytes) : Option String :=
  ((pieces bs).mapM Piece.char?).map String.ofList

/-- The text that octets stand for, with U+FFFD for each malformed piece. -/
def decodeLossy (bs : Bytes) : String :=
  String.ofList ((pieces bs).map fun p => p.char?.getD (Char.ofNat 0xFFFD))

end MacAccess.Utf8
