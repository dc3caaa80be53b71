/-!
# Octets

Everything that crosses the wire or reaches the digest is a list of octets. The predicates here
name the ASCII classes that the HTTP grammar and the signing rules speak of, so that each class is
stated once.
-/

namespace MacAccess

/-- A finite sequence of octets. -/
abbrev Bytes := List UInt8

namespace Octet

def isDigit (b : UInt8) : Bool := 0x30 ≤ b && b ≤ 0x39

def isUpper (b : UInt8) : Bool := 0x41 ≤ b && b ≤ 0x5A

def isLower (b : UInt8) : Bool := 0x61 ≤ b && b ≤ 0x7A

def isAlphanumeric (b : UInt8) : Bool := isDigit b || isUpper b || isLower b

/-- Whether an octet is one of the ASCII characters of a text. -/
def isOneOf (alphabet : String) (b : UInt8) : Bool :=
  alphabet.toList.any fun c => c.toNat == b.toNat

/-- The lower-case form of an ASCII letter, and every other octet unchanged. -/
def toLower (b : UInt8) : UInt8 := if isUpper b then b + 0x20 else b

/-- The character with the code point of an octet. -/
def toChar (b : UInt8) : Char := Char.ofNat b.toNat

/-- The text whose characters have the octets as code points, meant for ASCII octets. -/
def asciiText (octets : Bytes) : String := String.ofList (octets.map toChar)

end Octet

end MacAccess
