import MacAccess.Digest.Sha256
import MacAccess.Text.Utf8

/-!
# HMAC-SHA256

Keyed hashing for message authentication (RFC 2104) over SHA-256. Every key is accepted, the empty
one included: a key longer than a block is hashed first, and a shorter one is filled up with zeros.
-/

namespace MacAccess.Hmac

/-- The key brought to the length of a block. -/
def blockKey (key : Bytes) : Bytes :=
  let short := if key.length > 64 then Sha256.hash key else key
  short ++ List.replicate (64 - short.length) 0

/-- The tag of a message under a key. -/
def tag (key message : Bytes) : Bytes :=
  let k := blockKey key
  Sha256.hash (k.map (· ^^^ 0x5C) ++ Sha256.hash (k.map (· ^^^ 0x36) ++ message))

theorem length_tag (key message : Bytes) : (tag key message).length = 32 := Sha256.length_hash _

/-- The second test case of RFC 4231. -/
example : tag (Utf8.encode "Jefe") (Utf8.encode "what do ya want for nothing?") =
    [0x5B, 0xDC, 0xC1, 0x46, 0xBF, 0x60, 0x75, 0x4E, 0x6A, 0x04, 0x24, 0x26, 0x08, 0x95, 0x75, 0xC7,
      0x5A, 0x00, 0x3F, 0x08, 0x9D, 0x27, 0x39, 0x83, 0x9D, 0xEC, 0x58, 0xB9, 0x64, 0xEC, 0x38,
      0x43] := by
  decide +kernel

/-- Whether `expected` is the whole tag of a message. A part of the tag is not enough. -/
def verify (key message expected : Bytes) : Bool := tag key message == expected

end MacAccess.Hmac
