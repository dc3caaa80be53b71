import MacAccess.Failure
import MacAccess.Bytes

/-!
# Base64

The standard alphabet with padding. Reading accepts exactly what writing produces: the length is a
multiple of four, padding stands only at the end, and the bits that a last group leaves over are
zero. So every octet sequence has one text, and every accepted text one octet sequence.
-/

namespace MacAccess.Base64

/-- The character of a six-bit value. -/
def digit (n : Nat) : Char :=
  if n < 26 then Char.ofNat (n + 65)
  else if n < 52 then Char.ofNat (n + 71)
  else if n < 62 then Char.ofNat (n - 4)
  else if n = 62 then '+'
  else '/'

/-- The six-bit value of a character of the alphabet. -/
def value? (c : Char) : Option Nat :=
  if 'A' ≤ c ∧ c ≤ 'Z' then some (c.toNat - 65)
  else if 'a' ≤ c ∧ c ≤ 'z' then some (c.toNat - 71)
  else if '0' ≤ c ∧ c ≤ '9' then some (c.toNat + 4)
  else if c = '+' then some 62
  else if c = '/' then some 63
  else none

/-- The characters of an octet sequence, four for each group of three octets. -/
def encodeChars : Bytes → List Char
  | [] => []
  | [a] => [digit (a.toNat / 4), digit (a.toNat % 4 * 16), '=', '=']
  | [a, b] =>
    [digit (a.toNat / 4), digit (a.toNat % 4 * 16 + b.toNat / 16), digit (b.toNat % 16 * 4), '=']
  | a :: b :: c :: rest =>
    digit (a.toNat / 4) :: digit (a.toNat % 4 * 16 + b.toNat / 16) ::
      digit (b.toNat % 16 * 4 + c.toNat / 64) :: digit (c.toNat % 64) :: encodeChars rest

/-- The octets of a group of four characters, without padding. -/
def full? (w x y z : Char) : Option Bytes := do
  let p ← value? w
  let q ← value? x
  let r ← value? y
  let s ← value? z
  return [.ofNat (p * 4 + q / 16), .ofNat (q % 16 * 16 + r / 4), .ofNat (r % 4 * 64 + s)]

/-- The octets of the last group, which may be padded. A padded group must leave no bits over. -/
def last? (w x y z : Char) : Option Bytes :=
  if z = '=' then
    if y = '=' then do
      let p ← value? w
      let q ← value? x
      if q % 16 = 0 then some [.ofNat (p * 4 + q / 16)] else none
    else do
      let p ← value? w
      let q ← value? x
      let r ← value? y
      if r % 4 = 0 then some [.ofNat (p * 4 + q / 16), .ofNat (q % 16 * 16 + r / 4)] else none
  else full? w x y z

/-- The octets that characters stand for. -/
def decodeChars? : List Char → Option Bytes
  | [] => some []
  | [w, x, y, z] => last? w x y z
  | w :: x :: y :: z :: rest => do
    let group ← full? w x y z
    let others ← decodeChars? rest
    return group ++ others
  | _ => none

/-- The Base64 text of an octet sequence. -/
def encode (bs : Bytes) : String := String.ofList (encodeChars bs)

/-- The octet sequence of a Base64 text. -/
def decode? (text : String) : Option Bytes := decodeChars? text.toList

def notDecodable : Failure := (Failure.unexpected "base64 decode failed").dueTo .malformedBase64

/-- The same with a failure for every other text. -/
def decode (text : String) : Except Failure Bytes :=
  match decode? text with
  | some octets => .ok octets
  | none => .error notDecodable

end MacAccess.Base64
