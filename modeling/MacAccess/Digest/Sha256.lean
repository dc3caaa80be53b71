import MacAccess.Bytes

/-!
# SHA-256

The Secure Hash Algorithm with a 256-bit digest (FIPS 180-4) on octet sequences. The chaining value
is a structure of eight words, so the digest has 32 octets by its type alone.
-/

namespace MacAccess.Sha256

/-- The chaining value: eight 32-bit words. -/
structure Chain where
  a : UInt32
  b : UInt32
  c : UInt32
  d : UInt32
  e : UInt32
  f : UInt32
  g : UInt32
  h : UInt32

/-- The first 32 bits of the fractional parts of the square roots of the first eight primes. -/
def Chain.start : Chain :=
  ⟨0x6a09e667, 0xbb67ae85, 0x3c6ef372, 0xa54ff53a, 0x510e527f, 0x9b05688c, 0x1f83d9ab, 0x5be0cd19⟩

/-- The first 32 bits of the fractional parts of the cube roots of the first sixty-four primes. -/
def roundConstants : List UInt32 := [
  0x428a2f98, 0x71374491, 0xb5c0fbcf, 0xe9b5dba5, 0x3956c25b, 0x59f111f1, 0x923f82a4, 0xab1c5ed5,
  0xd807aa98, 0x12835b01, 0x243185be, 0x550c7dc3, 0x72be5d74, 0x80deb1fe, 0x9bdc06a7, 0xc19bf174,
  0xe49b69c1, 0xefbe4786, 0x0fc19dc6, 0x240ca1cc, 0x2de92c6f, 0x4a7484aa, 0x5cb0a9dc, 0x76f988da,
  0x983e5152, 0xa831c66d, 0xb00327c8, 0xbf597fc7, 0xc6e00bf3, 0xd5a79147, 0x06ca6351, 0x14292967,
  0x27b70a85, 0x2e1b2138, 0x4d2c6dfc, 0x53380d13, 0x650a7354, 0x766a0abb, 0x81c2c92e, 0x92722c85,
  0xa2bfe8a1, 0xa81a664b, 0xc24b8b70, 0xc76c51a3, 0xd192e819, 0xd6990624, 0xf40e3585, 0x106aa070,
  0x19a4c116, 0x1e376c08, 0x2748774c, 0x34b0bcb5, 0x391c0cb3, 0x4ed8aa4a, 0x5b9cca4f, 0x682e6ff3,
  0x748f82ee, 0x78a5636f, 0x84c87814, 0x8cc70208, 0x90befffa, 0xa4506ceb, 0xbef9a3f7, 0xc67178f2]

def rotateRight (x n : UInt32) : UInt32 := (x >>> n) ||| (x <<< (32 - n))

/-- The words of a block followed by the forty-eight that the message schedule derives. -/
def schedule (block : Array UInt32) : Array UInt32 :=
  (List.range 48).foldl derive block
where
  derive (w : Array UInt32) (i : Nat) : Array UInt32 :=
    let x := w.getD (i + 1) 0
    let y := w.getD (i + 14) 0
    let s₀ := rotateRight x 7 ^^^ rotateRight x 18 ^^^ (x >>> 3)
    let s₁ := rotateRight y 17 ^^^ rotateRight y 19 ^^^ (y >>> 10)
    w.push (w.getD i 0 + s₀ + w.getD (i + 9) 0 + s₁)

/-- One round with its constant and its scheduled word. -/
def Chain.round (s : Chain) (constant word : UInt32) : Chain :=
  let s₁ := rotateRight s.e 6 ^^^ rotateRight s.e 11 ^^^ rotateRight s.e 25
  let choice := (s.e &&& s.f) ^^^ (~~~s.e &&& s.g)
  let t₁ := s.h + s₁ + choice + constant + word
  let s₀ := rotateRight s.a 2 ^^^ rotateRight s.a 13 ^^^ rotateRight s.a 22
  let majority := (s.a &&& s.b) ^^^ (s.a &&& s.c) ^^^ (s.b &&& s.c)
  ⟨t₁ + (s₀ + majority), s.a, s.b, s.c, s.d + t₁, s.e, s.f, s.g⟩

def Chain.add (s t : Chain) : Chain :=
  ⟨s.a + t.a, s.b + t.b, s.c + t.c, s.d + t.d, s.e + t.e, s.f + t.f, s.g + t.g, s.h + t.h⟩

/-- The chaining value after one block of sixteen words. -/
def Chain.absorb (s : Chain) (block : List UInt32) : Chain :=
  s.add ((roundConstants.zip (schedule block.toArray).toList).foldl
    (fun t kw => t.round kw.1 kw.2) s)

/-- Octets read four at a time as big-endian words. -/
def words : Bytes → List UInt32
  | a :: b :: c :: d :: rest =>
    ((a.toUInt32 <<< 24) ||| (b.toUInt32 <<< 16) ||| (c.toUInt32 <<< 8) ||| d.toUInt32) ::
      words rest
  | _ => []

def wordOctets (w : UInt32) : Bytes :=
  [(w >>> 24).toUInt8, (w >>> 16).toUInt8, (w >>> 8).toUInt8, w.toUInt8]

/-- A 64-bit number as eight octets, most significant first. -/
def lengthOctets (n : Nat) : Bytes :=
  [56, 48, 40, 32, 24, 16, 8, 0].map fun shift => UInt8.ofNat (n >>> shift)

/-- The message with a one bit, the fewest zeros that fill up the last block, and its length in
bits. -/
def padded (message : Bytes) : Bytes :=
  let zeros := (119 - message.length % 64) % 64
  message ++ 0x80 :: List.replicate zeros 0 ++ lengthOctets (message.length * 8)

/-- The chaining value after `count` blocks of sixteen words each. -/
def absorbBlocks : (count : Nat) → List UInt32 → Chain → Chain
  | 0, _, s => s
  | n + 1, ws, s => absorbBlocks n (ws.drop 16) (s.absorb (ws.take 16))

def Chain.octets (s : Chain) : Bytes :=
  wordOctets s.a ++ wordOctets s.b ++ wordOctets s.c ++ wordOctets s.d ++
    wordOctets s.e ++ wordOctets s.f ++ wordOctets s.g ++ wordOctets s.h

/-- The digest of a message. -/
def hash (message : Bytes) : Bytes :=
  let ws := words (padded message)
  (absorbBlocks (ws.length / 16) ws Chain.start).octets

theorem length_octets (s : Chain) : s.octets.length = 32 := rfl

theorem length_hash (message : Bytes) : (hash message).length = 32 := length_octets _

end MacAccess.Sha256
