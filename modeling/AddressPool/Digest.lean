import AddressPool.Bytes

namespace AddressPool

-- Sixty-four bit fingerprints. A value goes in by rotating what is there, crossing the value
-- in and multiplying by an odd constant, so each step can be undone.
namespace Fingerprint

def multiplier : UInt64 := 0x517cc1b727220a95

def add (state value : UInt64) : UInt64 :=
  ((state <<< 5 ||| state >>> 59) ^^^ value) * multiplier

def addWord (state : UInt64) (octets : Bytes) : UInt64 :=
  add state (UInt64.ofNat (Bytes.ofLittleEndian octets))

def addRest (state : UInt64) (octets : Bytes) : UInt64 :=
  let step : UInt64 × Bytes → Nat → UInt64 × Bytes := fun (state, left) size =>
    if size ≤ left.length then (addWord state (left.take size), left.drop size)
    else (state, left)
  ([4, 2, 1].foldl step (state, octets)).1

def addBytes (state : UInt64) (octets : Bytes) : UInt64 :=
  if 8 ≤ octets.length then addBytes (addWord state (octets.take 8)) (octets.drop 8)
  else addRest state octets
termination_by octets.length
decreasing_by simp; omega

def ofBytes (octets : Bytes) : UInt64 := addBytes 0 octets

def ofWord (value : UInt64) : UInt64 := add 0 value

def ofText (octets : Bytes) : UInt64 := add (addBytes 0 octets) 0xff

def combine (seed value : UInt64) : UInt64 :=
  let high : UInt64 := seed <<< 6
  let low : UInt64 := seed >>> 2
  seed ^^^ (value + 0x9e3779b9 + high + low)

end Fingerprint

namespace Sha256

def rotateRight (word : UInt32) (count : UInt32) : UInt32 :=
  word >>> count ||| word <<< (32 - count)

-- The first bits of the fractional parts of the cube roots of the first 64 primes.
def roundConstants : List UInt32 :=
  [0x428a2f98, 0x71374491, 0xb5c0fbcf, 0xe9b5dba5, 0x3956c25b, 0x59f111f1, 0x923f82a4, 0xab1c5ed5,
   0xd807aa98, 0x12835b01, 0x243185be, 0x550c7dc3, 0x72be5d74, 0x80deb1fe, 0x9bdc06a7, 0xc19bf174,
   0xe49b69c1, 0xefbe4786, 0x0fc19dc6, 0x240ca1cc, 0x2de92c6f, 0x4a7484aa, 0x5cb0a9dc, 0x76f988da,
   0x983e5152, 0xa831c66d, 0xb00327c8, 0xbf597fc7, 0xc6e00bf3, 0xd5a79147, 0x06ca6351, 0x14292967,
   0x27b70a85, 0x2e1b2138, 0x4d2c6dfc, 0x53380d13, 0x650a7354, 0x766a0abb, 0x81c2c92e, 0x92722c85,
   0xa2bfe8a1, 0xa81a664b, 0xc24b8b70, 0xc76c51a3, 0xd192e819, 0xd6990624, 0xf40e3585, 0x106aa070,
   0x19a4c116, 0x1e376c08, 0x2748774c, 0x34b0bcb5, 0x391c0cb3, 0x4ed8aa4a, 0x5b9cca4f, 0x682e6ff3,
   0x748f82ee, 0x78a5636f, 0x84c87814, 0x8cc70208, 0x90befffa, 0xa4506ceb, 0xbef9a3f7, 0xc67178f2]

structure Chain where
  a : UInt32
  b : UInt32
  c : UInt32
  d : UInt32
  e : UInt32
  f : UInt32
  g : UInt32
  h : UInt32

def Chain.start : Chain :=
  ⟨0x6a09e667, 0xbb67ae85, 0x3c6ef372, 0xa54ff53a, 0x510e527f, 0x9b05688c, 0x1f83d9ab, 0x5be0cd19⟩

def Chain.add (x y : Chain) : Chain :=
  ⟨x.a + y.a, x.b + y.b, x.c + y.c, x.d + y.d, x.e + y.e, x.f + y.f, x.g + y.g, x.h + y.h⟩

def Chain.words (x : Chain) : List UInt32 := [x.a, x.b, x.c, x.d, x.e, x.f, x.g, x.h]

def Chain.round (x : Chain) (word : UInt32) : Chain :=
  let s1 := rotateRight x.e 6 ^^^ rotateRight x.e 11 ^^^ rotateRight x.e 25
  let choice := (x.e &&& x.f) ^^^ (~~~x.e &&& x.g)
  let t1 := x.h + s1 + choice + word
  let s0 := rotateRight x.a 2 ^^^ rotateRight x.a 13 ^^^ rotateRight x.a 22
  let majority := (x.a &&& x.b) ^^^ (x.a &&& x.c) ^^^ (x.b &&& x.c)
  ⟨t1 + (s0 + majority), x.a, x.b, x.c, x.d + t1, x.e, x.f, x.g⟩

def schedule : (count : Nat) → (window : List UInt32) → List UInt32
  | 0, _ => []
  | count + 1, window =>
    let w1 := window.getD 1 0
    let w14 := window.getD 14 0
    let s0 := rotateRight w1 7 ^^^ rotateRight w1 18 ^^^ w1 >>> 3
    let s1 := rotateRight w14 17 ^^^ rotateRight w14 19 ^^^ w14 >>> 10
    let next := window.getD 0 0 + s0 + window.getD 9 0 + s1
    window.getD 0 0 :: schedule count (window.drop 1 ++ [next])

def absorb (chain : Chain) (block : List UInt32) : Chain :=
  let words := List.zipWith (· + ·) (schedule 64 block) roundConstants
  chain.add (words.foldl Chain.round chain)

def padded (message : Bytes) : Bytes :=
  message ++ 0x80 :: List.replicate ((119 - message.length % 64) % 64) 0 ++
    Bytes.bigEndian 8 (8 * message.length)

def words : Bytes → List UInt32
  | a :: b :: c :: d :: rest => UInt32.ofNat (Bytes.ofBigEndian [a, b, c, d]) :: words rest
  | _ => []

def absorbAll : (blocks : Nat) → Chain → List UInt32 → Chain
  | 0, chain, _ => chain
  | blocks + 1, chain, words => absorbAll blocks (absorb chain (words.take 16)) (words.drop 16)

def digest (message : Bytes) : Bytes :=
  let blocks := padded message
  let chain := absorbAll (blocks.length / 64) Chain.start (words blocks)
  chain.words.flatMap fun word => Bytes.bigEndian 4 word.toNat

end Sha256
end AddressPool
