import AddressPool.Bytes

namespace AddressPool

-- A reproducible stream of random words: the key stream of ChaCha with twelve rounds, nonce
-- zero and a 64-bit block counter that starts at zero.
namespace Stream

abbrev State := Vector UInt32 16

def rotateLeft (word : UInt32) (count : UInt32) : UInt32 :=
  word <<< count ||| word >>> (32 - count)

def quarterRound (s : State) (a b c d : Fin 16) : State :=
  let s := s.set a (s[a] + s[b])
  let s := s.set d (rotateLeft (s[d] ^^^ s[a]) 16)
  let s := s.set c (s[c] + s[d])
  let s := s.set b (rotateLeft (s[b] ^^^ s[c]) 12)
  let s := s.set a (s[a] + s[b])
  let s := s.set d (rotateLeft (s[d] ^^^ s[a]) 8)
  let s := s.set c (s[c] + s[d])
  s.set b (rotateLeft (s[b] ^^^ s[c]) 7)

def doubleRound (s : State) : State :=
  let s := quarterRound s 0 4 8 12
  let s := quarterRound s 1 5 9 13
  let s := quarterRound s 2 6 10 14
  let s := quarterRound s 3 7 11 15
  let s := quarterRound s 0 5 10 15
  let s := quarterRound s 1 6 11 12
  let s := quarterRound s 2 7 8 13
  quarterRound s 3 4 9 14

def doubleRounds : (count : Nat) → State → State
  | 0, s => s
  | count + 1, s => doubleRounds count (doubleRound s)

abbrev Key := Vector UInt32 8

def constants : Vector UInt32 4 := #v[0x61707865, 0x3320646e, 0x79622d32, 0x6b206574]

def counterWords (counter : Nat) : Vector UInt32 4 :=
  #v[UInt32.ofNat counter, UInt32.ofNat (counter >>> 32), 0, 0]

def initial (key : Key) (counter : Nat) : State := constants ++ key ++ counterWords counter

def block (key : Key) (counter : Nat) : State :=
  let start := initial key counter
  Vector.zipWith (· + ·) (doubleRounds 6 start) start

def word (key : Key) (position : Nat) : UInt32 :=
  (block key (position / 16))[position % 16]

def doubleWord (key : Key) (position : Nat) : Nat :=
  (word key position).toNat + (word key (position + 1)).toNat <<< 32

theorem halves_lt {low high : Nat} (lowBound : low < 0x100000000) (highBound : high < 0x100000000) :
    low + high <<< 32 < 1 <<< 64 := by
  omega

theorem doubleWord_lt (key : Key) (position : Nat) : doubleWord key position < 1 <<< 64 :=
  halves_lt (word key position).toNat_lt (word key (position + 1)).toNat_lt

end Stream

structure Generator where
  key : Stream.Key
  position : Nat
deriving DecidableEq

namespace Generator

def seedStep (state : UInt64) : UInt64 := state * 6364136223846793005 + 11634580027462260723

def seedWord (state : UInt64) : UInt32 :=
  let mixed := (((state >>> 18) ^^^ state) >>> 27).toUInt32
  let count := (state >>> 59).toUInt32
  mixed >>> count ||| mixed <<< ((32 - count) % 32)

def seedStates : (count : Nat) → UInt64 → List UInt64
  | 0, _ => []
  | count + 1, state => seedStep state :: seedStates count (seedStep state)

def keyOf (words : List UInt32) : Stream.Key := Vector.ofFn fun i => words.getD i 0

def ofSeed (seed : UInt64) : Generator := ⟨keyOf ((seedStates 8 seed).map seedWord), 0⟩

def ofOctets (octets : Bytes) : Generator :=
  ⟨keyOf ((List.range 8).map fun i =>
    UInt32.ofNat (Bytes.ofLittleEndian ((octets.drop (4 * i)).take 4))), 0⟩

def next (g : Generator) : Nat × Generator :=
  (Stream.doubleWord g.key g.position, { g with position := g.position + 2 })

def zone (limit : Nat) : Nat := limit <<< (63 - limit.log2) - 1

-- Draws below a limit by multiplying: the high half of a draw times the limit counts if the
-- low half lies in the zone. Draws outside the zone are used up and thrown away.
def drawFrom (limit : Nat) : (draws : Nat) → Generator → Nat × Generator
  | 0, g => (0, g)
  | draws + 1, g =>
    let (draw, g) := g.next
    let product := draw * limit
    if product % (1 <<< 64) ≤ zone limit then (product >>> 64, g) else drawFrom limit draws g

-- Draws in one period of the stream: 2^64 blocks of eight draws. If none of them is kept, no
-- later one would be.
def period : Nat := 1 <<< 67

def below (limit : Nat) (g : Generator) : Nat × Generator := drawFrom limit period g

theorem next_lt (g : Generator) : g.next.1 < 1 <<< 64 :=
  Stream.doubleWord_lt g.key g.position

theorem drawFrom_lt {limit : Nat} (positive : 0 < limit) (draws : Nat) (g : Generator) :
    (drawFrom limit draws g).1 < limit := by
  induction draws generalizing g with
  | zero => exact positive
  | succ draws ih =>
    simp only [drawFrom]
    split
    · have bound := Nat.mul_lt_mul_of_pos_right (next_lt g) positive
      rw [Nat.one_shiftLeft] at bound
      rw [Nat.shiftRight_eq_div_pow]
      exact Nat.div_lt_of_lt_mul bound
    · exact ih _

theorem below_lt {limit : Nat} (positive : 0 < limit) (g : Generator) :
    (g.below limit).1 < limit :=
  drawFrom_lt positive _ g

end Generator
end AddressPool
