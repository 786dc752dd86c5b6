/-!
# SHA-256

The digest of FIPS 180-4 over bytes. A message is padded to whole blocks of sixty-four bytes; each
block is expanded to sixty-four words, and as many rounds mix them into eight words of state.
-/

namespace MeshControl.Sha256

/-- The eight words of the chaining state. -/
structure State where
  a : UInt32
  b : UInt32
  c : UInt32
  d : UInt32
  e : UInt32
  f : UInt32
  g : UInt32
  h : UInt32
  deriving DecidableEq, Repr, Inhabited

/-- The first thirty-two bits of the fractions of the square roots of the first eight primes. -/
def initial : State :=
  ⟨0x6a09e667, 0xbb67ae85, 0x3c6ef372, 0xa54ff53a, 0x510e527f, 0x9b05688c, 0x1f83d9ab, 0x5be0cd19⟩

/-- The first thirty-two bits of the fractions of the cube roots of the first sixty-four primes. -/
def roundConstants : List UInt32 :=
  [0x428a2f98, 0x71374491, 0xb5c0fbcf, 0xe9b5dba5, 0x3956c25b, 0x59f111f1, 0x923f82a4, 0xab1c5ed5,
   0xd807aa98, 0x12835b01, 0x243185be, 0x550c7dc3, 0x72be5d74, 0x80deb1fe, 0x9bdc06a7, 0xc19bf174,
   0xe49b69c1, 0xefbe4786, 0x0fc19dc6, 0x240ca1cc, 0x2de92c6f, 0x4a7484aa, 0x5cb0a9dc, 0x76f988da,
   0x983e5152, 0xa831c66d, 0xb00327c8, 0xbf597fc7, 0xc6e00bf3, 0xd5a79147, 0x06ca6351, 0x14292967,
   0x27b70a85, 0x2e1b2138, 0x4d2c6dfc, 0x53380d13, 0x650a7354, 0x766a0abb, 0x81c2c92e, 0x92722c85,
   0xa2bfe8a1, 0xa81a664b, 0xc24b8b70, 0xc76c51a3, 0xd192e819, 0xd6990624, 0xf40e3585, 0x106aa070,
   0x19a4c116, 0x1e376c08, 0x2748774c, 0x34b0bcb5, 0x391c0cb3, 0x4ed8aa4a, 0x5b9cca4f, 0x682e6ff3,
   0x748f82ee, 0x78a5636f, 0x84c87814, 0x8cc70208, 0x90befffa, 0xa4506ceb, 0xbef9a3f7, 0xc67178f2]

/-- Rotates a word to the right; the amount lies strictly between zero and thirty-two. -/
def rotate (word amount : UInt32) : UInt32 := (word >>> amount) ||| (word <<< (32 - amount))

/-- The bytes of a number, most significant first. -/
def bigEndian (count number : Nat) : List UInt8 :=
  (List.range count).map fun index => .ofNat (number / Nat.pow 256 (count - 1 - index))

/-- The word that four bytes write, most significant first. -/
def word (first second third fourth : UInt8) : UInt32 :=
  (first.toUInt32 <<< 24) ||| (second.toUInt32 <<< 16) ||| (third.toUInt32 <<< 8) ||| fourth.toUInt32

/-- The words of bytes taken four at a time; a rest of fewer than four is dropped. -/
def words : List UInt8 → List UInt32
  | first :: second :: third :: fourth :: rest => word first second third fourth :: words rest
  | _ => []

/-- The message, a one bit, as few zero bits as possible, and the length in bits, which end a block. -/
def pad (message : List UInt8) : List UInt8 :=
  let zeros := (119 - message.length % 64) % 64
  message ++ 0x80 :: List.replicate zeros 0 ++ bigEndian 8 (8 * message.length)

/-- One word more for a schedule held with its latest word first. -/
def extend (schedule : List UInt32) : List UInt32 :=
  let before (distance : Nat) := schedule.getD (distance - 1) 0
  let low := before 15
  let high := before 2
  let next := before 16 + (rotate low 7 ^^^ rotate low 18 ^^^ (low >>> 3)) + before 7 +
    (rotate high 17 ^^^ rotate high 19 ^^^ (high >>> 10))
  next :: schedule

/-- The sixty-four words for a block of sixteen. -/
def schedule (block : List UInt32) : List UInt32 :=
  (Nat.repeat extend 48 block.reverse).reverse

/-- One round, with its word and its constant added together. -/
def round (state : State) (input : UInt32) : State :=
  let choice := (state.e &&& state.f) ^^^ (~~~state.e &&& state.g)
  let majority := (state.a &&& state.b) ^^^ (state.a &&& state.c) ^^^ (state.b &&& state.c)
  let first := state.h + (rotate state.e 6 ^^^ rotate state.e 11 ^^^ rotate state.e 25) + choice + input
  let second := (rotate state.a 2 ^^^ rotate state.a 13 ^^^ rotate state.a 22) + majority
  ⟨first + second, state.a, state.b, state.c, state.d + first, state.e, state.f, state.g⟩

/-- Mixes a block of sixteen words into the state. -/
def compress (state : State) (block : List UInt32) : State :=
  let mixed := (List.zipWith (· + ·) (schedule block) roundConstants).foldl round state
  ⟨state.a + mixed.a, state.b + mixed.b, state.c + mixed.c, state.d + mixed.d, state.e + mixed.e,
    state.f + mixed.f, state.g + mixed.g, state.h + mixed.h⟩

/-- Mixes a number of blocks into the state, sixteen words each. -/
def absorb : Nat → List UInt32 → State → State
  | 0, _, state => state
  | blocks + 1, input, state => absorb blocks (input.drop 16) (compress state (input.take 16))

/-- The digest of some bytes, as eight words. -/
def digest (message : List UInt8) : State :=
  let input := words (pad message)
  absorb (input.length / 16) input initial

end MeshControl.Sha256
