import CustodyBridge.Bytes.Basic

/-!
# SHA-256

The hash that candidate account addresses are taken from.
-/

namespace CustodyBridge.Sha256

/-! ## Words -/

def rotateRight (x k : UInt32) : UInt32 := x >>> k ||| x <<< (32 - k)

/-- The bits of `y` where those of `x` are set, and the bits of `z` elsewhere. -/
def choose (x y z : UInt32) : UInt32 := (x &&& y) ^^^ (~~~x &&& z)

/-- The bits that at least two of three words have. -/
def majority (x y z : UInt32) : UInt32 := (x &&& y) ^^^ (x &&& z) ^^^ (y &&& z)

def sumA (x : UInt32) : UInt32 := rotateRight x 2 ^^^ rotateRight x 13 ^^^ rotateRight x 22

def sumE (x : UInt32) : UInt32 := rotateRight x 6 ^^^ rotateRight x 11 ^^^ rotateRight x 25

def spread0 (x : UInt32) : UInt32 := rotateRight x 7 ^^^ rotateRight x 18 ^^^ x >>> 3

def spread1 (x : UInt32) : UInt32 := rotateRight x 17 ^^^ rotateRight x 19 ^^^ x >>> 10

/-- The first 32 bits of the fractional parts of the cube roots of the first 64 primes. -/
def roundConstants : List UInt32 := [
  0x428a2f98, 0x71374491, 0xb5c0fbcf, 0xe9b5dba5, 0x3956c25b, 0x59f111f1,
  0x923f82a4, 0xab1c5ed5, 0xd807aa98, 0x12835b01, 0x243185be, 0x550c7dc3,
  0x72be5d74, 0x80deb1fe, 0x9bdc06a7, 0xc19bf174, 0xe49b69c1, 0xefbe4786,
  0x0fc19dc6, 0x240ca1cc, 0x2de92c6f, 0x4a7484aa, 0x5cb0a9dc, 0x76f988da,
  0x983e5152, 0xa831c66d, 0xb00327c8, 0xbf597fc7, 0xc6e00bf3, 0xd5a79147,
  0x06ca6351, 0x14292967, 0x27b70a85, 0x2e1b2138, 0x4d2c6dfc, 0x53380d13,
  0x650a7354, 0x766a0abb, 0x81c2c92e, 0x92722c85, 0xa2bfe8a1, 0xa81a664b,
  0xc24b8b70, 0xc76c51a3, 0xd192e819, 0xd6990624, 0xf40e3585, 0x106aa070,
  0x19a4c116, 0x1e376c08, 0x2748774c, 0x34b0bcb5, 0x391c0cb3, 0x4ed8aa4a,
  0x5b9cca4f, 0x682e6ff3, 0x748f82ee, 0x78a5636f, 0x84c87814, 0x8cc70208,
  0x90befffa, 0xa4506ceb, 0xbef9a3f7, 0xc67178f2]

/-! ## State -/

/-- The words that a round moves on by one place. -/
structure State where
  (a b c d e f g h : UInt32)

/-- The first 32 bits of the fractional parts of the square roots of the first 8 primes. -/
def State.initial : State :=
  ⟨0x6a09e667, 0xbb67ae85, 0x3c6ef372, 0xa54ff53a,
    0x510e527f, 0x9b05688c, 0x1f83d9ab, 0x5be0cd19⟩

def State.round (s : State) (k w : UInt32) : State :=
  let t1 := s.h + sumE s.e + choose s.e s.f s.g + k + w
  let t2 := sumA s.a + majority s.a s.b s.c
  ⟨t1 + t2, s.a, s.b, s.c, s.d + t1, s.e, s.f, s.g⟩

def State.add (s t : State) : State :=
  ⟨s.a + t.a, s.b + t.b, s.c + t.c, s.d + t.d, s.e + t.e, s.f + t.f, s.g + t.g, s.h + t.h⟩

def State.words (s : State) : List UInt32 := [s.a, s.b, s.c, s.d, s.e, s.f, s.g, s.h]

/-! ## Blocks -/

/-- Sixteen consecutive words of a message schedule. -/
abbrev Window := List UInt32

/-- The window one word further on. -/
def Window.slide (w : Window) : Window :=
  w.drop 1 ++ [spread1 (w.getD 14 0) + w.getD 9 0 + spread0 (w.getD 1 0) + w.getD 0 0]

/-- One round for each constant. The window gives the words of the schedule. -/
def rounds : List UInt32 → Window → State → State
  | [], _, s => s
  | k :: ks, w, s => rounds ks w.slide (s.round k (w.getD 0 0))

def word : Bytes → UInt32 := fun bytes => UInt32.ofNat (Bytes.toNat bytes)

def wordsOf : Bytes → List UInt32
  | a :: b :: c :: d :: rest => word [a, b, c, d] :: wordsOf rest
  | _ => []

/-- Adds to the state what the rounds of a block make of it. -/
def State.absorb (s : State) (block : Bytes) : State :=
  s.add (rounds roundConstants (wordsOf block) s)

/-! ## Messages -/

/-- A message, a one bit, zero bits up to 8 bytes before a block's end, and the bit length. -/
def pad (message : Bytes) : Bytes :=
  message ++ 0x80 :: List.replicate ((119 - message.length % 64) % 64) 0 ++
    Bytes.ofNat 8 (8 * message.length)

/-- The first `count` blocks of a padded message. -/
def absorbBlocks : Nat → Bytes → State → State
  | 0, _, s => s
  | count + 1, bytes, s => absorbBlocks count (bytes.drop 64) (s.absorb (bytes.take 64))

end CustodyBridge.Sha256

namespace CustodyBridge

/-- The words behind all blocks, each with its greatest byte first. -/
def sha256 (message : Bytes) : Bytes32 :=
  let padded := Sha256.pad message
  let state := Sha256.absorbBlocks (padded.length / 64) padded Sha256.State.initial
  ⟨state.words.flatMap fun w => Bytes.ofNat 4 w.toNat, by
    simp [Sha256.State.words]⟩

end CustodyBridge
