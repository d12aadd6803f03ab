import CustodyBridge.Bytes.Basic

/-!
# Keccak-256

The hash that names proposals: the Keccak sponge with a rate of 136 bytes and the padding byte 1.
-/

namespace CustodyBridge.Keccak256

/-! ## The permutation

A state is a 5 × 5 square of lanes, the lane of column `x` and row `y` at position `x + 5 * y`.
-/

/-- 25 lanes, row by row. -/
abbrev State := List UInt64

/-- The lane of a column and a row, both of which wrap around. -/
def State.lane (s : State) (x y : Nat) : UInt64 := s.getD (x % 5 + 5 * (y % 5)) 0

/-- The state with `lane x y` in column `x` and row `y`. -/
def State.ofLanes (lane : Nat → Nat → UInt64) : State :=
  (List.range 25).map fun i => lane (i % 5) (i / 5)

def State.zero : State := State.ofLanes fun _ _ => 0

def rotateLeft (x k : UInt64) : UInt64 := if k = 0 then x else x <<< k ||| x >>> (64 - k)

def rotations : List UInt64 := [
  0, 1, 62, 28, 27,
  36, 44, 6, 55, 20,
  3, 10, 43, 25, 39,
  41, 45, 15, 21, 8,
  18, 2, 61, 56, 14]

def roundConstants : List UInt64 := [
  0x0000000000000001, 0x0000000000008082, 0x800000000000808a, 0x8000000080008000,
  0x000000000000808b, 0x0000000080000001, 0x8000000080008081, 0x8000000000008009,
  0x000000000000008a, 0x0000000000000088, 0x0000000080008009, 0x000000008000000a,
  0x000000008000808b, 0x800000000000008b, 0x8000000000008089, 0x8000000000008003,
  0x8000000000008002, 0x8000000000000080, 0x000000000000800a, 0x800000008000000a,
  0x8000000080008081, 0x8000000000008080, 0x0000000080000001, 0x8000000080008008]

/-- The sum of a column, bit by bit. -/
def parity (s : State) (x : Nat) : UInt64 :=
  s.lane x 0 ^^^ s.lane x 1 ^^^ s.lane x 2 ^^^ s.lane x 3 ^^^ s.lane x 4

/-- Adds to each lane the parities of two neighbouring columns. -/
def theta (s : State) : State :=
  let parities := (List.range 5).map (parity s)
  let column := fun x => parities.getD (x % 5) 0
  let delta := (List.range 5).map fun x => column (x + 4) ^^^ rotateLeft (column (x + 1)) 1
  State.ofLanes fun x y => s.lane x y ^^^ delta.getD x 0

/-- Rotates each lane, and moves the lane at `(x, y)` to `(y, 2 * x + 3 * y)`. -/
def rhoPi (s : State) : State :=
  let rotated := (s.zip rotations).map fun (lane, k) => rotateLeft lane k
  State.ofLanes fun x y => State.lane rotated (x + 3 * y) x

/-- Mixes each lane with the next two of its row. -/
def chi (s : State) : State :=
  State.ofLanes fun x y => s.lane x y ^^^ (~~~s.lane (x + 1) y &&& s.lane (x + 2) y)

/-- Mixes the constant of a round into the first lane. -/
def iota (constant : UInt64) : State → State
  | [] => []
  | lane :: rest => (lane ^^^ constant) :: rest

def round (s : State) (constant : UInt64) : State := iota constant (chi (rhoPi (theta s)))

def permute (s : State) : State := roundConstants.foldl round s

/-! ## The sponge -/

/-- The bytes of a block. -/
def rate : Nat := 136

/-- The number that eight bytes denote, least significant byte first. -/
def lane (bytes : Bytes) : UInt64 := UInt64.ofNat (Bytes.toNat bytes.reverse)

def lanesOf : Bytes → List UInt64
  | a :: b :: c :: d :: e :: f :: g :: h :: rest => lane [a, b, c, d, e, f, g, h] :: lanesOf rest
  | _ => []

/-- Mixes a block into the first lanes, and permutes them all. -/
def absorb (s : State) (block : Bytes) : State :=
  let lanes := lanesOf block
  permute ((s.take lanes.length).zipWith (· ^^^ ·) lanes ++ s.drop lanes.length)

/-- A message, a one bit, zero bits, and a one bit at the end of a block. -/
def pad (message : Bytes) : Bytes :=
  let free := rate - message.length % rate
  if free = 1 then message ++ [0x81]
  else message ++ 0x01 :: List.replicate (free - 2) 0 ++ [0x80]

/-- The first `count` blocks of a padded message. -/
def absorbBlocks : Nat → Bytes → State → State
  | 0, _, s => s
  | count + 1, bytes, s => absorbBlocks count (bytes.drop rate) (absorb s (bytes.take rate))

end CustodyBridge.Keccak256

namespace CustodyBridge

/-- The first four lanes behind all blocks, each with its least byte first. -/
def keccak256 (message : Bytes) : Bytes32 :=
  let padded := Keccak256.pad message
  let state := Keccak256.absorbBlocks (padded.length / Keccak256.rate) padded Keccak256.State.zero
  ⟨([0, 1, 2, 3] : List Nat).flatMap fun x => (Bytes.ofNat 8 (state.lane x 0).toNat).reverse, by
    simp⟩

end CustodyBridge
