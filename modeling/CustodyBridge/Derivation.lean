import CustodyBridge.Address
import CustodyBridge.Curve.Ed25519
import CustodyBridge.Digest.Sha256

/-!
# Derived addresses

A program's account address is the hash of seeds, a bump byte, the program and a fixed marker. A
hash that is a point of the curve could be somebody's key, so the greatest bump whose hash is not
one is taken. The hash and the curve are parameters.
-/

namespace CustodyBridge

/-- A derived address and the bump that led to it. -/
structure Account where
  address : Address
  bump : UInt8
deriving DecidableEq

/-- Why seeds do not lead to an address. -/
inductive SeedError where
  | tooMany (count limit : Nat)
  | tooLong (length : Nat)
  | onCurve
  | emptyTag
  | empty
deriving DecidableEq

def SeedError.message : SeedError → String
  | .tooMany count limit => s!"{count} seeds exceed the maximum of {limit}"
  | .tooLong length => s!"seed of {length} bytes exceeds 32"
  | .onCurve => "derived address lies on the ed25519 curve"
  | .emptyTag => "namespace tag must not be empty"
  | .empty => "seeds must not be empty"

/-- Why a search does not end in an account. -/
inductive DerivationError where
  | seed (cause : SeedError)
  | noBump
deriving DecidableEq

/-- A hash, and the curve whose points are no addresses of accounts. -/
structure AddressScheme where
  digest : Bytes → Address
  onCurve : Address → Bool

namespace AddressScheme

/-- SHA-256 and ed25519. -/
def standard : AddressScheme := ⟨sha256, Ed25519.isPoint⟩

/-- The bump is one of the seeds. -/
def maxSeeds : Nat := 16

def maxSeedLength : Nat := 32

def marker : Bytes := Bytes.ofText "ProgramDerivedAddress"

/-! ## Candidates -/

/-- What is hashed to an address: the seeds in a row, the program, and the marker. -/
def preimage (seeds : List Bytes) (program : Address) : Bytes :=
  seeds.flatten ++ program.bytes ++ marker

/-- The seeds' hash, unless it lies on the curve. -/
def candidate? (s : AddressScheme) (seeds : List Bytes) (program : Address) : Option Address :=
  let address := s.digest (preimage seeds program)
  if s.onCurve address then none else some address

/-- Too many seeds are reported before a seed that is too long. -/
def checkSeeds (limit : Nat) (seeds : List Bytes) : Except DerivationError Unit :=
  if limit < seeds.length then .error (.seed (.tooMany seeds.length limit))
  else
    match seeds.find? fun seed => maxSeedLength < seed.length with
    | some seed => .error (.seed (.tooLong seed.length))
    | none => .ok ()

/-- The address of seeds that already hold the bump. -/
def create (s : AddressScheme) (seeds : List Bytes) (program : Address) :
    Except DerivationError Address := do
  checkSeeds maxSeeds seeds
  match s.candidate? seeds program with
  | some address => return address
  | none => .error (.seed .onCurve)

/-! ## Search for the bump -/

def bumpSeed (bump : Nat) : Bytes := [UInt8.ofNat bump]

/-- The first bump that works, counting down to 1. -/
def search (s : AddressScheme) (seeds : List Bytes) (program : Address) : Nat → Option Account
  | 0 => none
  | bump + 1 =>
    match s.candidate? (seeds ++ [bumpSeed (bump + 1)]) program with
    | some address => some ⟨address, UInt8.ofNat (bump + 1)⟩
    | none => s.search seeds program bump

/-- The account of the greatest bump that leads to one. The seeds leave room for the bump. -/
def find (s : AddressScheme) (seeds : List Bytes) (program : Address) :
    Except DerivationError Account := do
  checkSeeds (maxSeeds - 1) seeds
  match s.search seeds program 255 with
  | some account => return account
  | none => .error .noBump

/-- The account of nonempty seeds. -/
def deriveUntagged (s : AddressScheme) (owner : Address) (seeds : List Bytes) :
    Except DerivationError Account :=
  if seeds.any List.isEmpty then .error (.seed .empty) else s.find seeds owner

/-- The account of seeds in the namespace of a tag, which comes after them. -/
def derive (s : AddressScheme) (owner : Address) (tag : Bytes) (seeds : List Bytes) :
    Except DerivationError Account :=
  if tag.isEmpty then .error (.seed .emptyTag) else s.deriveUntagged owner (seeds ++ [tag])

end AddressScheme

end CustodyBridge
