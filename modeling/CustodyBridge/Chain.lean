import CustodyBridge.Bytes.Basic

/-!
# Chains

A network is known by a one-byte family and a 64-bit number. Its key is the family's byte and the
number's eight bytes, most significant byte first.
-/

namespace CustodyBridge

/-- A chain is told by its family, and its number in the family. -/
structure Chain where
  family : UInt8
  number : UInt64
deriving DecidableEq

namespace Chain

/-! ## Key -/

/-- Nine bytes: the family, and the number with its greatest byte first. -/
def key (c : Chain) : Bytes := c.family :: Bytes.ofNat 8 c.number.toNat

@[simp] theorem length_key (c : Chain) : c.key.length = 9 := by simp [key]

/-- The chain whose key a byte string is: every string of nine bytes is one. -/
def ofKey? : Bytes → Option Chain
  | [] => none
  | family :: number =>
    if number.length = 8 then some ⟨family, UInt64.ofNat (Bytes.toNat number)⟩ else none

/-- How long a byte string is that is no key. -/
structure KeyError where
  got : Nat
deriving DecidableEq

def KeyError.message (e : KeyError) : String :=
  s!"Malformed chain id: expected 9 bytes, got {e.got}"

def ofKey (bytes : Bytes) : Except KeyError Chain :=
  match ofKey? bytes with
  | some c => .ok c
  | none => .error ⟨bytes.length⟩

/-! ## Text -/

/-- Families that have a name. The bridge itself runs on a chain of family 2. -/
def familyName? (c : Chain) : Option String :=
  match c.family with
  | 0 => some "ethereum"
  | 1 => some "tron"
  | 2 => some "solana"
  | _ => none

/-- The family stands there by its name, if it has one. -/
def text (c : Chain) : String :=
  match c.familyName? with
  | some name => s!"{name}:{c.number.toNat}"
  | none => s!"type{c.family.toNat}:{c.number.toNat}"

end Chain

end CustodyBridge
