import CustodyBridge.Derivation
import CustodyBridge.SortedMap.Basic

/-!
# Access sets

An operation says beforehand which accounts it reads and which it writes.
-/

namespace CustodyBridge

/-- How an account is declared. -/
inductive Access where
  | read
  | write
deriving DecidableEq

/-- The accounts that an operation touches, each with the strongest access declared for it. -/
structure AccessSet where
  accounts : SortedMap Address Access
deriving DecidableEq

namespace AccessSet

def empty : AccessSet := ⟨SortedMap.empty⟩

def access? (s : AccessSet) (a : Address) : Option Access := s.accounts.get? a

/-- To declare an account for reading changes nothing if it is declared already. -/
def declare (s : AccessSet) (access : Access) (a : Address) : AccessSet :=
  match access, s.access? a with
  | .read, some _ => s
  | _, _ => ⟨s.accounts.insert a access⟩

def read (s : AccessSet) (a : Account) : AccessSet := s.declare .read a.address

def write (s : AccessSet) (a : Account) : AccessSet := s.declare .write a.address

def size (s : AccessSet) : Nat := s.accounts.size

def isEmpty (s : AccessSet) : Bool := s.accounts.isEmpty

/-! ## Keys -/

/-- The account that a storage key belongs to: its last 32 bytes, if it has as many. -/
def accountOf? (key : Bytes) : Option Address :=
  if key.length < 32 then none else Bytes32.ofBytes? (key.drop (key.length - 32))

/-- Whether the account of a key is declared for writing. -/
def permitsWrite (s : AccessSet) (key : Bytes) : Bool :=
  (accountOf? key).any fun a => s.access? a = some .write

end AccessSet

end CustodyBridge
