import CustodyBridge.Ledger.Access

/-!
# Lock table

Access sets are locked as a whole: an account has any number of readers or one writer.
-/

namespace CustodyBridge

/-- The readers of an account, and whether it has a writer. -/
structure LockState where
  readers : Nat
  writer : Bool
deriving DecidableEq

/-- The accounts that are locked, and how. -/
structure LockTable where
  held : SortedMap Address LockState
deriving DecidableEq

namespace LockState

def free : LockState := ⟨0, false⟩

/-- A reader may join readers, a writer must be alone. -/
def admits (s : LockState) : Access → Bool
  | .read => !s.writer
  | .write => !s.writer && s.readers == 0

def acquire (s : LockState) : Access → LockState
  | .read => ⟨s.readers + 1, s.writer⟩
  | .write => ⟨s.readers, true⟩

def release (s : LockState) : Access → LockState
  | .read => ⟨s.readers - 1, s.writer⟩
  | .write => ⟨s.readers, false⟩

end LockState

namespace LockTable

def empty : LockTable := ⟨SortedMap.empty⟩

/-- Whether a whole set can be locked now. -/
def available (t : LockTable) (set : AccessSet) : Bool :=
  set.accounts.entries.all fun (a, access) => (t.held.get? a).all (·.admits access)

def acquireOne (t : LockTable) (entry : Address × Access) : LockTable :=
  ⟨t.held.insert entry.1 (((t.held.get? entry.1).getD .free).acquire entry.2)⟩

/-- Locks a whole set. Whether it is available is asked before. -/
def acquire (t : LockTable) (set : AccessSet) : LockTable :=
  set.accounts.entries.foldl acquireOne t

/-- Gives back one account. An account that is free has no entry. -/
def releaseOne (t : LockTable) (entry : Address × Access) : LockTable :=
  match t.held.get? entry.1 with
  | none => t
  | some state =>
    let left := state.release entry.2
    if left = .free then ⟨t.held.erase entry.1⟩ else ⟨t.held.insert entry.1 left⟩

def release (t : LockTable) (set : AccessSet) : LockTable :=
  set.accounts.entries.foldl releaseOne t

end LockTable

end CustodyBridge
