import CustodyBridge.Ledger.Program

/-!
# The store

An ordered map from byte strings to values. A program may run on it directly.
-/

namespace CustodyBridge

/-- Values by their keys, in the order of the keys. -/
abbrev Store (ν : Type) := SortedMap Bytes ν

namespace Store

variable {ν : Type}

def inOrder {α : Type} (order : Order) (entries : List α) : List α :=
  match order with
  | .ascending => entries
  | .descending => entries.reverse

/-- The answer to an access, and the store behind it. -/
def perform : (op : Op ν) → Store ν → op.Answer × Store ν
  | .get key, s => (s.get? key, s)
  | .range start stop order, s => (inOrder order (SortedMap.range s start stop), s)
  | .set key value, s => ((), s.insert key value)
  | .remove key, s => ((), s.erase key)

end Store

/-- Runs on a store itself: every access takes effect at once, and a failure undoes none. -/
def Program.runOn {ν ε α : Type} (p : Program ν ε α) (s : Store ν) : Program.Run ε α (Store ν) :=
  p.run (fun op t => .ok (Store.perform op t)) s

end CustodyBridge
