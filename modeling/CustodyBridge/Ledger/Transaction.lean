import CustodyBridge.Ledger.Access
import CustodyBridge.Ledger.Store

/-!
# Transactions

A transaction gathers writes over a store that it leaves alone. It answers as if they had taken
effect, allows only those to accounts declared writable, and in the end commits all or none.
-/

namespace CustodyBridge

/-- A store, with changes that are not made in it yet. -/
structure Transaction (ν : Type) where
  store : Store ν
  access : AccessSet
  /-- What each touched key is to hold, or nothing if the key is to go. -/
  staged : SortedMap Bytes (Option ν)

namespace Transaction

variable {ν : Type}

def start (access : AccessSet) (store : Store ν) : Transaction ν :=
  ⟨store, access, SortedMap.empty⟩

/-! ## Staged changes -/

def applyOne (s : Store ν) (change : Bytes × Option ν) : Store ν :=
  match change.2 with
  | some value => s.insert change.1 value
  | none => s.erase change.1

def applyAll (s : Store ν) (changes : List (Bytes × Option ν)) : Store ν :=
  changes.foldl applyOne s

/-- The store with the staged changes made. -/
def commit (tx : Transaction ν) : Store ν := applyAll tx.store tx.staged.entries

/-! ## Accesses -/

/-- What is staged for a key hides what the store holds. -/
def get (tx : Transaction ν) (key : Bytes) : Option ν :=
  match tx.staged.get? key with
  | some change => change
  | none => tx.store.get? key

/-- The part of the store in an interval, with the changes staged in that interval. -/
def range (tx : Transaction ν) (start stop : Option Bytes) : List (Bytes × ν) :=
  (applyAll (tx.store.filter fun e => SortedMap.inRange start stop e.1)
    (tx.staged.range start stop)).entries

def stage (tx : Transaction ν) (key : Bytes) (change : Option ν) : Transaction ν :=
  { tx with staged := tx.staged.insert key change }

/-- A change of an account that is not declared for writing is refused. -/
def perform : (op : Op ν) → Transaction ν → Except Panic (op.Answer × Transaction ν)
  | .get key, tx => .ok (tx.get key, tx)
  | .range start stop order, tx => .ok (Store.inOrder order (tx.range start stop), tx)
  | .set key value, tx =>
    if tx.access.permitsWrite key then .ok ((), tx.stage key (some value))
    else .error .undeclaredWrite
  | .remove key, tx =>
    if tx.access.permitsWrite key then .ok ((), tx.stage key none)
    else .error .undeclaredRemove

end Transaction

/-! ## Running -/

namespace Program

variable {ν ε α : Type}

/-- Commits what a program staged if it succeeds, and reports how the transaction ended. -/
def transact (p : Program ν ε α) (access : AccessSet) (s : Store ν) : Run ε α (Store ν) :=
  let r := p.run Transaction.perform (Transaction.start access s)
  match r.outcome with
  | .ok a =>
    ⟨.ok a, r.state.commit,
      r.events ++ [.transactionCommitted access.size r.state.staged.size]⟩
  | .error e =>
    ⟨.error e, s, r.events ++ [.transactionRolledBack access.size r.state.staged.size]⟩
  | .panic p => ⟨.panic p, s, r.events⟩

/-- Reads the committed store. -/
def query (p : Program ν ε α) (s : Store ν) : Outcome ε α := (p.runOn s).outcome

end Program

end CustodyBridge
