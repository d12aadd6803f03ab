import CustodyBridge.Proofs.Ledger.Permission

/-!
# What a transaction depends on

A program that keeps to an access set cannot tell stores apart that hold the same for the accounts
of the set, and it stages changes to the accounts alone that the set lets be written.
-/

namespace CustodyBridge

/-! ## Stores that agree -/

/-- Stores that hold the same for every account that a set declares. -/
def AccessSet.Agree {ν : Type} (access : AccessSet) (s s' : Store ν) : Prop :=
  ∀ (t : Table) (a : Address), access.Declares a →
    SortedMap.get? s (t.key a) = SortedMap.get? s' (t.key a)

namespace Transaction

variable {ν : Type} {tx left : Transaction ν} {op : Op ν} {answer : op.Answer} {s : Store ν}

/-- The same changes, staged over another store. -/
def rebase (tx : Transaction ν) (s : Store ν) : Transaction ν := { tx with store := s }

theorem rebase_start (access : AccessSet) (s s' : Store ν) :
    (start access s).rebase s' = start access s' := rfl

/-- Every staged change is one to a record of an account declared for writing. -/
def Confined (tx : Transaction ν) : Prop :=
  ∀ key change, tx.staged.get? key = some change →
    ∃ (t : Table) (a : Address), tx.access.Writes a ∧ t.key a = key

theorem confined_start (access : AccessSet) (s : Store ν) : (start access s).Confined := nofun

theorem Confined.stage {key : Bytes} {change : Option ν} (h : tx.Confined)
    (hkey : ∃ (t : Table) (a : Address), tx.access.Writes a ∧ t.key a = key) :
    (tx.stage key change).Confined := by
  intro key' change' hget
  rw [Transaction.stage, SortedMap.get?_insert] at hget
  split at hget
  · rename_i heq
    exact heq ▸ hkey
  · exact h key' change' hget

/-! ## One access -/

theorem get_rebase {t : Table} {a : Address} (agree : tx.access.Agree tx.store s)
    (h : tx.access.Declares a) : (tx.rebase s).get (t.key a) = tx.get (t.key a) := by
  unfold get rebase
  dsimp only
  rw [agree t a h]

theorem perform_rebase (within : op.Within tx.access) (agree : tx.access.Agree tx.store s) :
    perform op (tx.rebase s) = (perform op tx).map fun r => (r.1, r.2.rebase s) := by
  cases op with
  | get key =>
    obtain ⟨t, a, ha, rfl⟩ := within
    simp only [perform, get_rebase agree ha, Except.map]
  | range => exact within.elim
  | set | remove =>
    simp only [perform]
    rw [show (tx.rebase s).access = tx.access from rfl]
    split <;> rfl

theorem store_perform (h : perform op tx = .ok (answer, left)) : left.store = tx.store := by
  cases op <;> simp only [perform] at h
  case get | range => cases h; rfl
  case set | remove => split at h <;> cases h; rfl

theorem Confined.perform (confined : tx.Confined) (within : op.Within tx.access)
    (h : Transaction.perform op tx = .ok (answer, left)) : left.Confined := by
  cases op with
  | get => cases h; exact confined
  | range => exact within.elim
  | set | remove =>
    simp only [Transaction.perform] at h
    split at h <;> cases h
    exact confined.stage within

end Transaction

/-! ## Whole programs -/

namespace Program

variable {ν ε α : Type} {p : Program ν ε α} {tx : Transaction ν}

/-- Over a store that agrees on the set, a program ends, reports and stages as before. -/
theorem run_rebase {s : Store ν} (within : p.Within tx.access)
    (agree : tx.access.Agree tx.store s) :
    p.run Transaction.perform (tx.rebase s) =
      { p.run Transaction.perform tx with
        state := (p.run Transaction.perform tx).state.rebase s } := by
  induction p generalizing tx with
  | done | fail | halt => rfl
  | note event next ih => simp only [run, ih within agree]
  | access op next ih =>
    simp only [run, Transaction.perform_rebase within.1 agree]
    cases hop : Transaction.perform op tx with
    | error => rfl
    | ok r =>
      have haccess := Transaction.access_perform hop
      refine ih r.1 ?_ ?_
      · rw [haccess]
        exact within.2 r.1
      · rw [haccess, Transaction.store_perform hop]
        exact agree

theorem run_confined (within : p.Within tx.access) (confined : tx.Confined) :
    (p.run Transaction.perform tx).state.Confined ∧
      (p.run Transaction.perform tx).state.access = tx.access ∧
      (p.run Transaction.perform tx).state.store = tx.store := by
  induction p generalizing tx with
  | done | fail | halt => exact ⟨confined, rfl, rfl⟩
  | note event next ih => exact ih within confined
  | access op next ih =>
    simp only [run]
    cases hop : Transaction.perform op tx with
    | error => exact ⟨confined, rfl, rfl⟩
    | ok r =>
      have haccess := Transaction.access_perform hop
      have hrest := ih r.1 (haccess ▸ within.2 r.1) (confined.perform within.1 hop)
      rwa [haccess, Transaction.store_perform hop] at hrest

theorem panic_of_run {cause : Panic} (within : p.Within tx.access)
    (h : (p.run Transaction.perform tx).outcome = .panic cause) : cause = .subtraction := by
  induction p generalizing tx with
  | done | fail => cases h
  | halt =>
    cases h
    exact within
  | note event next ih => exact ih within h
  | access op next ih =>
    obtain ⟨answer, left, hop⟩ := perform_of_permitted (within.permitted.1)
    simp only [run, hop] at h
    exact ih answer (Transaction.access_perform hop ▸ within.2 answer) h

end Program

end CustodyBridge
