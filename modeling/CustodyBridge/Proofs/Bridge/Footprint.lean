import CustodyBridge.Proofs.Bridge.Run
import CustodyBridge.Proofs.Ledger.Footprint

/-!
# What a call depends on

A call declares the accounts that it touches. How it ends and what it stages depends on what these
hold, and it changes no account that it has not declared for writing.
-/

namespace CustodyBridge

theorem AccessSet.agree_put {ρ : Type} [Record ρ] {access : AccessSet} {l : Ledger} {a : Address}
    {r : ρ} (h : ¬ access.Declares a) : access.Agree l (l.put a r) := by
  intro t b hb
  rw [Ledger.put, SortedMap.get?_insert_of_ne]
  intro hkey
  exact h ((Table.key_inj.1 hkey).2 ▸ hb)

namespace Call

/-- The accounts that a call declares. A call that has no operation declares none. -/
def access (env : Environment) (c : Call) : AccessSet :=
  match c.operation env with
  | .ok op => op.access
  | .error _ => .empty

/-- The changes that a call has staged when its handler ends. -/
def staged (env : Environment) (c : Call) (l : Ledger) : SortedMap Bytes (Option String) :=
  match c.operation env with
  | .ok op => (op.program.run Transaction.perform (Transaction.start op.access l)).state.staged
  | .error _ => SortedMap.empty

variable {env : Environment} {c : Call} {l l' : Ledger} {op : Operation Receipt}

/-! ## Stages of an operation -/

theorem access_of_operation (hop : c.operation env = .ok op) : c.access env = op.access := by
  rw [access, hop]

theorem run_confined (hop : c.operation env = .ok op) :
    let left := (op.program.run Transaction.perform (Transaction.start op.access l)).state
    left.Confined ∧ left.access = op.access ∧ left.store = l :=
  Program.run_confined (within_of_operation hop) (Transaction.confined_start op.access l)

theorem staged_confined {key : Bytes} {change : Option String}
    (h : (c.staged env l).get? key = some change) :
    ∃ (t : Table) (a : Address), (c.access env).Writes a ∧ t.key a = key := by
  cases hop : c.operation env with
  | error e =>
    rw [staged, hop] at h
    cases h
  | ok op =>
    obtain ⟨confined, haccess, -⟩ := run_confined (l := l) hop
    rw [staged, hop] at h
    rw [access_of_operation hop, ← haccess]
    exact confined key change h

theorem state_eq_applyAll {r : Receipt} (h : (c.perform env l).outcome = .ok r) :
    (c.perform env l).state = Transaction.applyAll l (c.staged env l).entries := by
  cases hop : c.operation env with
  | error e => simp [perform, hop] at h
  | ok op =>
    obtain ⟨-, -, hstore⟩ := run_confined (l := l) hop
    simp only [perform, staged, hop, Operation.transact, Program.transact] at h ⊢
    cases hr : (op.program.run Transaction.perform (Transaction.start op.access l)).outcome with
    | ok => simp [Transaction.commit, hstore]
    | error | panic => simp [hr] at h

theorem get?_of_not_writes {t : Table} {a : Address} (h : ¬ (c.access env).Writes a) :
    SortedMap.get? (c.perform env l).state (t.key a) = SortedMap.get? l (t.key a) := by
  by_cases hok : ∃ r, (c.perform env l).outcome = .ok r
  · obtain ⟨r, hr⟩ := hok
    rw [state_eq_applyAll hr, Transaction.get?_applyAll]
    cases hget : (c.staged env l).get? (t.key a) with
    | none => rfl
    | some change =>
      obtain ⟨u, b, hb, hkey⟩ := staged_confined hget
      exact absurd ((Table.key_inj.1 hkey).2 ▸ hb) h
  · rw [state_of_failure fun r hr => hok ⟨r, hr⟩]

theorem panic_of_perform {cause : Panic} (h : (c.perform env l).outcome = .panic cause) :
    cause = .subtraction := by
  cases hop : c.operation env with
  | error e => simp [perform, hop] at h
  | ok op =>
    simp only [perform, hop, Operation.transact, Program.transact] at h
    cases hr : (op.program.run Transaction.perform (Transaction.start op.access l)).outcome with
    | panic =>
      simp only [hr, Outcome.panic.injEq] at h
      subst h
      exact Program.panic_of_run (within_of_operation hop) hr
    | ok | error => simp [hr] at h

/-! ## Ledgers that agree -/

theorem perform_agree (agree : (c.access env).Agree l l') :
    (c.perform env l').outcome = (c.perform env l).outcome ∧
      (c.perform env l').events = (c.perform env l).events ∧
      c.staged env l' = c.staged env l := by
  cases hop : c.operation env with
  | error e => simp [perform, staged, hop]
  | ok op =>
    rw [access_of_operation hop] at agree
    have within : op.program.Within (Transaction.start op.access l).access :=
      within_of_operation hop
    have hrun := Program.run_rebase within agree
    rw [Transaction.rebase_start] at hrun
    simp only [perform, staged, hop, Operation.transact, Program.transact, hrun]
    cases (op.program.run Transaction.perform (Transaction.start op.access l)).outcome <;>
      exact ⟨rfl, rfl, rfl⟩

/-- On ledgers that agree on what a call declares, it ends, reports and stages alike. What it
stages belongs to accounts that it declares for writing, and the others hold what they held. -/
theorem access_sound (agree : (c.access env).Agree l l') :
    ((c.perform env l').outcome = (c.perform env l).outcome ∧
      (c.perform env l').events = (c.perform env l).events ∧
      c.staged env l' = c.staged env l) ∧
    (∀ key change, (c.staged env l).get? key = some change →
      ∃ (t : Table) (a : Address), (c.access env).Writes a ∧ t.key a = key) ∧
    (∀ r, (c.perform env l).outcome = .ok r →
      (c.perform env l).state = Transaction.applyAll l (c.staged env l).entries) ∧
    (∀ (t : Table) (a : Address), ¬ (c.access env).Writes a →
      SortedMap.get? (c.perform env l).state (t.key a) = SortedMap.get? l (t.key a)) ∧
    (c.perform env l).outcome ≠ .panic .undeclaredWrite ∧
    (c.perform env l).outcome ≠ .panic .undeclaredRemove := by
  refine ⟨perform_agree agree, fun _ _ => staged_confined, fun _ => state_eq_applyAll,
    fun _ _ => get?_of_not_writes, fun h => ?_, fun h => ?_⟩
  · cases panic_of_perform h
  · cases panic_of_perform h

theorem access_sound_sample :
    let c : Call := .propose Sample.sender Sample.request
    let other := Sample.related.put Sample.positionAccount.address
      (Position.opened Sample.mint Sample.recipient)
    (c.access .small).Agree Sample.related other ∧
      (c.perform .small other).outcome = (c.perform .small Sample.related).outcome := by
  intro c other
  have agree : (c.access .small).Agree Sample.related other := by
    refine AccessSet.agree_put ?_
    rw [access_of_operation Sample.operation_propose]
    simp only [Sample.proposing, Operation.map, ProposalAccounts.access,
      AccessSet.declares_write, AccessSet.declares_read, AccessSet.declares_empty]
    decide
  exact ⟨agree, (access_sound agree).1.1⟩

end Call

end CustodyBridge
