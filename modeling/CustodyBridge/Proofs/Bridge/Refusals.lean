import CustodyBridge.Proofs.Bridge.Movements
import CustodyBridge.Proofs.Bridge.Nonces

/-!
# Refusals

Why calls fail that go through a token relation to the pool of its mint: what each of their errors
says about the records that the call has found.
-/

namespace CustodyBridge

/-! ## Accounts -/

section accounts

variable {env : Environment} {e : BridgeError}

theorem Environment.account_eq_error {p : Purpose} (h : env.account p = .error e) :
    ∃ cause, e = .derivation cause := by
  obtain ⟨cause, -, rfl⟩ := mapError_eq_error.1 h
  exact ⟨cause, rfl⟩

theorem ProposalAccounts.resolve_eq_error {chain : Chain} {token mint : Address}
    (h : resolve env chain token mint = .error e) : ∃ cause, e = .derivation cause := by
  simp only [resolve, except_bind_eq_error] at h
  rcases h with h | ⟨_, -, h | ⟨_, -, h | ⟨_, -, h | ⟨_, -, h⟩⟩⟩⟩
  iterate 4 exact Environment.account_eq_error h
  cases h

theorem TokenAccounts.resolve_eq_error {chain : Chain} {token mint : Address}
    (h : resolve env chain token mint = .error e) : ∃ cause, e = .derivation cause := by
  simp only [resolve, except_bind_eq_error] at h
  rcases h with h | ⟨_, -, h | ⟨_, -, h⟩⟩
  iterate 2 exact Environment.account_eq_error h
  cases h

theorem LiquidityAccounts.resolve_eq_error {mint provider : Address}
    (h : resolve env mint provider = .error e) : ∃ cause, e = .derivation cause := by
  simp only [resolve, except_bind_eq_error] at h
  rcases h with h | ⟨_, -, h | ⟨_, -, h⟩⟩
  iterate 2 exact Environment.account_eq_error h
  cases h

end accounts

/-! ## Pools behind relations -/

namespace Ledger

variable {env : Environment} {l : Ledger} {chain : Chain} {token mint : Address}

/-- The relation at the account of a token. -/
def relation? (env : Environment) (l : Ledger) (chain : Chain) (token : Address) :
    Option TokenRelation :=
  (env.address? (.tokenRelation chain token)).bind (l.record? TokenRelation ·)

theorem relation?_of_account {a : Account} (h : env.account (.tokenRelation chain token) = .ok a) :
    l.relation? env chain token = l.record? TokenRelation a.address := by
  rw [relation?, Environment.address?_of_account h, Option.bind_some]

end Ledger

/-- The relation and the mint that a proposal or a release goes through. -/
def Call.through? : Call → Option (Chain × Address × Address)
  | propose _ request | execute _ (.propose request) =>
    some (request.toChain, request.toToken, request.mint)
  | execute _ (.releaseCustody chain token mint _ _) => some (chain, token, mint)
  | _ => none

/-- What an error about a pool says of the relation and the pool that the call has found. -/
structure BridgeError.Tells (e : BridgeError) (mint : Address) (relation? : Option TokenRelation)
    (pool? : Option Pool) : Prop where
  unknownPool : ∀ m, e = .unknownPool m →
    ∃ t, relation? = some t ∧ t.localMint = mint ∧ pool? = none
  mismatch : ∀ m m', e = .tokenMintMismatch m m' →
    ∃ t, relation? = some t ∧ (t.localMint = mint → ∃ p, pool? = some p ∧ p.mint ≠ mint)

section calls

variable {env : Environment} {caller : Caller} {l : Ledger} {e : BridgeError}

theorem tells_of_derivation {mint : Address} {relation? : Option TokenRelation}
    {pool? : Option Pool} (h : ∃ cause, e = .derivation cause) : e.Tells mint relation? pool? := by
  obtain ⟨cause, rfl⟩ := h
  exact ⟨nofun, nofun⟩

theorem tells_of_propose {a : ProposalAccounts} {request : ProposalRequest}
    (h : (propose env caller a request).exec l = .error e) :
    e.Tells request.mint (l.record? TokenRelation a.tokenRelation.address)
      (l.record? Pool a.pool.address) := by
  constructor
  · rintro m rfl
    simp [propose, Pool.runLock, Pool.lock, FeeVault.runCredit, FeeVault.credit,
      NonceCounter.runIssue, NonceCounter.advance, mapError_eq_error] at h
    obtain ⟨-, _, -, -, ⟨t, found, same⟩, -, _, -, -, -, missing, -⟩ := h
    exact ⟨t, found, same, Ledger.record?_of_not_holds missing⟩
  · rintro m m' rfl
    simp [propose, Pool.runLock, Pool.lock, FeeVault.runCredit, FeeVault.credit,
      NonceCounter.runIssue, NonceCounter.advance, mapError_eq_error] at h
    obtain ⟨-, _, -, -, ⟨t, found, other, -⟩ | ⟨⟨t, found, -⟩, -, _, -, -, -, p, hp, hne, -⟩⟩ := h
    · exact ⟨t, found, fun same => absurd same other⟩
    · exact ⟨t, found, fun _ => ⟨p, hp, hne⟩⟩

theorem tells_of_releaseCustody {a : TokenAccounts} {chain : Chain}
    {token mint recipient : Address} {amount : Word128}
    (h : (releaseCustody env caller a chain token mint recipient amount).exec l = .error e) :
    e.Tells mint (l.record? TokenRelation a.relation.address) (l.record? Pool a.pool.address) := by
  constructor
  · rintro m rfl
    simp [releaseCustody, BridgeConfig.authorize, Pool.runRelease, Pool.release] at h
    obtain ⟨_, -, -, t, ⟨found, same⟩, _, -, -, missing, -⟩ := h
    exact ⟨t, found, same, Ledger.record?_of_not_holds missing⟩
  · rintro m m' rfl
    simp [releaseCustody, BridgeConfig.authorize, Pool.runRelease, Pool.release] at h
    obtain ⟨_, -, -, ⟨t, found, other, -⟩ | ⟨t, ⟨found, -⟩, _, -, -, p, hp, hne, -⟩⟩ := h
    · exact ⟨t, found, fun same => absurd same other⟩
    · exact ⟨t, found, fun _ => ⟨p, hp, hne⟩⟩

namespace Call

variable {c : Call}

theorem exec_of_error {op : Operation Receipt} (hop : c.operation env = .ok op)
    (h : (c.perform env l).outcome = .error e) : op.program.exec l = .error e := by
  rw [(perform_eq hop).1] at h
  exact Outcome.map_eq_error.1 h

theorem exec_propose_of_error {request : ProposalRequest} {a : ProposalAccounts}
    (hop : c.operation env = .ok (Operation.map Receipt.proposed
      ⟨a.access env, CustodyBridge.propose env caller a request⟩))
    (h : (c.perform env l).outcome = .error e) :
    (CustodyBridge.propose env caller a request).exec l = .error e := by
  have hexec := exec_of_error hop h
  simp only [Operation.map, Program.exec_bind, Outcome.bind_eq_error, Program.exec_pure,
    reduceCtorEq, and_false, exists_false, or_false] at hexec
  exact hexec

theorem operation_release {chain : Chain} {token mint recipient : Address} {amount : Word128}
    {a : TokenAccounts} (ha : TokenAccounts.resolve env chain token mint = .ok a) :
    (execute caller (.releaseCustody chain token mint recipient amount)).operation env =
      .ok ⟨a.releaseAccess env,
        releaseCustody env caller a chain token mint recipient amount⟩ := by
  simp only [operation, Command.operation, ha]
  rfl

theorem tells_of_perform_propose {request : ProposalRequest}
    (h : ((propose caller request).perform env l).outcome = .error e) :
    e.Tells request.mint (l.relation? env request.toChain request.toToken)
      (l.pool? env request.mint) := by
  cases ha : ProposalAccounts.resolve env request.toChain request.toToken request.mint with
  | error e' =>
    have hop : (propose caller request).operation env = .error e' := by
      simp only [operation, Command.operation, proposeOperation, ha]
      rfl
    rw [perform, hop] at h
    cases h
    exact tells_of_derivation (ProposalAccounts.resolve_eq_error ha)
  | ok a =>
    obtain ⟨-, htoken, hpool, -⟩ := ProposalAccounts.resolve_eq_ok ha
    rw [Ledger.relation?_of_account htoken, Ledger.pool?_of_account hpool]
    exact tells_of_propose (exec_propose_of_error (operation_propose ha) h)

theorem tells_of_perform_release {chain : Chain} {token mint recipient : Address} {amount : Word128}
    (h : ((execute caller (.releaseCustody chain token mint recipient amount)).perform env
      l).outcome = .error e) :
    e.Tells mint (l.relation? env chain token) (l.pool? env mint) := by
  cases ha : TokenAccounts.resolve env chain token mint with
  | error e' =>
    simp only [perform, operation, Command.operation, ha] at h
    cases h
    exact tells_of_derivation (TokenAccounts.resolve_eq_error ha)
  | ok a =>
    obtain ⟨htoken, hpool⟩ := TokenAccounts.resolve_eq_ok ha
    rw [Ledger.relation?_of_account htoken, Ledger.pool?_of_account hpool]
    exact tells_of_releaseCustody (exec_of_error (operation_release ha) h)

theorem tells_of_perform {chain : Chain} {token mint : Address}
    (hc : c.through? = some (chain, token, mint)) (h : (c.perform env l).outcome = .error e) :
    e.Tells mint (l.relation? env chain token) (l.pool? env mint) := by
  cases c with
  | instantiate => cases hc
  | propose =>
    cases hc
    exact tells_of_perform_propose h
  | execute caller command =>
    cases command with
    | propose request =>
      cases hc
      exact tells_of_perform_propose h
    | releaseCustody =>
      cases hc
      exact tells_of_perform_release h
    | _ => cases hc

end Call

end calls

end CustodyBridge
