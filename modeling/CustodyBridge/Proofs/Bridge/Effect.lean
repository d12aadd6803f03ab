import CustodyBridge.Bridge.History
import CustodyBridge.Proofs.Bridge.Handlers

/-!
# Effects of calls

What a call that succeeds has found in the ledger, what it answers, and what it leaves. Everything
that a run of calls keeps is derived from this.
-/

namespace CustodyBridge

/-! ## Effects -/

/-- What a request becomes, with the relation, the fee and the number of the moment. -/
def ProposalRequest.proposal (r : ProposalRequest) (env : Environment) (sender : Address)
    (relation : ChainRelation) (core : CoreConfig) (nonce : UInt64) : Proposal :=
  Proposal.sealed {
    id := Bytes32.zero
    nonce
    sourceChain := env.localChain
    sourceProgram := env.programs.bridge
    destinationChain := r.toChain
    destinationToken := r.toToken
    executor := relation.executor
    recipient := r.recipient
    sourceMint := r.mint
    sender
    amount := r.amount
    gasFee := r.gasFee
    bridgeFee := core.bridgeFee }

/-! ### Findings -/

/-- What a proposal finds before it changes anything. -/
structure ProposalRequest.Ready (request : ProposalRequest) (env : Environment) (caller : Caller)
    (a : ProposalAccounts) (fee : UInt64) (l : Ledger) where
  config : BridgeConfig
  core : CoreConfig
  relation : ChainRelation
  token : TokenRelation
  sum : UInt64
  config_found : l.record? BridgeConfig env.bridgeConfig.address = some config
  core_found : l.record? CoreConfig env.coreConfig.address = some core
  relation_found : l.record? ChainRelation a.chainRelation.address = some relation
  active : relation.active = true
  token_found : l.record? TokenRelation a.tokenRelation.address = some token
  token_mint : token.localMint = request.mint
  amount_ne : request.amount ≠ 0
  fee_fits : FeeVault.totalFee? core request.gasFee = some fee
  sum_fits : Amount.add? request.amount fee = some sum
  funds : Funds.verify caller.funds
    [⟨request.mint, request.amount⟩, ⟨env.nativeMint, fee⟩] = .ok ()

/-- The pool and the vault of a proposal, and what they are once custody and fees are staged. -/
structure ProposalRequest.Staging (request : ProposalRequest) (env : Environment)
    (caller : Caller) (a : ProposalAccounts) (fee : UInt64) (l : Ledger) extends
    request.Ready env caller a fee l where
  pool : Pool
  pool' : Pool
  vault : FeeVault
  vault' : FeeVault
  pool_found : l.record? Pool a.pool.address = some pool
  pool_mint : pool.mint = request.mint
  locked : pool.lock request.amount = .ok pool'
  vault_found : l.record? FeeVault env.feeVault.address = some vault
  credited : vault.credit fee = .ok vault'

namespace Findings

variable (env : Environment) (caller : Caller) (l : Ledger)

structure Propose (request : ProposalRequest) (a : ProposalAccounts) (fee : UInt64) extends
    request.Staging env caller a fee l where
  counter : NonceCounter
  counter' : NonceCounter
  resolved : ProposalAccounts.resolve env request.toChain request.toToken request.mint = .ok a
  counter_legible : l.Legible NonceCounter a.nonceCounter.address
  counter_found :
    (l.record? NonceCounter a.nonceCounter.address).getD (.opened request.toChain) = counter
  advanced : counter.advance = .ok counter'

/-- The caller is the admin. -/
structure Admin where
  config : BridgeConfig
  config_found : l.record? BridgeConfig env.bridgeConfig.address = some config
  admin : caller.sender = config.admin

/-- The caller is the super admin. -/
structure SuperAdmin where
  core : CoreConfig
  core_found : l.record? CoreConfig env.coreConfig.address = some core
  super_admin : caller.sender = core.superAdmin

structure SetChainRelation (chain : Chain) (update : ChainRelationUpdate) extends
    Admin env caller l where
  account : Account
  relation : ChainRelation
  resolved : env.account (.chainRelation chain) = .ok account
  legible : l.Legible ChainRelation account.address
  updated :
    ((l.record? ChainRelation account.address).getD (.opened chain)).update update = relation

/-- The admin names a token of another chain and a mint. -/
structure Mapping (chain : Chain) (foreignToken localMint : Address) extends
    Admin env caller l where
  accounts : TokenAccounts
  resolved : TokenAccounts.resolve env chain foreignToken localMint = .ok accounts

/-- The token has a relation to the mint. -/
structure Mapped (chain : Chain) (foreignToken localMint : Address) extends
    Mapping env caller l chain foreignToken localMint where
  relation : TokenRelation
  relation_found : l.record? TokenRelation accounts.relation.address = some relation
  relation_mint : relation.localMint = localMint

structure RemoveTokenRelation (chain : Chain) (foreignToken localMint : Address) extends
    Mapped env caller l chain foreignToken localMint where
  pool_legible : l.Legible Pool accounts.pool.address
  settled : ((l.record? Pool accounts.pool.address).elim 0 fun p =>
    if p.mint = localMint then p.outstanding else 0) = 0

structure ReleaseCustody (chain : Chain) (foreignToken localMint : Address) (amount : Word128)
    extends Mapped env caller l chain foreignToken localMint where
  localAmount : UInt64
  pool : Pool
  pool' : Pool
  release : Pool.Release
  converted : Decimals.convert? amount relation.foreignDecimals relation.localDecimals =
    some localAmount
  amount_ne : localAmount ≠ 0
  pool_found : l.record? Pool accounts.pool.address = some pool
  pool_mint : pool.mint = localMint
  released : pool.release localAmount = .ok (pool', release)

structure WithdrawFee (amount : UInt64) extends SuperAdmin env caller l where
  vault : FeeVault
  vault' : FeeVault
  vault_found : l.record? FeeVault env.feeVault.address = some vault
  withdrawn : vault.withdraw amount = .ok vault'

structure SetPoolFeeRate (mint : Address) (rate : UInt64) extends Admin env caller l where
  account : Account
  pool : Pool
  resolved : env.account (.pool mint) = .ok account
  rate_le : rate ≤ Pool.feeRateUnit
  pool_found : l.record? Pool account.address = some pool
  pool_mint : pool.mint = mint

/-- A provider moves an amount of a pool. -/
structure Liquidity (mint : Address) (amount : UInt64) where
  accounts : LiquidityAccounts
  pool : Pool
  resolved : LiquidityAccounts.resolve env mint caller.sender = .ok accounts
  amount_ne : amount ≠ 0
  pool_found : l.record? Pool accounts.pool.address = some pool
  pool_mint : pool.mint = mint

structure AddLiquidity (mint : Address) (amount : UInt64) extends
    Liquidity env caller l mint amount where
  pool' : Pool
  position' : Position
  funds : Funds.verify caller.funds [⟨mint, amount⟩] = .ok ()
  position_legible : l.Legible Position accounts.position.address
  added : pool.addLiquidity
    ((l.record? Position accounts.position.address).getD (.opened mint caller.sender)) amount =
    .ok (pool', position')

/-- The provider has a position. -/
structure Provided (mint : Address) (amount : UInt64) extends
    Liquidity env caller l mint amount where
  position : Position
  position_found : l.record? Position accounts.position.address = some position

structure RemoveLiquidity (mint : Address) (amount : UInt64) extends
    Provided env caller l mint amount where
  pool' : Pool
  position' : Position
  removed : pool.removeLiquidity position amount = .ok (pool', position')

structure WithdrawReward (mint : Address) (amount : UInt64) extends
    Provided env caller l mint amount where
  pool' : Pool
  position' : Position
  withdrawn : pool.withdrawReward position amount = .ok (pool', position')

end Findings

/-! ### Answers and ledgers -/

/-- What a command that succeeds finds, answers and leaves. -/
inductive Command.Effect (env : Environment) (caller : Caller) (l : Ledger) :
    Command → Receipt → Ledger → Prop where
  | propose {request a fee} (found : Findings.Propose env caller l request a fee) :
      Effect env caller l (.propose request)
        (.proposed
          (request.proposal env caller.sender found.relation found.core found.counter.next))
        (((l.put a.pool.address found.pool').put env.feeVault.address found.vault').put
          a.nonceCounter.address found.counter')
  | setChainRelation {chain update} (found : Findings.SetChainRelation env caller l chain update) :
      Effect env caller l (.setChainRelation chain update)
        (.chainRelationSet chain found.relation) (l.put found.account.address found.relation)
  | setTokenRelation {chain foreignToken foreignDecimals localMint localDecimals}
      (found : Findings.Mapping env caller l chain foreignToken localMint)
      (pool_there : l.holds Pool found.accounts.pool.address = true) :
      Effect env caller l
        (.setTokenRelation chain foreignToken foreignDecimals localMint localDecimals)
        (.tokenRelationSet chain foreignToken localMint found.accounts.pool.address false)
        (l.put found.accounts.relation.address
          (⟨chain, foreignToken, foreignDecimals, localMint, localDecimals,
            found.accounts.pool⟩ : TokenRelation))
  | openPool {chain foreignToken foreignDecimals localMint localDecimals}
      (found : Findings.Mapping env caller l chain foreignToken localMint)
      (pool_missing : l.holds Pool found.accounts.pool.address = false) :
      Effect env caller l
        (.setTokenRelation chain foreignToken foreignDecimals localMint localDecimals)
        (.tokenRelationSet chain foreignToken localMint found.accounts.pool.address true)
        ((l.put found.accounts.pool.address
            (Pool.opened localMint env.bridgeAuthority.address)).put
          found.accounts.relation.address
          (⟨chain, foreignToken, foreignDecimals, localMint, localDecimals,
            found.accounts.pool⟩ : TokenRelation))
  | removeTokenRelation {chain foreignToken localMint}
      (found : Findings.RemoveTokenRelation env caller l chain foreignToken localMint) :
      Effect env caller l (.removeTokenRelation chain foreignToken localMint)
        (.tokenRelationRemoved chain foreignToken localMint)
        (l.erase TokenRelation found.accounts.relation.address)
  | releaseCustody {chain foreignToken localMint recipient amount}
      (found : Findings.ReleaseCustody env caller l chain foreignToken localMint amount) :
      Effect env caller l (.releaseCustody chain foreignToken localMint recipient amount)
        (.custodyReleased chain localMint recipient amount found.localAmount found.release)
        (l.put found.accounts.pool.address found.pool')
  | withdrawFee {amount} (found : Findings.WithdrawFee env caller l amount) :
      Effect env caller l (.withdrawFee amount)
        (.feeWithdrawn caller.sender amount found.vault'.balance)
        (l.put env.feeVault.address found.vault')
  | setBridgeFee {fee} (found : Findings.SuperAdmin env caller l) :
      Effect env caller l (.setBridgeFee fee) (.bridgeFeeSet found.core.bridgeFee fee)
        (l.put env.coreConfig.address { found.core with bridgeFee := fee })
  | setPoolFeeRate {mint rate} (found : Findings.SetPoolFeeRate env caller l mint rate) :
      Effect env caller l (.setPoolFeeRate mint rate)
        (.poolFeeRateSet mint found.pool.feeRate rate)
        (l.put found.account.address { found.pool with feeRate := rate })
  | addLiquidity {mint amount} (found : Findings.AddLiquidity env caller l mint amount) :
      Effect env caller l (.addLiquidity mint amount)
        (.liquidityAdded mint caller.sender amount found.position'.amount)
        ((l.put found.accounts.pool.address found.pool').put found.accounts.position.address
          found.position')
  | removeLiquidity {mint amount} (found : Findings.RemoveLiquidity env caller l mint amount) :
      Effect env caller l (.removeLiquidity mint amount)
        (.liquidityRemoved mint caller.sender amount found.position'.amount)
        ((l.put found.accounts.pool.address found.pool').put found.accounts.position.address
          found.position')
  | withdrawReward {mint amount} (found : Findings.WithdrawReward env caller l mint amount) :
      Effect env caller l (.withdrawReward mint amount)
        (.rewardWithdrawn mint caller.sender amount found.position'.remaining)
        ((l.put found.accounts.pool.address found.pool').put found.accounts.position.address
          found.position')
  | changeAdmin {admin} (found : Findings.Admin env caller l) :
      Effect env caller l (.changeAdmin admin) (.adminChanged found.config.admin admin)
        (l.put env.bridgeConfig.address { found.config with admin })
  | changeSuperAdmin {superAdmin} (found : Findings.SuperAdmin env caller l) :
      Effect env caller l (.changeSuperAdmin superAdmin)
        (.superAdminChanged found.core.superAdmin superAdmin)
        (l.put env.coreConfig.address { found.core with superAdmin })

/-- What a call that succeeds finds, answers and leaves. -/
inductive Call.Effect (env : Environment) (l : Ledger) : Call → Receipt → Ledger → Prop where
  | instantiate {caller : Caller} {i : Instantiation} {core : CoreConfig}
      (missing : l.holds BridgeConfig env.bridgeConfig.address = false)
      (bump : i.bump = env.bridgeConfig.bump)
      (core_eq : core = ⟨i.superAdmin?.getD caller.sender,
        i.bridgeFee?.getD env.defaultBridgeFee, env.coreConfig.bump⟩) :
      Effect env l (.instantiate caller i)
        (.initialized env.bridgeConfig.address caller.sender core.superAdmin core.bridgeFee)
        ((((l.put env.bridgeConfig.address (⟨caller.sender, i.bump⟩ : BridgeConfig)).put
          env.coreConfig.address core).put env.bridgeAuthority.address
          (⟨env.bridgeAuthority.bump⟩ : BridgeAuthority)).put env.feeVault.address FeeVault.empty)
  | propose {caller request receipt l'}
      (effect : Command.Effect env caller l (.propose request) receipt l') :
      Effect env l (.propose caller request) receipt l'
  | execute {caller command receipt l'}
      (effect : Command.Effect env caller l command receipt l') :
      Effect env l (.execute caller command) receipt l'

/-! ## Handlers -/

section handlers

variable {env : Environment} {caller : Caller} {l l' : Ledger} {r : Receipt}

theorem effect_of_instantiate {i : Instantiation}
    (h : (instantiate env caller i).exec l = .ok (r, l')) :
    Call.Effect env l (.instantiate caller i) r l' := by
  simp [instantiate, FeeVault.runOpen] at h
  obtain ⟨missing, bump, rfl, rfl⟩ := h
  exact .instantiate missing bump rfl

theorem effect_of_propose {a : ProposalAccounts} {request : ProposalRequest} {p : Proposal}
    (ha : ProposalAccounts.resolve env request.toChain request.toToken request.mint = .ok a)
    (h : (propose env caller a request).exec l = .ok (p, l')) :
    Command.Effect env caller l (.propose request) (.proposed p) l' := by
  simp [propose, mapError_eq_ok] at h
  obtain ⟨⟨config, hconfig⟩, core, hcore, relation, ⟨hrelation, active⟩, ⟨token, htoken, mint⟩,
    amount_ne, fee, hfee, ⟨sum, hsum⟩, ⟨_, funds⟩, pool, pool', ⟨⟨hpool, pool_mint⟩, locked⟩,
    vault, vault', ⟨hvault, credited⟩, ⟨legible, counter', advanced, rfl⟩, rfl⟩ := h
  let found : Findings.Propose env caller l request a fee := {
    config, core, relation, token, sum, pool, pool', vault, vault', counter', counter := _
    config_found := hconfig, core_found := hcore, relation_found := hrelation, active
    token_found := htoken, token_mint := mint, amount_ne, fee_fits := hfee
    sum_fits := Amount.add?_eq_some.2 hsum, funds, pool_found := hpool, pool_mint, locked
    vault_found := hvault, credited, resolved := ha, counter_legible := legible
    counter_found := rfl, advanced }
  exact .propose found

/-- A proposal whose custody and fees are staged ends as the taking of its nonce does. -/
theorem ProposalRequest.Staging.exec_propose {a : ProposalAccounts} {request : ProposalRequest}
    {fee : UInt64} (s : request.Staging env caller a fee l) :
    (propose env caller a request).exec l =
      ((NonceCounter.runIssue a.nonceCounter request.toChain).exec
        ((l.put a.pool.address s.pool').put env.feeVault.address s.vault')).map fun r =>
          (request.proposal env caller.sender s.relation s.core r.1, r.2) := by
  have hlock : (Pool.runLock a.pool request.mint request.amount).exec l =
      .ok (s.pool'.balance, l.put a.pool.address s.pool') :=
    Pool.exec_runLock_eq_ok.2 ⟨s.pool, ⟨s.pool_found, s.pool_mint⟩, s.pool', s.locked, rfl, rfl⟩
  have hvault : (l.put a.pool.address s.pool').record? FeeVault env.feeVault.address =
      some s.vault := by
    simpa using s.vault_found
  have hcredit : (FeeVault.runCredit env.feeVault fee).exec (l.put a.pool.address s.pool') =
      .ok (s.vault'.balance,
        (l.put a.pool.address s.pool').put env.feeVault.address s.vault') :=
    FeeVault.exec_runCredit_eq_ok.2 ⟨s.vault, hvault, s.vault', s.credited, rfl, rfl⟩
  unfold CustodyBridge.propose
  rw [Program.exec_bind_of_ok (BridgeConfig.exec_load_eq_ok.2 ⟨s.config_found, rfl⟩),
    Program.exec_bind_of_ok (CoreConfig.exec_load_eq_ok.2 ⟨s.core_found, rfl⟩),
    Program.exec_bind_of_ok
      (ChainRelation.exec_loadActive_eq_ok.2 ⟨⟨s.relation_found, rfl⟩, s.active⟩),
    Program.exec_bind_of_ok
      (TokenRelation.exec_loadFor_eq_ok.2 ⟨⟨s.token_found, rfl⟩, s.token_mint⟩),
    if_neg s.amount_ne, s.fee_fits, Program.exec_bind_of_ok (Program.exec_require _ _ _),
    s.sum_fits, Program.exec_bind_of_ok (Program.exec_require _ _ _), s.funds,
    Program.exec_bind_of_ok (Program.exec_ofExcept _ _), Program.exec_bind_of_ok hlock,
    Program.exec_bind_of_ok hcredit, Program.exec_bind_of_ok (Program.exec_report _ _),
    Program.exec_bind]
  cases (NonceCounter.runIssue a.nonceCounter request.toChain).exec _ <;> rfl

theorem effect_of_setChainRelation {account : Account} {chain : Chain}
    {update : ChainRelationUpdate} (ha : env.account (.chainRelation chain) = .ok account)
    (h : (setChainRelation env caller account chain update).exec l = .ok (r, l')) :
    Command.Effect env caller l (.setChainRelation chain update) r l' := by
  simp [setChainRelation] at h
  obtain ⟨⟨config, hconfig, admin⟩, ⟨legible, rfl⟩, rfl⟩ := h
  exact .setChainRelation
    { config, account, relation := _, config_found := hconfig, admin, resolved := ha, legible
      updated := rfl }

theorem effect_of_setTokenRelation {a : TokenAccounts} {chain : Chain}
    {foreignToken localMint : Address} {foreignDecimals localDecimals : UInt8}
    (ha : TokenAccounts.resolve env chain foreignToken localMint = .ok a)
    (h : (setTokenRelation env caller a chain foreignToken foreignDecimals localMint
      localDecimals).exec l = .ok (r, l')) :
    Command.Effect env caller l (.setTokenRelation chain foreignToken foreignDecimals localMint
      localDecimals) r l' := by
  simp [setTokenRelation, TokenRelation.runSet] at h
  obtain ⟨⟨config, hconfig, admin⟩, ⟨there, rfl, rfl⟩ | ⟨missing, rfl, rfl⟩⟩ := h
  · exact .setTokenRelation
      { config, config_found := hconfig, admin, accounts := a, resolved := ha } there
  · exact .openPool
      { config, config_found := hconfig, admin, accounts := a, resolved := ha } missing

theorem effect_of_removeTokenRelation {a : TokenAccounts} {chain : Chain}
    {foreignToken localMint : Address}
    (ha : TokenAccounts.resolve env chain foreignToken localMint = .ok a)
    (h : (removeTokenRelation env caller a chain foreignToken localMint).exec l = .ok (r, l')) :
    Command.Effect env caller l (.removeTokenRelation chain foreignToken localMint) r l' := by
  simp [removeTokenRelation] at h
  obtain ⟨⟨config, hconfig, admin⟩, ⟨relation, hrelation, mint⟩, legible, settled, relation',
    ⟨hrelation', rfl⟩, rfl⟩ := h
  obtain rfl : relation = relation' := Option.some.inj (hrelation ▸ hrelation')
  rw [mint]
  exact .removeTokenRelation {
    config, accounts := a, relation, config_found := hconfig, admin, resolved := ha
    relation_found := hrelation, relation_mint := mint, pool_legible := legible, settled }

theorem effect_of_releaseCustody {a : TokenAccounts} {chain : Chain}
    {foreignToken localMint recipient : Address} {amount : Word128}
    (ha : TokenAccounts.resolve env chain foreignToken localMint = .ok a)
    (h : (releaseCustody env caller a chain foreignToken localMint recipient amount).exec l =
      .ok (r, l')) :
    Command.Effect env caller l
      (.releaseCustody chain foreignToken localMint recipient amount) r l' := by
  simp [releaseCustody] at h
  obtain ⟨⟨config, hconfig, admin⟩, relation, ⟨hrelation, mint⟩, localAmount, converted, amount_ne,
    release, ⟨pool, ⟨hpool, pool_mint⟩, pool', released, rfl⟩, rfl⟩ := h
  let found : Findings.ReleaseCustody env caller l chain foreignToken localMint amount := {
    config, accounts := a, relation, localAmount, pool, pool', release
    config_found := hconfig, admin, resolved := ha, relation_found := hrelation
    relation_mint := mint, converted, amount_ne, pool_found := hpool, pool_mint, released }
  exact .releaseCustody found

theorem effect_of_withdrawFee {amount : UInt64}
    (h : (withdrawFee env caller amount).exec l = .ok (r, l')) :
    Command.Effect env caller l (.withdrawFee amount) r l' := by
  simp [withdrawFee] at h
  obtain ⟨core, hcore, vault, vault', ⟨superAdmin, hvault, withdrawn, rfl⟩, rfl⟩ := h
  exact .withdrawFee {
    core, vault, vault', core_found := hcore, super_admin := superAdmin, vault_found := hvault
    withdrawn }

theorem effect_of_setBridgeFee {fee : UInt64}
    (h : (setBridgeFee env caller fee).exec l = .ok (r, l')) :
    Command.Effect env caller l (.setBridgeFee fee) r l' := by
  simp [setBridgeFee] at h
  obtain ⟨core, ⟨hcore, superAdmin⟩, rfl, rfl⟩ := h
  exact .setBridgeFee { core, core_found := hcore, super_admin := superAdmin }

theorem effect_of_setPoolFeeRate {account : Account} {mint : Address} {rate : UInt64}
    (ha : env.account (.pool mint) = .ok account)
    (h : (setPoolFeeRate env caller account mint rate).exec l = .ok (r, l')) :
    Command.Effect env caller l (.setPoolFeeRate mint rate) r l' := by
  simp [setPoolFeeRate] at h
  obtain ⟨⟨config, hconfig, admin⟩, pool, ⟨rate_le, ⟨hpool, pool_mint⟩, rfl⟩, rfl⟩ := h
  exact .setPoolFeeRate {
    config, account, pool, config_found := hconfig, admin, resolved := ha, rate_le
    pool_found := hpool, pool_mint }

theorem effect_of_addLiquidity {a : LiquidityAccounts} {mint : Address} {amount : UInt64}
    (ha : LiquidityAccounts.resolve env mint caller.sender = .ok a)
    (h : (addLiquidity caller a mint amount).exec l = .ok (r, l')) :
    Command.Effect env caller l (.addLiquidity mint amount) r l' := by
  simp [addLiquidity, mapError_eq_ok, Position.exec_runAdd_eq_ok] at h
  obtain ⟨⟨_, funds⟩, position, ⟨amount_ne, pool, ⟨hpool, pool_mint⟩, legible, pool', added, rfl⟩,
    rfl⟩ := h
  exact .addLiquidity {
    accounts := a, pool, pool', position' := position, resolved := ha, funds, amount_ne
    pool_found := hpool, pool_mint, position_legible := legible, added }

theorem effect_of_removeLiquidity {a : LiquidityAccounts} {mint : Address} {amount : UInt64}
    (ha : LiquidityAccounts.resolve env mint caller.sender = .ok a)
    (h : (removeLiquidity caller a mint amount).exec l = .ok (r, l')) :
    Command.Effect env caller l (.removeLiquidity mint amount) r l' := by
  simp [removeLiquidity] at h
  obtain ⟨position, ⟨amount_ne, pool, ⟨hpool, pool_mint⟩, old, hold, pool', removed, rfl⟩, rfl⟩ := h
  exact .removeLiquidity {
    accounts := a, pool, pool', position := old, position' := position, resolved := ha, amount_ne
    pool_found := hpool, pool_mint, position_found := hold, removed }

theorem effect_of_withdrawReward {a : LiquidityAccounts} {mint : Address} {amount : UInt64}
    (ha : LiquidityAccounts.resolve env mint caller.sender = .ok a)
    (h : (withdrawReward caller a mint amount).exec l = .ok (r, l')) :
    Command.Effect env caller l (.withdrawReward mint amount) r l' := by
  simp [withdrawReward] at h
  obtain ⟨pool, old, pool', position,
    ⟨amount_ne, ⟨hpool, pool_mint⟩, hold, withdrawn, rfl⟩, rfl⟩ := h
  exact .withdrawReward {
    accounts := a, pool, pool', position := old, position' := position, resolved := ha, amount_ne
    pool_found := hpool, pool_mint, position_found := hold, withdrawn }

theorem effect_of_changeAdmin {admin : Address}
    (h : (changeAdmin env caller admin).exec l = .ok (r, l')) :
    Command.Effect env caller l (.changeAdmin admin) r l' := by
  simp [changeAdmin] at h
  obtain ⟨config, ⟨hconfig, old⟩, rfl, rfl⟩ := h
  exact .changeAdmin { config, config_found := hconfig, admin := old }

theorem effect_of_changeSuperAdmin {superAdmin : Address}
    (h : (changeSuperAdmin env caller superAdmin).exec l = .ok (r, l')) :
    Command.Effect env caller l (.changeSuperAdmin superAdmin) r l' := by
  simp [changeSuperAdmin] at h
  obtain ⟨core, ⟨hcore, old⟩, rfl, rfl⟩ := h
  exact .changeSuperAdmin { core, core_found := hcore, super_admin := old }

/-! ## Operations -/

theorem Command.effect_of_exec {c : Command} {op : Operation Receipt}
    (hop : c.operation env caller = .ok op) (h : op.program.exec l = .ok (r, l')) :
    Command.Effect env caller l c r l' := by
  cases c with
  | propose request =>
    simp [operation, proposeOperation, except_map_eq_ok] at hop
    obtain ⟨a, ha, rfl⟩ := hop
    simp [Operation.map] at h
    obtain ⟨p, hexec, rfl⟩ := h
    exact effect_of_propose ha hexec
  | setChainRelation =>
    obtain ⟨a, ha, rfl⟩ := except_map_eq_ok.1 hop
    exact effect_of_setChainRelation ha h
  | setTokenRelation =>
    obtain ⟨a, ha, rfl⟩ := except_map_eq_ok.1 hop
    exact effect_of_setTokenRelation ha h
  | removeTokenRelation =>
    obtain ⟨a, ha, rfl⟩ := except_map_eq_ok.1 hop
    exact effect_of_removeTokenRelation ha h
  | releaseCustody =>
    obtain ⟨a, ha, rfl⟩ := except_map_eq_ok.1 hop
    exact effect_of_releaseCustody ha h
  | withdrawFee =>
    cases hop
    exact effect_of_withdrawFee h
  | setBridgeFee =>
    cases hop
    exact effect_of_setBridgeFee h
  | setPoolFeeRate =>
    obtain ⟨a, ha, rfl⟩ := except_map_eq_ok.1 hop
    exact effect_of_setPoolFeeRate ha h
  | addLiquidity =>
    obtain ⟨a, ha, rfl⟩ := except_map_eq_ok.1 hop
    exact effect_of_addLiquidity ha h
  | removeLiquidity =>
    obtain ⟨a, ha, rfl⟩ := except_map_eq_ok.1 hop
    exact effect_of_removeLiquidity ha h
  | withdrawReward =>
    obtain ⟨a, ha, rfl⟩ := except_map_eq_ok.1 hop
    exact effect_of_withdrawReward ha h
  | changeAdmin =>
    cases hop
    exact effect_of_changeAdmin h
  | changeSuperAdmin =>
    cases hop
    exact effect_of_changeSuperAdmin h

theorem Call.effect_of_exec {c : Call} {op : Operation Receipt} (hop : c.operation env = .ok op)
    (h : op.program.exec l = .ok (r, l')) : Call.Effect env l c r l' := by
  cases c with
  | instantiate =>
    cases hop
    exact effect_of_instantiate h
  | propose => exact .propose (Command.effect_of_exec hop h)
  | execute => exact .execute (Command.effect_of_exec hop h)

end handlers

end CustodyBridge
