import CustodyBridge.Bridge.Operation
import CustodyBridge.Proofs.FeeVault
import CustodyBridge.Proofs.Ledger.Permission
import CustodyBridge.Proofs.Pool.Operations

/-!
# Operations keep to their accounts

Each handler asks for records of accounts that its operation declares and changes those of accounts
declared for writing, and no others.
-/

namespace CustodyBridge

@[simp] theorem Pool.within_runOutstanding {access : AccessSet} {a : Account} {mint : Address}
    (h : access.Declares a.address) : (runOutstanding a mint).Within access := by
  refine Program.within_bind.2 ⟨Record.within_load? h, fun pool? _ => ?_⟩
  cases pool? <;> trivial

variable {env : Environment} {caller : Caller}

/-! ## Handlers -/

theorem within_instantiate {i : Instantiation} :
    (instantiate env caller i).Within env.initializeAccess := by
  simp [instantiate, Environment.initializeAccess, FeeVault.runOpen]

theorem within_propose {a : ProposalAccounts} {request : ProposalRequest} :
    (propose env caller a request).Within (a.access env) := by
  simp [propose, ProposalAccounts.access, BridgeConfig.load, CoreConfig.load,
    ChainRelation.loadActive, ChainRelation.load, TokenRelation.loadFor, TokenRelation.load,
    Pool.runLock, Pool.load, FeeVault.runCredit, FeeVault.load, NonceCounter.runIssue]

theorem within_setChainRelation {a : Account} {chain : Chain} {update : ChainRelationUpdate} :
    (setChainRelation env caller a chain update).Within (chainRelationAccess env a) := by
  simp [setChainRelation, chainRelationAccess, BridgeConfig.authorize, BridgeConfig.load,
    ChainRelation.runUpdate]

section tokens

variable {a : TokenAccounts} {chain : Chain} {foreignToken localMint recipient : Address}

theorem within_setTokenRelation {foreignDecimals localDecimals : UInt8} :
    (setTokenRelation env caller a chain foreignToken foreignDecimals localMint
      localDecimals).Within (a.setAccess env) := by
  simp [setTokenRelation, TokenAccounts.setAccess, BridgeConfig.authorize, BridgeConfig.load,
    Pool.ensure, TokenRelation.runSet]

theorem within_removeTokenRelation :
    (removeTokenRelation env caller a chain foreignToken localMint).Within
      (a.removeAccess env) := by
  simp [removeTokenRelation, TokenAccounts.removeAccess, BridgeConfig.authorize,
    BridgeConfig.load, TokenRelation.loadFor, TokenRelation.load, TokenRelation.runRemove]

theorem within_releaseCustody {amount : Word128} :
    (releaseCustody env caller a chain foreignToken localMint recipient amount).Within
      (a.releaseAccess env) := by
  simp [releaseCustody, TokenAccounts.releaseAccess, BridgeConfig.authorize, BridgeConfig.load,
    TokenRelation.loadFor, TokenRelation.load, Pool.runRelease, Pool.load]

end tokens

theorem within_withdrawFee {amount : UInt64} :
    (withdrawFee env caller amount).Within env.withdrawFeeAccess := by
  simp [withdrawFee, Environment.withdrawFeeAccess, CoreConfig.load, FeeVault.runWithdraw,
    FeeVault.load]

theorem within_setBridgeFee {fee : UInt64} :
    (setBridgeFee env caller fee).Within env.coreConfigAccess := by
  simp [setBridgeFee, Environment.coreConfigAccess, CoreConfig.authorize, CoreConfig.load]

theorem within_setPoolFeeRate {a : Account} {mint : Address} {rate : UInt64} :
    (setPoolFeeRate env caller a mint rate).Within (poolAccess env a) := by
  simp [setPoolFeeRate, poolAccess, BridgeConfig.authorize, BridgeConfig.load,
    Pool.runSetFeeRate, Pool.load]

section liquidity

variable {a : LiquidityAccounts} {mint : Address} {amount : UInt64}

theorem within_addLiquidity : (addLiquidity caller a mint amount).Within a.access := by
  simp [addLiquidity, LiquidityAccounts.access, Position.runAdd, Pool.load, Position.save]

theorem within_removeLiquidity :
    (removeLiquidity caller a mint amount).Within a.access := by
  simp [removeLiquidity, LiquidityAccounts.access, Position.runRemove, Position.load, Pool.load,
    Position.save]

theorem within_withdrawReward : (withdrawReward caller a mint amount).Within a.access := by
  simp [withdrawReward, LiquidityAccounts.access, Position.runWithdraw, Position.load, Pool.load,
    Position.save]

end liquidity

theorem within_changeAdmin {admin : Address} :
    (changeAdmin env caller admin).Within env.bridgeConfigAccess := by
  simp [changeAdmin, Environment.bridgeConfigAccess, BridgeConfig.authorize, BridgeConfig.load]

theorem within_changeSuperAdmin {superAdmin : Address} :
    (changeSuperAdmin env caller superAdmin).Within env.coreConfigAccess := by
  simp [changeSuperAdmin, Environment.coreConfigAccess, CoreConfig.authorize, CoreConfig.load]

/-! ## Operations -/

theorem Command.within_of_operation {c : Command} {op : Operation Receipt}
    (hop : c.operation env caller = .ok op) : op.program.Within op.access := by
  cases c with
  | propose =>
    obtain ⟨op', hop', rfl⟩ := except_map_eq_ok.1 hop
    obtain ⟨a, -, rfl⟩ := except_map_eq_ok.1 hop'
    simpa [Operation.map] using within_propose
  | setChainRelation =>
    obtain ⟨a, -, rfl⟩ := except_map_eq_ok.1 hop
    exact within_setChainRelation
  | setTokenRelation =>
    obtain ⟨a, -, rfl⟩ := except_map_eq_ok.1 hop
    exact within_setTokenRelation
  | removeTokenRelation =>
    obtain ⟨a, -, rfl⟩ := except_map_eq_ok.1 hop
    exact within_removeTokenRelation
  | releaseCustody =>
    obtain ⟨a, -, rfl⟩ := except_map_eq_ok.1 hop
    exact within_releaseCustody
  | withdrawFee =>
    cases hop
    exact within_withdrawFee
  | setBridgeFee =>
    cases hop
    exact within_setBridgeFee
  | setPoolFeeRate =>
    obtain ⟨a, -, rfl⟩ := except_map_eq_ok.1 hop
    exact within_setPoolFeeRate
  | addLiquidity =>
    obtain ⟨a, -, rfl⟩ := except_map_eq_ok.1 hop
    exact within_addLiquidity
  | removeLiquidity =>
    obtain ⟨a, -, rfl⟩ := except_map_eq_ok.1 hop
    exact within_removeLiquidity
  | withdrawReward =>
    obtain ⟨a, -, rfl⟩ := except_map_eq_ok.1 hop
    exact within_withdrawReward
  | changeAdmin =>
    cases hop
    exact within_changeAdmin
  | changeSuperAdmin =>
    cases hop
    exact within_changeSuperAdmin

theorem Call.within_of_operation {c : Call} {op : Operation Receipt}
    (hop : c.operation env = .ok op) : op.program.Within op.access := by
  cases c with
  | instantiate =>
    cases hop
    exact within_instantiate
  | propose caller request =>
    have hop : (Command.propose request).operation env caller = .ok op := hop
    exact Command.within_of_operation hop
  | execute caller command =>
    have hop : command.operation env caller = .ok op := hop
    exact Command.within_of_operation hop

theorem Call.permitted_of_operation {c : Call} {op : Operation Receipt}
    (hop : c.operation env = .ok op) : op.program.Permitted op.access :=
  (within_of_operation hop).permitted

end CustodyBridge
