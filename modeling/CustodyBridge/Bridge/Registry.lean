import CustodyBridge.Bridge.Environment
import CustodyBridge.Config
import CustodyBridge.Funds
import CustodyBridge.Pool.Program
import CustodyBridge.Receipt

/-!
# Registry

What the admin registers: destination chains, tokens of other chains, and the fee rates of pools.
-/

namespace CustodyBridge

/-- The admin updates the relation of a chain, or opens it. -/
def setChainRelation (env : Environment) (caller : Caller) (account : Account) (chain : Chain)
    (update : ChainRelationUpdate) : Handler Receipt := do
  let _ ← BridgeConfig.authorize env.bridgeConfig caller.sender
  let relation ← ChainRelation.runUpdate account chain update
  return .chainRelationSet chain relation

/-- Maps a token to a local mint, whose pool is opened with its first relation. -/
def setTokenRelation (env : Environment) (caller : Caller) (a : TokenAccounts) (chain : Chain)
    (foreignToken : Address) (foreignDecimals : UInt8) (localMint : Address)
    (localDecimals : UInt8) : Handler Receipt := do
  let _ ← BridgeConfig.authorize env.bridgeConfig caller.sender
  let poolCreated ← Pool.ensure a.pool localMint env.bridgeAuthority.address
  TokenRelation.runSet a.relation
    ⟨chain, foreignToken, foreignDecimals, localMint, localDecimals, a.pool⟩
  Program.report (.tokenRelationStaged chain foreignToken localMint)
  return .tokenRelationSet chain foreignToken localMint a.pool.address poolCreated

/-- Custody is released through relations, so one is removed only if the pool has none left. -/
def removeTokenRelation (env : Environment) (caller : Caller) (a : TokenAccounts)
    (chain : Chain) (foreignToken localMint : Address) : Handler Receipt := do
  let _ ← BridgeConfig.authorize env.bridgeConfig caller.sender
  let _ ← TokenRelation.loadFor a.relation chain foreignToken localMint
  let outstanding ← Pool.runOutstanding a.pool localMint
  if 0 < outstanding then Program.fail (.relationInUse localMint outstanding)
  else
    let removed ← TokenRelation.runRemove a.relation chain foreignToken
    return .tokenRelationRemoved chain foreignToken removed.localMint

def setPoolFeeRate (env : Environment) (caller : Caller) (pool : Account) (mint : Address)
    (rate : UInt64) : Handler Receipt := do
  let _ ← BridgeConfig.authorize env.bridgeConfig caller.sender
  let old ← Pool.runSetFeeRate pool mint rate
  return .poolFeeRateSet mint old rate

end CustodyBridge
