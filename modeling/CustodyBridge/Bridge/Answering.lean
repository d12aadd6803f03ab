import CustodyBridge.Bridge.Operation
import CustodyBridge.Query

/-!
# Answering queries

Queries read the committed state. What they do not find they report as missing.
-/

namespace CustodyBridge

namespace Query

/-- The relations on a page, if the query does not tell. -/
def defaultLimit : UInt32 := 10

/-- The relations on a page, at most. -/
def maxLimit : UInt32 := 30

/-- How many relations a page holds. -/
def pageSize (limit? : Option UInt32) : Nat := min (limit?.getD defaultLimit).toNat maxLimit.toNat

/-- An error of the bridge as one of its store. -/
def asStoreError (e : BridgeError) : BridgeError := .store (.other e.message)

/-- The account of a purpose. -/
def account (env : Environment) (p : Purpose) : Handler Account :=
  Program.ofExcept ((env.account p).mapError asStoreError)

/-- A record that was looked up, or the report that it is missing. -/
def found {ρ : Type} (r? : Option ρ) (what : String) : Handler ρ :=
  Program.require r? (.store (.missing what))

def loadPool (a : Account) (mint : Address) : Handler Pool := do
  found (← Record.load? Pool a) s!"pool for mint {mint.toBase58}"

/-- The answer to a query, by the records of the moment. -/
def answer (env : Environment) : Query → Handler Answer
  | config => do
    let config ← Record.load BridgeConfig env.bridgeConfig
    let core ← Record.load CoreConfig env.coreConfig
    return .config config.admin core.superAdmin core.bridgeFee env.localChain env.nativeMint
      env.bridgeConfig env.coreConfig
  | chainRelation chain => do
    let a ← account env (.chainRelation chain)
    let relation ← found (← Record.load? ChainRelation a) s!"chain relation {chain.text}"
    return .chainRelation relation a
  | tokenRelation chain token => do
    let a ← account env (.tokenRelation chain token)
    let relation ← found (← Record.load? TokenRelation a)
      (BridgeError.message (.unknownTokenRelation chain token))
    return .tokenRelation ⟨relation, a.address⟩
  | tokenRelations after? limit? => do
    let relations ← TokenRelation.runList after? (pageSize limit?)
    return .tokenRelations (relations.map fun (a, relation) => ⟨relation, a⟩)
  | pool mint => do
    let a ← account env (.pool mint)
    return .pool (← loadPool a mint) a
  | position mint provider => do
    let poolAccount ← account env (.pool mint)
    let a ← account env (.position poolAccount.address provider)
    let pool ← loadPool poolAccount mint
    let position ← found (← Record.load? Position a) s!"liquidity of {provider.toBase58}"
    let reward ← Program.require (position.pendingReward? pool) (asStoreError .amountOverflow)
    return .position position reward a
  | currentNonce chain => do
    let a ← account env (.nonceCounter chain)
    return .nonce (← NonceCounter.runCurrent a)
  | feeVault => do
    let vault ← Record.load FeeVault env.feeVault
    return .feeVault vault.balance vault.totalCollected vault.totalWithdrawn env.feeVault
  | accounts chain token mint => do
    let chainRelation ← account env (.chainRelation chain)
    let tokenRelation ← account env (.tokenRelation chain token)
    let nonceCounter ← account env (.nonceCounter chain)
    let pool ← account env (.pool mint)
    return .accounts {
      bridgeConfig := env.bridgeConfig
      bridgeAuthority := env.bridgeAuthority
      coreConfig := env.coreConfig
      feeVault := env.feeVault
      chainRelation, tokenRelation, nonceCounter, pool }

/-- Answers a query from the committed state. -/
def perform (env : Environment) (q : Query) (ledger : Ledger) : Outcome BridgeError Answer :=
  (q.answer env).query ledger

end Query

end CustodyBridge
