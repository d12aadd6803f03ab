import CustodyBridge.Error
import CustodyBridge.Ledger.Access

/-!
# The environment of a bridge

What a running bridge is given: its programs, chain, fee mint and first fee, and the accounts that
it has only once. Further accounts are derived for each call, which declares those it touches.
-/

namespace CustodyBridge

/-- What is fixed when the bridge starts: how addresses are derived and for which programs, where it
runs, and the accounts of which there is one. -/
structure Environment where
  scheme : AddressScheme
  programs : Programs
  localChain : Chain
  nativeMint : Address
  defaultBridgeFee : UInt64
  bridgeConfig : Account
  bridgeAuthority : Account
  coreConfig : Account
  feeVault : Account

namespace Environment

/-- The environment whose single accounts are derived from the programs. -/
def derive (scheme : AddressScheme) (programs : Programs) (localChain : Chain)
    (nativeMint : Address) (defaultBridgeFee : UInt64) : Except DerivationError Environment := do
  return {
    scheme, programs, localChain, nativeMint, defaultBridgeFee
    bridgeConfig := ← Purpose.bridgeConfig.account scheme programs
    bridgeAuthority := ← Purpose.bridgeAuthority.account scheme programs
    coreConfig := ← Purpose.coreConfig.account scheme programs
    feeVault := ← Purpose.feeVault.account scheme programs }

/-- The environment that settings stand for. -/
def ofSettings (scheme : AddressScheme) (s : Settings) : Except BridgeError Environment := do
  s.validate.mapError .invalidSettings
  let programs ← s.programs.mapError .invalidAddress
  let mint ← s.mint.mapError .invalidAddress
  (derive scheme programs s.localChain mint s.defaultBridgeFee).mapError .derivation

def account (env : Environment) (p : Purpose) : Except BridgeError Account :=
  (p.account env.scheme env.programs).mapError .derivation

/-! ## Access to the single accounts -/

/-- The founding writes all four single records. -/
def initializeAccess (env : Environment) : AccessSet :=
  (((AccessSet.empty.write env.bridgeConfig).write env.bridgeAuthority).write
    env.coreConfig).write env.feeVault

def bridgeConfigAccess (env : Environment) : AccessSet := AccessSet.empty.write env.bridgeConfig

def coreConfigAccess (env : Environment) : AccessSet := AccessSet.empty.write env.coreConfig

def withdrawFeeAccess (env : Environment) : AccessSet :=
  (AccessSet.empty.read env.coreConfig).write env.feeVault

end Environment

/-! ## Accounts of a proposal -/

/-- The accounts of a proposal that depend on what it asks for. -/
structure ProposalAccounts where
  chainRelation : Account
  tokenRelation : Account
  pool : Account
  nonceCounter : Account

namespace ProposalAccounts

def resolve (env : Environment) (chain : Chain) (token mint : Address) :
    Except BridgeError ProposalAccounts := do
  return {
    chainRelation := ← env.account (.chainRelation chain)
    tokenRelation := ← env.account (.tokenRelation chain token)
    pool := ← env.account (.pool mint)
    nonceCounter := ← env.account (.nonceCounter chain) }

/-- A proposal only reads configurations and relations. -/
def access (env : Environment) (a : ProposalAccounts) : AccessSet :=
  ((((((AccessSet.empty.read env.bridgeConfig).read env.coreConfig).read a.chainRelation).read
    a.tokenRelation).write a.pool).write a.nonceCounter).write env.feeVault

end ProposalAccounts

/-! ## Accounts of a chain relation -/

def chainRelationAccess (env : Environment) (relation : Account) : AccessSet :=
  (AccessSet.empty.read env.bridgeConfig).write relation

/-! ## Accounts of a token relation -/

/-- The account of a relation and the pool of its local mint. -/
structure TokenAccounts where
  relation : Account
  pool : Account

namespace TokenAccounts

def resolve (env : Environment) (chain : Chain) (token mint : Address) :
    Except BridgeError TokenAccounts := do
  return {
    relation := ← env.account (.tokenRelation chain token)
    pool := ← env.account (.pool mint) }

def setAccess (env : Environment) (a : TokenAccounts) : AccessSet :=
  (((AccessSet.empty.read env.bridgeConfig).read env.bridgeAuthority).write a.relation).write
    a.pool

/-- Removal reads the pool, which must have nothing outstanding. -/
def removeAccess (env : Environment) (a : TokenAccounts) : AccessSet :=
  ((AccessSet.empty.read env.bridgeConfig).write a.relation).read a.pool

def releaseAccess (env : Environment) (a : TokenAccounts) : AccessSet :=
  ((AccessSet.empty.read env.bridgeConfig).read a.relation).write a.pool

end TokenAccounts

/-! ## Accounts of a pool and a position -/

def poolAccess (env : Environment) (pool : Account) : AccessSet :=
  (AccessSet.empty.read env.bridgeConfig).write pool

/-- The pool of a mint and a provider's position in it. -/
structure LiquidityAccounts where
  pool : Account
  position : Account

namespace LiquidityAccounts

def resolve (env : Environment) (mint provider : Address) :
    Except BridgeError LiquidityAccounts := do
  let pool ← env.account (.pool mint)
  let position ← env.account (.position pool.address provider)
  return ⟨pool, position⟩

def access (a : LiquidityAccounts) : AccessSet :=
  (AccessSet.empty.write a.pool).write a.position

end LiquidityAccounts

end CustodyBridge
