import CustodyBridge.Pool.Basic
import CustodyBridge.Relation

/-!
# Queries and answers

What may be asked about the committed state, and what the answers hold.
-/

namespace CustodyBridge

open JsonForm

/-! ## Queries -/

/-- What can be asked without a change. -/
inductive Query where
  | config
  | chainRelation (chain : Chain)
  | tokenRelation (chain : Chain) (token : Address)
  | tokenRelations (after? : Option Address) (limit? : Option UInt32)
  | pool (mint : Address)
  | position (mint provider : Address)
  | currentNonce (chain : Chain)
  | feeVault
  | accounts (chain : Chain) (token mint : Address)
deriving DecidableEq

namespace Query

def toJson : Query → Json
  | config => .ofVariant "config" []
  | chainRelation chain => .ofVariant "chain_relation" [("chain", JsonForm.toJson chain)]
  | tokenRelation chain token => .ofVariant "token_relation" [
      ("chain", JsonForm.toJson chain), ("foreign_token", JsonForm.toJson token)]
  | tokenRelations after? limit? => .ofVariant "token_relations" [
      ("start_after", JsonForm.toJson after?), ("limit", JsonForm.toJson limit?)]
  | pool mint => .ofVariant "pool" [("mint", JsonForm.toJson mint)]
  | position mint provider => .ofVariant "lp" [
      ("mint", JsonForm.toJson mint), ("provider", JsonForm.toJson provider)]
  | currentNonce chain => .ofVariant "current_nonce" [("chain", JsonForm.toJson chain)]
  | feeVault => .ofVariant "fee_vault" []
  | accounts chain token mint => .ofVariant "accounts" [
      ("chain", JsonForm.toJson chain), ("foreign_token", JsonForm.toJson token),
      ("mint", JsonForm.toJson mint)]

/-- The query of a name with given arguments. -/
def ofArguments? (name : String) (j : Json) : Option Query := do
  match name with
  | "config" =>
    let _ ← j.fields? []
    return config
  | "chain_relation" =>
    let fields ← j.fields? ["chain"]
    return chainRelation (← fields.required "chain")
  | "token_relation" =>
    let fields ← j.fields? ["chain", "foreign_token"]
    return tokenRelation (← fields.required "chain") (← fields.required "foreign_token")
  | "token_relations" =>
    let fields ← j.fields? ["start_after", "limit"]
    return tokenRelations (← fields.optional "start_after") (← fields.optional "limit")
  | "pool" =>
    let fields ← j.fields? ["mint"]
    return pool (← fields.required "mint")
  | "lp" =>
    let fields ← j.fields? ["mint", "provider"]
    return position (← fields.required "mint") (← fields.required "provider")
  | "current_nonce" =>
    let fields ← j.fields? ["chain"]
    return currentNonce (← fields.required "chain")
  | "fee_vault" =>
    let _ ← j.fields? []
    return feeVault
  | "accounts" =>
    let fields ← j.fields? ["chain", "foreign_token", "mint"]
    return accounts (← fields.required "chain") (← fields.required "foreign_token")
      (← fields.required "mint")
  | _ => none

instance : JsonForm Query where
  toJson := toJson
  ofJson? j := j.variant?.bind fun (name, arguments) => ofArguments? name arguments

end Query

/-! ## Answers -/

/-- A token relation and the address of its account. -/
structure TokenRelationEntry where
  relation : TokenRelation
  account : Address
deriving DecidableEq

/-- The account stands behind the fields of the relation. -/
def TokenRelationEntry.toJson (e : TokenRelationEntry) : Json :=
  match JsonForm.toJson e.relation with
  | .object fields => .object (fields ++ [("account", JsonForm.toJson e.account)])
  | j => j

/-- The accounts that a proposal of a chain, a token and a mint touches. -/
structure AccountList where
  bridgeConfig : Account
  bridgeAuthority : Account
  coreConfig : Account
  feeVault : Account
  chainRelation : Account
  tokenRelation : Account
  nonceCounter : Account
  pool : Account
deriving DecidableEq

/-- What queries are told. -/
inductive Answer where
  | config (admin superAdmin : Address) (bridgeFee : UInt64) (localChain : Chain)
      (nativeMint : Address) (bridgeConfig coreConfig : Account)
  | chainRelation (relation : ChainRelation) (account : Account)
  | tokenRelation (entry : TokenRelationEntry)
  | tokenRelations (entries : List TokenRelationEntry)
  | pool (pool : Pool) (account : Account)
  | position (position : Position) (pendingReward : UInt64) (account : Account)
  | nonce (nonce : UInt64)
  | feeVault (balance totalCollected totalWithdrawn : UInt64) (account : Account)
  | accounts (list : AccountList)
deriving DecidableEq

def Answer.toJson : Answer → Json
  | config admin superAdmin bridgeFee localChain nativeMint bridgeConfig coreConfig => .object [
      ("admin", JsonForm.toJson admin), ("super_admin", JsonForm.toJson superAdmin),
      ("bridge_fee", JsonForm.toJson bridgeFee), ("local_chain", JsonForm.toJson localChain),
      ("native_mint", JsonForm.toJson nativeMint),
      ("bridge_config", JsonForm.toJson bridgeConfig),
      ("core_config", JsonForm.toJson coreConfig)]
  | chainRelation r account => .object [
      ("chain", JsonForm.toJson r.chain), ("executor", JsonForm.toJson r.executor),
      ("fee_token", JsonForm.toJson r.feeToken), ("active", JsonForm.toJson r.active),
      ("account", JsonForm.toJson account)]
  | tokenRelation entry => entry.toJson
  | tokenRelations entries => .object [("relations", .ofList (entries.map (·.toJson)))]
  | pool p account => .object [
      ("mint", JsonForm.toJson p.mint), ("authority", JsonForm.toJson p.authority),
      ("balance", JsonForm.toJson p.balance), ("total_locked", JsonForm.toJson p.totalLocked),
      ("total_released", JsonForm.toJson p.totalReleased),
      ("liquidity", JsonForm.toJson p.liquidity), ("fee_rate", JsonForm.toJson p.feeRate),
      ("total_earns", JsonForm.toJson p.totalEarns), ("account", JsonForm.toJson account)]
  | position p pendingReward account => .object [
      ("mint", JsonForm.toJson p.mint), ("provider", JsonForm.toJson p.provider),
      ("amount", JsonForm.toJson p.amount), ("earns", JsonForm.toJson p.earns),
      ("pending_reward", JsonForm.toJson pendingReward), ("account", JsonForm.toJson account)]
  | nonce n => .object [("nonce", JsonForm.toJson n)]
  | feeVault balance totalCollected totalWithdrawn account => .object [
      ("balance", JsonForm.toJson balance), ("total_collected", JsonForm.toJson totalCollected),
      ("total_withdrawn", JsonForm.toJson totalWithdrawn), ("account", JsonForm.toJson account)]
  | accounts l => .object [
      ("bridge_config", JsonForm.toJson l.bridgeConfig),
      ("bridge_authority", JsonForm.toJson l.bridgeAuthority),
      ("core_config", JsonForm.toJson l.coreConfig), ("fee_vault", JsonForm.toJson l.feeVault),
      ("chain_relation", JsonForm.toJson l.chainRelation),
      ("token_relation", JsonForm.toJson l.tokenRelation),
      ("to_chain_nonce", JsonForm.toJson l.nonceCounter), ("pool", JsonForm.toJson l.pool)]

def Answer.render (a : Answer) : String := a.toJson.render

end CustodyBridge
