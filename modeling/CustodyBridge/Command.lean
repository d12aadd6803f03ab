import CustodyBridge.Proposal
import CustodyBridge.Relation

/-!
# Commands

What callers may ask of the bridge, and its JSON form: an object with one field that names the
command and holds its arguments.
-/

namespace CustodyBridge

open JsonForm

/-! ## Instantiation -/

/-- The bump of the bridge's configuration, and what is not to be the default. -/
structure Instantiation where
  bump : UInt8
  superAdmin? : Option Address
  bridgeFee? : Option UInt64
deriving DecidableEq

instance : JsonForm Instantiation where
  toJson i := .object [
    ("bump", toJson i.bump), ("super_admin", toJson i.superAdmin?),
    ("bridge_fee", toJson i.bridgeFee?)]
  ofJson? j := do
    let fields ← j.fields? ["bump", "super_admin", "bridge_fee"]
    return ⟨← fields.required "bump", ← fields.optional "super_admin",
      ← fields.optional "bridge_fee"⟩

/-! ## Commands -/

/-- What is asked of a bridge that has been founded. -/
inductive Command where
  | propose (request : ProposalRequest)
  | setChainRelation (chain : Chain) (update : ChainRelationUpdate)
  | setTokenRelation (chain : Chain) (foreignToken : Address) (foreignDecimals : UInt8)
      (localMint : Address) (localDecimals : UInt8)
  | removeTokenRelation (chain : Chain) (foreignToken localMint : Address)
  | releaseCustody (chain : Chain) (foreignToken localMint recipient : Address)
      (amount : Word128)
  | withdrawFee (amount : UInt64)
  | setBridgeFee (fee : UInt64)
  | setPoolFeeRate (mint : Address) (rate : UInt64)
  | addLiquidity (mint : Address) (amount : UInt64)
  | removeLiquidity (mint : Address) (amount : UInt64)
  | withdrawReward (mint : Address) (amount : UInt64)
  | changeAdmin (admin : Address)
  | changeSuperAdmin (superAdmin : Address)
deriving DecidableEq

namespace Command

/-- One variant for each command, with what it asks for as fields. -/
def toJson : Command → Json
  | propose r => .ofVariant "bridge_proposal" [
      ("to_chain", JsonForm.toJson r.toChain), ("to_token", JsonForm.toJson r.toToken),
      ("to_who", JsonForm.toJson r.recipient), ("token_mint", JsonForm.toJson r.mint),
      ("all_amount", JsonForm.toJson r.amount), ("upload_gas_fee", JsonForm.toJson r.gasFee)]
  | setChainRelation chain u => .ofVariant "set_chain_relation" [
      ("chain", JsonForm.toJson chain), ("executor", JsonForm.toJson u.executor?),
      ("fee_token", JsonForm.toJson u.feeToken?), ("active", JsonForm.toJson u.active?)]
  | setTokenRelation chain foreignToken foreignDecimals localMint localDecimals =>
    .ofVariant "set_token_relation" [
      ("chain", JsonForm.toJson chain), ("foreign_token", JsonForm.toJson foreignToken),
      ("foreign_decimals", JsonForm.toJson foreignDecimals),
      ("local_mint", JsonForm.toJson localMint),
      ("local_decimals", JsonForm.toJson localDecimals)]
  | removeTokenRelation chain foreignToken localMint => .ofVariant "remove_token_relation" [
      ("chain", JsonForm.toJson chain), ("foreign_token", JsonForm.toJson foreignToken),
      ("local_mint", JsonForm.toJson localMint)]
  | releaseCustody chain foreignToken localMint recipient amount =>
    .ofVariant "release_custody" [
      ("chain", JsonForm.toJson chain), ("foreign_token", JsonForm.toJson foreignToken),
      ("local_mint", JsonForm.toJson localMint), ("recipient", JsonForm.toJson recipient),
      ("amount", Word128.toJson amount)]
  | withdrawFee amount => .ofVariant "withdraw_fee" [("amount", JsonForm.toJson amount)]
  | setBridgeFee fee => .ofVariant "set_bridge_fee" [("bridge_fee", JsonForm.toJson fee)]
  | setPoolFeeRate mint rate => .ofVariant "set_pool_fee_rate" [
      ("mint", JsonForm.toJson mint), ("fee_rate", JsonForm.toJson rate)]
  | addLiquidity mint amount => .ofVariant "add_liquidity" [
      ("mint", JsonForm.toJson mint), ("amount", JsonForm.toJson amount)]
  | removeLiquidity mint amount => .ofVariant "remove_liquidity" [
      ("mint", JsonForm.toJson mint), ("amount", JsonForm.toJson amount)]
  | withdrawReward mint amount => .ofVariant "withdraw_lp_reward" [
      ("mint", JsonForm.toJson mint), ("amount", JsonForm.toJson amount)]
  | changeAdmin admin => .ofVariant "change_admin" [("new_admin", JsonForm.toJson admin)]
  | changeSuperAdmin superAdmin =>
    .ofVariant "change_super_admin" [("new_super_admin", JsonForm.toJson superAdmin)]

/-- The command of a name with given arguments. -/
def ofArguments? (name : String) (j : Json) : Option Command := do
  match name with
  | "bridge_proposal" =>
    let fields ← j.fields? [
      "to_chain", "to_token", "to_who", "token_mint", "all_amount", "upload_gas_fee"]
    return propose {
      toChain := ← fields.required "to_chain"
      toToken := ← fields.required "to_token"
      recipient := ← fields.required "to_who"
      mint := ← fields.required "token_mint"
      amount := ← fields.required "all_amount"
      gasFee := ← fields.required "upload_gas_fee" }
  | "set_chain_relation" =>
    let fields ← j.fields? ["chain", "executor", "fee_token", "active"]
    return setChainRelation (← fields.required "chain") {
      executor? := ← fields.optional "executor"
      feeToken? := ← fields.optional "fee_token"
      active? := ← fields.optional "active" }
  | "set_token_relation" =>
    let fields ← j.fields? [
      "chain", "foreign_token", "foreign_decimals", "local_mint", "local_decimals"]
    return setTokenRelation (← fields.required "chain") (← fields.required "foreign_token")
      (← fields.required "foreign_decimals") (← fields.required "local_mint")
      (← fields.required "local_decimals")
  | "remove_token_relation" =>
    let fields ← j.fields? ["chain", "foreign_token", "local_mint"]
    return removeTokenRelation (← fields.required "chain") (← fields.required "foreign_token")
      (← fields.required "local_mint")
  | "release_custody" =>
    let fields ← j.fields? ["chain", "foreign_token", "local_mint", "recipient", "amount"]
    return releaseCustody (← fields.required "chain") (← fields.required "foreign_token")
      (← fields.required "local_mint") (← fields.required "recipient")
      (← (fields.lookup "amount").bind Word128.ofJson?)
  | "withdraw_fee" =>
    let fields ← j.fields? ["amount"]
    return withdrawFee (← fields.required "amount")
  | "set_bridge_fee" =>
    let fields ← j.fields? ["bridge_fee"]
    return setBridgeFee (← fields.required "bridge_fee")
  | "set_pool_fee_rate" =>
    let fields ← j.fields? ["mint", "fee_rate"]
    return setPoolFeeRate (← fields.required "mint") (← fields.required "fee_rate")
  | "add_liquidity" =>
    let fields ← j.fields? ["mint", "amount"]
    return addLiquidity (← fields.required "mint") (← fields.required "amount")
  | "remove_liquidity" =>
    let fields ← j.fields? ["mint", "amount"]
    return removeLiquidity (← fields.required "mint") (← fields.required "amount")
  | "withdraw_lp_reward" =>
    let fields ← j.fields? ["mint", "amount"]
    return withdrawReward (← fields.required "mint") (← fields.required "amount")
  | "change_admin" =>
    let fields ← j.fields? ["new_admin"]
    return changeAdmin (← fields.required "new_admin")
  | "change_super_admin" =>
    let fields ← j.fields? ["new_super_admin"]
    return changeSuperAdmin (← fields.required "new_super_admin")
  | _ => none

instance : JsonForm Command where
  toJson := toJson
  ofJson? j := j.variant?.bind fun (name, arguments) => ofArguments? name arguments

end Command

end CustodyBridge
