import CustodyBridge.Pool.Basic
import CustodyBridge.Proposal
import CustodyBridge.Relation

/-!
# Receipts

What a successful command gives back: named attributes, and for a proposal the proposal itself.
-/

namespace CustodyBridge

/-- What a call that succeeds is told. -/
inductive Receipt where
  | initialized (config admin superAdmin : Address) (bridgeFee : UInt64)
  | proposed (proposal : Proposal)
  | chainRelationSet (chain : Chain) (relation : ChainRelation)
  | tokenRelationSet (chain : Chain) (foreignToken localMint pool : Address) (poolCreated : Bool)
  | tokenRelationRemoved (chain : Chain) (foreignToken localMint : Address)
  | custodyReleased (chain : Chain) (localMint recipient : Address) (foreignAmount : Word128)
      (amount : UInt64) (release : Pool.Release)
  | feeWithdrawn (recipient : Address) (amount remaining : UInt64)
  | bridgeFeeSet (old new : UInt64)
  | poolFeeRateSet (mint : Address) (old new : UInt64)
  | liquidityAdded (mint provider : Address) (amount position : UInt64)
  | liquidityRemoved (mint provider : Address) (amount position : UInt64)
  | rewardWithdrawn (mint provider : Address) (amount remaining : UInt64)
  | adminChanged (old new : Address)
  | superAdminChanged (old new : Address)
deriving DecidableEq

namespace Receipt

def method : Receipt → String
  | initialized .. => "initialize"
  | proposed .. => "bridge_proposal"
  | chainRelationSet .. => "set_chain_relation"
  | tokenRelationSet .. => "set_token_relation"
  | tokenRelationRemoved .. => "remove_token_relation"
  | custodyReleased .. => "release_custody"
  | feeWithdrawn .. => "withdraw_fee"
  | bridgeFeeSet .. => "set_bridge_fee"
  | poolFeeRateSet .. => "set_pool_fee_rate"
  | liquidityAdded .. => "add_liquidity"
  | liquidityRemoved .. => "remove_liquidity"
  | rewardWithdrawn .. => "withdraw_lp_reward"
  | adminChanged .. => "change_admin"
  | superAdminChanged .. => "change_super_admin"

/-- The attributes behind the method. -/
def details : Receipt → List (String × String)
  | initialized config admin superAdmin bridgeFee => [
      ("contract_name", "token-bridge"), ("contract_version", "0.1.0"),
      ("config", config.toBase58), ("admin", admin.toBase58),
      ("super_admin", superAdmin.toBase58), ("bridge_fee", toString bridgeFee)]
  | proposed p => [
      ("proposal_id", p.idText), ("nonce", toString p.nonce), ("sender", p.sender.toBase58),
      ("recipient", p.recipient.toHex), ("dest_chain", p.destinationChain.text),
      ("token_mint", p.sourceMint.toBase58), ("amount", toString p.amount),
      ("gas_fee", toString p.gasFee), ("bridge_fee", toString p.bridgeFee)]
  | chainRelationSet chain r => [
      ("chain", chain.text), ("executor", r.executor.toHex), ("fee_token", r.feeToken.toHex),
      ("active", toString r.active)]
  | tokenRelationSet chain foreignToken localMint pool poolCreated => [
      ("chain", chain.text), ("foreign_token", foreignToken.toHex),
      ("local_mint", localMint.toBase58), ("pool", pool.toBase58),
      ("pool_created", toString poolCreated)]
  | tokenRelationRemoved chain foreignToken localMint => [
      ("chain", chain.text), ("foreign_token", foreignToken.toHex),
      ("local_mint", localMint.toBase58)]
  | custodyReleased chain localMint recipient foreignAmount amount release => [
      ("src_chain", chain.text), ("local_mint", localMint.toBase58),
      ("recipient", recipient.toBase58), ("foreign_amount", toString foreignAmount.toNat),
      ("amount", toString amount), ("payout", toString release.payout),
      ("lp_fee", toString release.fee), ("pool_balance", toString release.balance)]
  | feeWithdrawn recipient amount remaining => [
      ("recipient", recipient.toBase58), ("amount", toString amount),
      ("remaining", toString remaining)]
  | bridgeFeeSet old new => [
      ("old_bridge_fee", toString old), ("bridge_fee", toString new)]
  | poolFeeRateSet mint old new => [
      ("mint", mint.toBase58), ("old_fee_rate", toString old), ("fee_rate", toString new)]
  | liquidityAdded mint provider amount position
  | liquidityRemoved mint provider amount position => [
      ("mint", mint.toBase58), ("provider", provider.toBase58), ("amount", toString amount),
      ("position", toString position)]
  | rewardWithdrawn mint provider amount remaining => [
      ("mint", mint.toBase58), ("provider", provider.toBase58), ("amount", toString amount),
      ("remaining_reward", toString remaining)]
  | adminChanged old new => [("old_admin", old.toBase58), ("new_admin", new.toBase58)]
  | superAdminChanged old new => [
      ("old_super_admin", old.toBase58), ("new_super_admin", new.toBase58)]

/-- The method, and the details behind it. -/
def attributes (r : Receipt) : List (String × String) := ("method", r.method) :: r.details

/-- The JSON text that goes with the attributes. -/
def data? : Receipt → Option String
  | proposed p => some (JsonForm.write p)
  | _ => none

end Receipt

end CustodyBridge
