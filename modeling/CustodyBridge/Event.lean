import CustodyBridge.Address
import CustodyBridge.Chain

/-!
# Events

What the bridge reports while it runs.
-/

namespace CustodyBridge

/-- What the bridge reports beside its answers. -/
inductive Event where
  | transactionCommitted (accounts writes : Nat)
  | transactionRolledBack (accounts discarded : Nat)
  | configsStaged (admin superAdmin : Address)
  | adminCallRejected (caller : Address)
  | superAdminCallRejected (caller : Address)
  | poolCreated (mint pool : Address)
  | tokenRelationStaged (chain : Chain) (token mint : Address)
  | custodyAndFeesStaged (poolBalance vaultBalance : UInt64)
  | initialized (config : Address)
  | proposalEmitted (nonce amount : UInt64) (id : Bytes32)
  | executed (method : String)
deriving DecidableEq

/-- A line of the log. -/
def Event.text : Event → String
  | .transactionCommitted accounts writes =>
    s!"DEBUG transaction committed accounts={accounts} writes={writes}"
  | .transactionRolledBack accounts discarded =>
    s!"DEBUG transaction rolled back accounts={accounts} discarded={discarded}"
  | .configsStaged admin superAdmin =>
    s!"DEBUG configs staged admin={admin.toBase58} super_admin={superAdmin.toBase58}"
  | .adminCallRejected caller => s!"WARN rejected admin call caller={caller.toBase58}"
  | .superAdminCallRejected caller => s!"WARN rejected super admin call caller={caller.toBase58}"
  | .poolCreated mint pool =>
    s!"DEBUG custody pool created mint={mint.toBase58} pool={pool.toBase58}"
  | .tokenRelationStaged chain token mint =>
    s!"DEBUG token relation staged chain={chain.text} token={token.toHex} mint={mint.toBase58}"
  | .custodyAndFeesStaged poolBalance vaultBalance =>
    s!"DEBUG custody and fees staged pool_balance={poolBalance} vault_balance={vaultBalance}"
  | .initialized config => s!"INFO bridge initialized config={config.toBase58}"
  | .proposalEmitted nonce amount id =>
    s!"INFO bridge proposal emitted nonce={nonce} amount={amount} id={Address.toHex id}"
  | .executed method => s!"INFO execute committed method={method}"

end CustodyBridge
