import CustodyBridge.Json.Form
import CustodyBridge.Ledger.Program

/-!
# Tables

Each kind of record has a table. A record's key is the table's name, with its length in front, and
the address of the account that holds the record. Its value is its JSON text.
-/

namespace CustodyBridge

/-- The kinds of records. -/
inductive Table where
  | bridgeConfigs
  | bridgeAuthorities
  | coreConfigs
  | chainRelations
  | tokenRelations
  | pools
  | positions
  | nonceCounters
  | feeVaults
deriving DecidableEq

namespace Table

def name : Table → String
  | bridgeConfigs => "bridge_config"
  | bridgeAuthorities => "bridge_authority"
  | coreConfigs => "core_config"
  | chainRelations => "chain_relations"
  | tokenRelations => "token_relations"
  | pools => "pools"
  | positions => "lps"
  | nonceCounters => "to_chain_nonces"
  | feeVaults => "fee_vaults"

/-- What the records of a table are called in reports. -/
def recordName : Table → String
  | bridgeConfigs => "BridgeConfig"
  | bridgeAuthorities => "BridgeAuthority"
  | coreConfigs => "CoreConfig"
  | chainRelations => "ChainRelation"
  | tokenRelations => "TokenRelation"
  | pools => "Pool"
  | positions => "Lp"
  | nonceCounters => "ToChainNonce"
  | feeVaults => "FeeVault"

/-- What the keys of a table start with. -/
def lead (t : Table) : Bytes :=
  let name := Bytes.ofText t.name
  Bytes.ofNat 2 name.length ++ name

/-- Where a table has the record of an account. -/
def key (t : Table) (a : Address) : Bytes := t.lead ++ a.bytes

/-- The least byte string above all keys of a table. -/
def bound (t : Table) : Bytes :=
  t.lead.dropLast ++ (t.lead.getLast?.map (· + 1)).toList

end Table

/-! ## Faults of stored records -/

/-- What can be wrong with a stored record. -/
inductive StoreError where
  | unreadable
  | missing (what : String)
  | other (text : String)
deriving DecidableEq

namespace StoreError

def message : StoreError → String
  | unreadable => "Error parsing into type"
  | missing what => s!"{what} not found"
  | other text => s!"Generic error: {text}"

def hexByte (b : UInt8) : String :=
  String.ofList [(Nat.digitChar (b.toNat / 16)).toUpper, (Nat.digitChar (b.toNat % 16)).toUpper]

/-- The report that a record which must exist does not. -/
def missingRecord (t : Table) (a : Address) : StoreError :=
  let key := ", ".intercalate ((t.key a).map hexByte)
  missing s!"type: token_bridge::state::{t.recordName}; key: [{key}]"

end StoreError

/-! ## Records -/

/-- A type whose values are stored in a table of their own, each for one account. -/
class Record (ρ : Type) extends JsonForm ρ where
  table : Table

namespace Record

def key (ρ : Type) [Record ρ] (a : Account) : Bytes := (table ρ).key a.address

end Record

end CustodyBridge
