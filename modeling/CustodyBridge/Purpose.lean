import CustodyBridge.Chain
import CustodyBridge.Derivation

/-!
# What an account is for

Each kind of record has accounts of its own, owned by one of the bridge's two programs and derived
from what the record is about.
-/

namespace CustodyBridge

/-- The two programs that own the bridge's accounts. -/
structure Programs where
  bridge : Address
  message : Address
deriving DecidableEq

/-- What an account is for. -/
inductive Purpose where
  | bridgeConfig
  | bridgeAuthority
  | coreConfig
  | feeVault
  | pool (mint : Address)
  | position (custody provider : Address)
  | chainRelation (chain : Chain)
  | tokenRelation (chain : Chain) (token : Address)
  | nonceCounter (chain : Chain)
deriving DecidableEq

namespace Purpose

/-- The program under which a purpose has its account. -/
def owner (programs : Programs) : Purpose → Address
  | coreConfig | feeVault | nonceCounter _ => programs.message
  | _ => programs.bridge

/-- What the account's record is about. -/
def subject : Purpose → List Bytes
  | pool mint => [mint.bytes]
  | position custody provider => [custody.bytes, provider.bytes]
  | chainRelation chain | nonceCounter chain => [chain.key]
  | tokenRelation chain token => [chain.key, token.bytes]
  | _ => []

/-- The namespace's tag. Token relations have none. -/
def tag? : Purpose → Option String
  | bridgeConfig | coreConfig => some "global"
  | bridgeAuthority => some "bridge"
  | feeVault => some "vaultFee"
  | pool _ => some "pool"
  | position _ _ => some "lp"
  | chainRelation _ => some "chain_relation"
  | nonceCounter _ => some "toNonce"
  | tokenRelation _ _ => none

/-- The subject, with the tag behind it. -/
def seeds (p : Purpose) : List Bytes := p.subject ++ (p.tag?.map Bytes.ofText).toList

/-- Only token relations have no tag, and are derived without one. -/
def account (p : Purpose) (scheme : AddressScheme) (programs : Programs) :
    Except DerivationError Account :=
  match p.tag? with
  | some tag => scheme.derive (p.owner programs) (Bytes.ofText tag) p.subject
  | none => scheme.deriveUntagged (p.owner programs) p.subject

end Purpose

end CustodyBridge
