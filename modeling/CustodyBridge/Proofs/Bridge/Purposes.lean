import CustodyBridge.Bridge.Operation
import CustodyBridge.Proofs.Ledger.Exec
import CustodyBridge.Proofs.Purpose

/-!
# Purposes of calls

The purposes for which calls derive accounts. That different purposes have accounts of different
addresses is not a fact about the bridge but one about a hash, and is assumed where it is needed.
-/

namespace CustodyBridge

def Purpose.table : Purpose → Table
  | bridgeConfig => .bridgeConfigs
  | bridgeAuthority => .bridgeAuthorities
  | coreConfig => .coreConfigs
  | feeVault => .feeVaults
  | pool _ => .pools
  | position _ _ => .positions
  | chainRelation _ => .chainRelations
  | tokenRelation _ _ => .tokenRelations
  | nonceCounter _ => .nonceCounters

namespace Environment

/-- The address of a purpose's account, if it has one. -/
def address? (env : Environment) (p : Purpose) : Option Address :=
  match env.account p with
  | .ok a => some a.address
  | .error _ => none

theorem address?_of_account {env : Environment} {p : Purpose} {a : Account}
    (h : env.account p = .ok a) : env.address? p = some a.address := by
  rw [address?, h]

theorem address?_eq_some {env : Environment} {p : Purpose} {a : Address} :
    env.address? p = some a ↔ ∃ b, env.account p = .ok b ∧ b.address = a := by
  unfold address?
  cases env.account p <;> simp

/-- Among given purposes of a table, no two have accounts of one address. -/
def Apart (env : Environment) (t : Table) (purposes : List Purpose) : Prop :=
  ∀ p ∈ purposes, ∀ q ∈ purposes, p.table = t → q.table = t →
    (env.address? p).isSome = true → env.address? p = env.address? q → p = q

end Environment

/-! ## Purposes that calls name -/

/-- The purposes for which a command derives accounts. -/
def Command.purposes (env : Environment) (sender : Address) : Command → List Purpose
  | propose r =>
    [.chainRelation r.toChain, .tokenRelation r.toChain r.toToken, .pool r.mint,
      .nonceCounter r.toChain]
  | setChainRelation chain _ => [.chainRelation chain]
  | setTokenRelation chain token _ mint _ | removeTokenRelation chain token mint
  | releaseCustody chain token mint _ _ => [.tokenRelation chain token, .pool mint]
  | setPoolFeeRate mint _ => [.pool mint]
  | addLiquidity mint _ | removeLiquidity mint _ | withdrawReward mint _ =>
    .pool mint :: (env.address? (.pool mint)).toList.map fun custody => .position custody sender
  | withdrawFee _ | setBridgeFee _ | changeAdmin _ | changeSuperAdmin _ => []

namespace Call

def purposes (env : Environment) : Call → List Purpose
  | instantiate _ _ => []
  | propose caller request => (Command.propose request).purposes env caller.sender
  | execute caller command => command.purposes env caller.sender

def named (env : Environment) (calls : List Call) : List Purpose := calls.flatMap (purposes env)

theorem mem_named {env : Environment} {calls : List Call} {c : Call} {p : Purpose}
    (hc : c ∈ calls) (hp : p ∈ c.purposes env) : p ∈ named env calls :=
  List.mem_flatMap.2 ⟨c, hc, hp⟩

end Call

/-! ## Accounts that are derived together -/

section resolve

variable {env : Environment} {chain : Chain} {token mint provider : Address}

theorem ProposalAccounts.resolve_eq_ok {a : ProposalAccounts}
    (h : resolve env chain token mint = .ok a) :
    env.account (.chainRelation chain) = .ok a.chainRelation ∧
      env.account (.tokenRelation chain token) = .ok a.tokenRelation ∧
      env.account (.pool mint) = .ok a.pool ∧
      env.account (.nonceCounter chain) = .ok a.nonceCounter := by
  simp [resolve, except_bind_eq_ok, except_map_eq_ok] at h
  obtain ⟨_, hchain, _, htoken, _, hpool, _, hcounter, rfl⟩ := h
  exact ⟨hchain, htoken, hpool, hcounter⟩

theorem TokenAccounts.resolve_eq_ok {a : TokenAccounts}
    (h : resolve env chain token mint = .ok a) :
    env.account (.tokenRelation chain token) = .ok a.relation ∧
      env.account (.pool mint) = .ok a.pool := by
  simp [resolve, except_bind_eq_ok, except_map_eq_ok] at h
  obtain ⟨_, htoken, _, hpool, rfl⟩ := h
  exact ⟨htoken, hpool⟩

theorem LiquidityAccounts.resolve_eq_ok {a : LiquidityAccounts}
    (h : resolve env mint provider = .ok a) :
    env.account (.pool mint) = .ok a.pool ∧
      env.account (.position a.pool.address provider) = .ok a.position := by
  simp [resolve, except_bind_eq_ok, except_map_eq_ok] at h
  obtain ⟨_, hpool, _, hposition, rfl⟩ := h
  exact ⟨hpool, hposition⟩

end resolve

/-! ## A small bridge -/

/-- A bridge whose accounts are easily computed: the address of seeds is the number they denote,
modulo the prime 2^255 - 19, and no address is a point of the curve. -/
def Environment.small : Environment where
  scheme := {
    digest bytes := ⟨Bytes.ofNat 32 (Bytes.toNat bytes %
      57896044618658097711785492504343953926634992332820282019728792003956564819949), by simp⟩
    onCurve _ := false }
  programs := ⟨⟨Bytes.ofNat 32 1, by simp⟩, ⟨Bytes.ofNat 32 2, by simp⟩⟩
  localChain := ⟨2, 1⟩
  nativeMint := ⟨Bytes.ofNat 32 3, by simp⟩
  defaultBridgeFee := 5
  bridgeConfig := ⟨⟨Bytes.ofNat 32 4, by simp⟩, 255⟩
  bridgeAuthority := ⟨⟨Bytes.ofNat 32 5, by simp⟩, 255⟩
  coreConfig := ⟨⟨Bytes.ofNat 32 6, by simp⟩, 255⟩
  feeVault := ⟨⟨Bytes.ofNat 32 7, by simp⟩, 255⟩

end CustodyBridge
