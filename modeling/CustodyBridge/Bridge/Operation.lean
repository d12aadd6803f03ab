import CustodyBridge.Bridge.Administration
import CustodyBridge.Bridge.Provision
import CustodyBridge.Bridge.Registry
import CustodyBridge.Bridge.Transfer
import CustodyBridge.Ledger.Transaction

/-!
# Operations

A call becomes an operation: a program and the accounts that it declares. Calls run one after
another, each as one transaction.
-/

namespace CustodyBridge

/-- The committed records of a bridge. -/
abbrev Ledger := Store String

/-- A program, and the accounts that it declares. -/
structure Operation (α : Type) where
  access : AccessSet
  program : Handler α

def Operation.map {α β : Type} (f : α → β) (op : Operation α) : Operation β :=
  ⟨op.access, do return f (← op.program)⟩

/-- Runs the program in a transaction over the ledger. -/
def Operation.transact {α : Type} (op : Operation α) (ledger : Ledger) :
    Program.Run BridgeError α Ledger :=
  op.program.transact op.access ledger

/-! ## Calls -/

/-- What callers ask of the bridge. A proposal can be made as a command, too. -/
inductive Call where
  | instantiate (caller : Caller) (instantiation : Instantiation)
  | propose (caller : Caller) (request : ProposalRequest)
  | execute (caller : Caller) (command : Command)
deriving DecidableEq

def instantiateOperation (env : Environment) (caller : Caller) (i : Instantiation) :
    Operation Receipt :=
  ⟨env.initializeAccess, instantiate env caller i⟩

/-- The accounts are derived before anything is read. -/
def proposeOperation (env : Environment) (caller : Caller) (request : ProposalRequest) :
    Except BridgeError (Operation Proposal) := do
  let a ← ProposalAccounts.resolve env request.toChain request.toToken request.mint
  return ⟨a.access env, propose env caller a request⟩

/-- The operation of a command. A command whose accounts cannot be derived has none. -/
def Command.operation (env : Environment) (caller : Caller) :
    Command → Except BridgeError (Operation Receipt)
  | propose request => do
    return (← proposeOperation env caller request).map .proposed
  | setChainRelation chain update => do
    let a ← env.account (.chainRelation chain)
    return ⟨chainRelationAccess env a, CustodyBridge.setChainRelation env caller a chain update⟩
  | setTokenRelation chain foreignToken foreignDecimals localMint localDecimals => do
    let a ← TokenAccounts.resolve env chain foreignToken localMint
    return ⟨a.setAccess env, CustodyBridge.setTokenRelation env caller a chain foreignToken
      foreignDecimals localMint localDecimals⟩
  | removeTokenRelation chain foreignToken localMint => do
    let a ← TokenAccounts.resolve env chain foreignToken localMint
    return ⟨a.removeAccess env,
      CustodyBridge.removeTokenRelation env caller a chain foreignToken localMint⟩
  | releaseCustody chain foreignToken localMint recipient amount => do
    let a ← TokenAccounts.resolve env chain foreignToken localMint
    return ⟨a.releaseAccess env,
      CustodyBridge.releaseCustody env caller a chain foreignToken localMint recipient amount⟩
  | withdrawFee amount =>
    return ⟨env.withdrawFeeAccess, CustodyBridge.withdrawFee env caller amount⟩
  | setBridgeFee fee =>
    return ⟨env.coreConfigAccess, CustodyBridge.setBridgeFee env caller fee⟩
  | setPoolFeeRate mint rate => do
    let a ← env.account (.pool mint)
    return ⟨poolAccess env a, CustodyBridge.setPoolFeeRate env caller a mint rate⟩
  | addLiquidity mint amount => do
    let a ← LiquidityAccounts.resolve env mint caller.sender
    return ⟨a.access, CustodyBridge.addLiquidity caller a mint amount⟩
  | removeLiquidity mint amount => do
    let a ← LiquidityAccounts.resolve env mint caller.sender
    return ⟨a.access, CustodyBridge.removeLiquidity caller a mint amount⟩
  | withdrawReward mint amount => do
    let a ← LiquidityAccounts.resolve env mint caller.sender
    return ⟨a.access, CustodyBridge.withdrawReward caller a mint amount⟩
  | changeAdmin admin =>
    return ⟨env.bridgeConfigAccess, CustodyBridge.changeAdmin env caller admin⟩
  | changeSuperAdmin superAdmin =>
    return ⟨env.coreConfigAccess, CustodyBridge.changeSuperAdmin env caller superAdmin⟩

namespace Call

def caller : Call → Caller
  | instantiate caller _ | propose caller _ | execute caller _ => caller

/-- What a call runs, if its accounts can be derived. -/
def operation (env : Environment) : Call → Except BridgeError (Operation Receipt)
  | instantiate caller i => .ok (instantiateOperation env caller i)
  | propose caller request => (Command.propose request).operation env caller
  | execute caller command => command.operation env caller

/-- What is reported when a call has succeeded. -/
def closing : Receipt → Event
  | .initialized config .. => .initialized config
  | .proposed p => .proposalEmitted p.nonce p.amount p.id
  | r => .executed r.method

/-- Makes a call. -/
def perform (env : Environment) (c : Call) (ledger : Ledger) :
    Program.Run BridgeError Receipt Ledger :=
  match c.operation env with
  | .error e => ⟨.error e, ledger, []⟩
  | .ok op =>
    let r := op.transact ledger
    match r.outcome with
    | .ok receipt => { r with events := r.events ++ [closing receipt] }
    | _ => r

end Call

end CustodyBridge
