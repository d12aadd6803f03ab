import CustodyBridge.Bridge.Environment
import CustodyBridge.Decimals
import CustodyBridge.FeeVault
import CustodyBridge.Funds
import CustodyBridge.NonceCounter
import CustodyBridge.Pool.Program
import CustodyBridge.Receipt

/-!
# Transfers

Proposals to other chains, and the release of custody when a transfer from one has settled.
-/

namespace CustodyBridge

/-- Locks the amount, collects the fees and takes a nonce. -/
def propose (env : Environment) (caller : Caller) (a : ProposalAccounts)
    (request : ProposalRequest) : Handler Proposal := do
  let _ ← BridgeConfig.load env.bridgeConfig
  let core ← CoreConfig.load env.coreConfig
  let chainRelation ← ChainRelation.loadActive a.chainRelation request.toChain
  let _ ← TokenRelation.loadFor a.tokenRelation request.toChain request.toToken request.mint
  if request.amount = 0 then Program.fail .zeroAmount
  else
    let fee ← Program.require (FeeVault.totalFee? core request.gasFee) .amountOverflow
    let _ ← Program.require (Amount.add? request.amount fee) .amountOverflow
    Program.ofExcept ((Funds.verify caller.funds
      [⟨request.mint, request.amount⟩, ⟨env.nativeMint, fee⟩]).mapError .custodyTransferFailed)
    let poolBalance ← Pool.runLock a.pool request.mint request.amount
    let vaultBalance ← FeeVault.runCredit env.feeVault fee
    Program.report (.custodyAndFeesStaged poolBalance vaultBalance)
    let nonce ← NonceCounter.runIssue a.nonceCounter request.toChain
    let proposal : Proposal := {
      id := Bytes32.zero
      nonce
      sourceChain := env.localChain
      sourceProgram := env.programs.bridge
      destinationChain := request.toChain
      destinationToken := request.toToken
      executor := chainRelation.executor
      recipient := request.recipient
      sourceMint := request.mint
      sender := caller.sender
      amount := request.amount
      gasFee := request.gasFee
      bridgeFee := core.bridgeFee }
    return proposal.sealed

/-- Pays out an amount in units of the foreign token, less the pool's fee. -/
def releaseCustody (env : Environment) (caller : Caller) (a : TokenAccounts) (chain : Chain)
    (foreignToken localMint recipient : Address) (amount : Word128) : Handler Receipt := do
  let _ ← BridgeConfig.authorize env.bridgeConfig caller.sender
  let relation ← TokenRelation.loadFor a.relation chain foreignToken localMint
  let localAmount ← Program.require
    (Decimals.convert? amount relation.foreignDecimals relation.localDecimals) .amountOverflow
  if localAmount = 0 then Program.fail .zeroAmount
  else
    let release ← Pool.runRelease a.pool localMint localAmount
    return .custodyReleased chain localMint recipient amount localAmount release

end CustodyBridge
