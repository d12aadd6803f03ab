import CustodyBridge.Bridge.Environment
import CustodyBridge.Funds
import CustodyBridge.Pool.Program
import CustodyBridge.Receipt

/-!
# Provision of liquidity

Anyone may add liquidity to a pool, take it back, and withdraw what it earned.
-/

namespace CustodyBridge

/-- Adds to the position of the caller, or opens it. The funds must be attached. -/
def addLiquidity (caller : Caller) (a : LiquidityAccounts) (mint : Address) (amount : UInt64) :
    Handler Receipt := do
  Program.ofExcept
    ((Funds.verify caller.funds [⟨mint, amount⟩]).mapError .custodyTransferFailed)
  let position ← Position.runAdd a.pool a.position mint caller.sender amount
  return .liquidityAdded mint caller.sender amount position.amount

/-- Takes liquidity out of the position of the caller. -/
def removeLiquidity (caller : Caller) (a : LiquidityAccounts) (mint : Address)
    (amount : UInt64) : Handler Receipt := do
  let position ← Position.runRemove a.pool a.position mint caller.sender amount
  return .liquidityRemoved mint caller.sender amount position.amount

/-- Pays the caller a part of the reward of the position. -/
def withdrawReward (caller : Caller) (a : LiquidityAccounts) (mint : Address)
    (amount : UInt64) : Handler Receipt := do
  let remaining ← Position.runWithdraw a.pool a.position mint caller.sender amount
  return .rewardWithdrawn mint caller.sender amount remaining

end CustodyBridge
