import CustodyBridge.Bridge.Environment
import CustodyBridge.Command
import CustodyBridge.FeeVault
import CustodyBridge.Funds
import CustodyBridge.Receipt

/-!
# Administration

The one instantiation, the roles and their handover, and the fees.
-/

namespace CustodyBridge

/-- Writes the single records. The caller becomes the admin. -/
def instantiate (env : Environment) (caller : Caller) (i : Instantiation) : Handler Receipt := do
  if ← Record.exists? BridgeConfig env.bridgeConfig then Program.fail .alreadyInitialized
  else if i.bump ≠ env.bridgeConfig.bump then
    Program.fail (.bumpMismatch i.bump env.bridgeConfig.bump)
  else
    let config : BridgeConfig := ⟨caller.sender, i.bump⟩
    Record.save env.bridgeConfig config
    let core : CoreConfig := ⟨i.superAdmin?.getD caller.sender,
      i.bridgeFee?.getD env.defaultBridgeFee, env.coreConfig.bump⟩
    Record.save env.coreConfig core
    Record.save env.bridgeAuthority (BridgeAuthority.mk env.bridgeAuthority.bump)
    FeeVault.runOpen env.feeVault
    Program.report (.configsStaged config.admin core.superAdmin)
    return .initialized env.bridgeConfig.address config.admin core.superAdmin core.bridgeFee

/-! ## Roles -/

/-- The admin hands the role over. -/
def changeAdmin (env : Environment) (caller : Caller) (admin : Address) : Handler Receipt := do
  let config ← BridgeConfig.authorize env.bridgeConfig caller.sender
  Record.save env.bridgeConfig { config with admin }
  return .adminChanged config.admin admin

/-- The super admin hands the role over. -/
def changeSuperAdmin (env : Environment) (caller : Caller) (superAdmin : Address) :
    Handler Receipt := do
  let config ← CoreConfig.authorize env.coreConfig caller.sender
  Record.save env.coreConfig { config with superAdmin }
  return .superAdminChanged config.superAdmin superAdmin

/-! ## Fees -/

/-- The super admin sets the fee of all later proposals. -/
def setBridgeFee (env : Environment) (caller : Caller) (fee : UInt64) : Handler Receipt := do
  let config ← CoreConfig.authorize env.coreConfig caller.sender
  Record.save env.coreConfig { config with bridgeFee := fee }
  return .bridgeFeeSet config.bridgeFee fee

/-- Takes fees out of the vault, which checks who asks for them. -/
def withdrawFee (env : Environment) (caller : Caller) (amount : UInt64) : Handler Receipt := do
  let config ← CoreConfig.load env.coreConfig
  let remaining ← FeeVault.runWithdraw env.feeVault config caller.sender amount
  return .feeWithdrawn caller.sender amount remaining

end CustodyBridge
