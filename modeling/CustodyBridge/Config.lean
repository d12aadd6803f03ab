import CustodyBridge.Record.Program

/-!
# Configuration and roles

Who may do what, and the fee of every proposal.
-/

namespace CustodyBridge

open JsonForm

/-! ## Records -/

/-- The admin manages relations and releases custody. -/
structure BridgeConfig where
  admin : Address
  bump : UInt8
deriving DecidableEq

instance : Record BridgeConfig where
  table := .bridgeConfigs
  toJson c := .object [("admin", toJson c.admin), ("bump", toJson c.bump)]
  ofJson? j := do
    let fields ← j.fields? ["admin", "bump"]
    return ⟨← fields.required "admin", ← fields.required "bump"⟩

/-- The super admin withdraws fees and sets the bridge fee. -/
structure CoreConfig where
  superAdmin : Address
  bridgeFee : UInt64
  bump : UInt8
deriving DecidableEq

instance : Record CoreConfig where
  table := .coreConfigs
  toJson c := .object [
    ("super_admin", toJson c.superAdmin), ("bridge_fee", toJson c.bridgeFee),
    ("bump", toJson c.bump)]
  ofJson? j := do
    let fields ← j.fields? ["super_admin", "bridge_fee", "bump"]
    return ⟨← fields.required "super_admin", ← fields.required "bridge_fee",
      ← fields.required "bump"⟩

/-- The owner of every custody pool. -/
structure BridgeAuthority where
  bump : UInt8
deriving DecidableEq

instance : Record BridgeAuthority where
  table := .bridgeAuthorities
  toJson a := .object [("bump", toJson a.bump)]
  ofJson? j := do
    let fields ← j.fields? ["bump"]
    return ⟨← fields.required "bump"⟩

/-! ## Programs -/

/-- Without the record, the bridge has not been founded. -/
def BridgeConfig.load (a : Account) : Handler BridgeConfig := do
  Program.require (← Record.load? BridgeConfig a) .notInitialized

def CoreConfig.load (a : Account) : Handler CoreConfig := do
  Program.require (← Record.load? CoreConfig a) .notInitialized

/-- The configuration, if the caller is the admin. -/
def BridgeConfig.authorize (a : Account) (caller : Address) : Handler BridgeConfig := do
  let config ← load a
  if caller ≠ config.admin then
    Program.report (.adminCallRejected caller)
    Program.fail (.unauthorized .admin)
  else return config

/-- The configuration, if the caller is the super admin. -/
def CoreConfig.authorize (a : Account) (caller : Address) : Handler CoreConfig := do
  let config ← load a
  if caller ≠ config.superAdmin then
    Program.report (.superAdminCallRejected caller)
    Program.fail (.unauthorized .superAdmin)
  else return config

end CustodyBridge
