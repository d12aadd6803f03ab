import CustodyBridge.Amount
import CustodyBridge.Config

/-!
# The fee vault

Proposals pay a gas fee that the sender chooses and the bridge fee of the moment. The super admin
withdraws them.
-/

namespace CustodyBridge

open JsonForm

/-- The fees that proposals have paid. The totals stop at the greatest amount. -/
structure FeeVault where
  balance : UInt64
  totalCollected : UInt64
  totalWithdrawn : UInt64
deriving DecidableEq

instance : Record FeeVault where
  table := .feeVaults
  toJson v := .object [
    ("balance", toJson v.balance), ("total_collected", toJson v.totalCollected),
    ("total_withdrawn", toJson v.totalWithdrawn)]
  ofJson? j := do
    let fields ← j.fields? ["balance", "total_collected", "total_withdrawn"]
    return ⟨← fields.required "balance", ← fields.required "total_collected",
      ← fields.required "total_withdrawn"⟩

namespace FeeVault

/-- What a proposal pays in fees. -/
def totalFee? (config : CoreConfig) (gasFee : UInt64) : Option UInt64 :=
  Amount.add? gasFee config.bridgeFee

def empty : FeeVault := ⟨0, 0, 0⟩

/-- Collects a fee. The total does not overflow, the balance may. -/
def credit (v : FeeVault) (amount : UInt64) : Outcome BridgeError FeeVault := do
  let balance ← Outcome.require (Amount.add? v.balance amount) .amountOverflow
  return { v with balance, totalCollected := Amount.addCapped v.totalCollected amount }

def withdraw (v : FeeVault) (amount : UInt64) : Outcome BridgeError FeeVault := do
  if v.balance < amount then .error (.insufficientFunds amount v.balance)
  else
    let balance ← Amount.sub v.balance amount
    return { v with balance, totalWithdrawn := Amount.addCapped v.totalWithdrawn amount }

/-! ## Programs -/

def runOpen (a : Account) : Handler Unit := Record.save a empty

def load (a : Account) : Handler FeeVault := do
  Program.require (← Record.load? FeeVault a) .notInitialized

def runCredit (a : Account) (amount : UInt64) : Handler UInt64 := do
  let vault ← load a
  let vault ← Program.ofOutcome (vault.credit amount)
  Record.save a vault
  return vault.balance

/-- Pays out to the super admin alone. Answers what is left. -/
def runWithdraw (a : Account) (config : CoreConfig) (caller : Address) (amount : UInt64) :
    Handler UInt64 := do
  if caller ≠ config.superAdmin then Program.fail (.unauthorized .superAdmin)
  else
    let vault ← load a
    let vault ← Program.ofOutcome (vault.withdraw amount)
    Record.save a vault
    return vault.balance

def runBalance (a : Account) : Handler UInt64 := do
  return (← load a).balance

end FeeVault

end CustodyBridge
