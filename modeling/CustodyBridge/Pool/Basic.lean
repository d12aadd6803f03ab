import CustodyBridge.Amount
import CustodyBridge.Error

/-!
# Custody pools and liquidity

A pool holds the tokens of one mint: what proposals locked, what providers added, and the fees of
releases. A fee is spread over the liquidity through a ratio that only grows: a position's reward
is its amount times the ratio, less what the ratio had reached when it joined.
-/

namespace CustodyBridge

open JsonForm

/-- The custody of a mint, together with the liquidity that its providers have put in. -/
structure Pool where
  mint : Address
  authority : Address
  balance : UInt64
  totalLocked : UInt64
  /-- Fees included. -/
  totalReleased : UInt64
  liquidity : UInt64
  /-- In millionths of a release. -/
  feeRate : UInt64
  /-- Fees for each unit of liquidity, scaled by 2^32. -/
  ratio : Word128
  totalEarns : UInt64
deriving DecidableEq

/-- What one provider has in a pool. -/
structure Position where
  mint : Address
  provider : Address
  amount : UInt64
  /-- Rewards withdrawn. -/
  earns : UInt64
  /-- The part of the ratio that is accounted for. -/
  debt : UInt64
  /-- Rewards that are settled and not yet withdrawn. -/
  remaining : UInt64
deriving DecidableEq

instance : Record Pool where
  table := .pools
  toJson p := .object [
    ("mint", toJson p.mint), ("authority", toJson p.authority), ("balance", toJson p.balance),
    ("total_locked", toJson p.totalLocked), ("total_released", toJson p.totalReleased),
    ("liquidity", toJson p.liquidity), ("fee_rate", toJson p.feeRate),
    ("acc_ratio", Word128.toJson p.ratio), ("total_earns", toJson p.totalEarns)]
  ofJson? j := do
    let fields ← j.fields? [
      "mint", "authority", "balance", "total_locked", "total_released", "liquidity", "fee_rate",
      "acc_ratio", "total_earns"]
    return {
      mint := ← fields.required "mint"
      authority := ← fields.required "authority"
      balance := ← fields.required "balance"
      totalLocked := ← fields.required "total_locked"
      totalReleased := ← fields.required "total_released"
      liquidity := ← fields.required "liquidity"
      feeRate := ← fields.required "fee_rate"
      ratio := ← (fields.lookup "acc_ratio").bind Word128.ofJson?
      totalEarns := ← fields.required "total_earns" }

instance : Record Position where
  table := .positions
  toJson p := .object [
    ("mint", toJson p.mint), ("provider", toJson p.provider), ("amount", toJson p.amount),
    ("earns", toJson p.earns), ("debt", toJson p.debt), ("remaining", toJson p.remaining)]
  ofJson? j := do
    let fields ← j.fields? ["mint", "provider", "amount", "earns", "debt", "remaining"]
    return {
      mint := ← fields.required "mint"
      provider := ← fields.required "provider"
      amount := ← fields.required "amount"
      earns := ← fields.required "earns"
      debt := ← fields.required "debt"
      remaining := ← fields.required "remaining" }

/-! ## Ratios -/

/-- The unit of ratios, 2^32. -/
def Pool.scale : Nat := 4294967296

/-- What a ratio comes to for an amount. -/
def Pool.accrued? (amount : UInt64) (ratio : Word128) : Option UInt64 :=
  Amount.ofNat? (amount.toNat * ratio.toNat / scale)

/-- The reward that a position can withdraw now. -/
def Position.pendingReward? (position : Position) (pool : Pool) : Option UInt64 := do
  let accrued ← Pool.accrued? position.amount pool.ratio
  Amount.add? (Amount.subCapped accrued position.debt) position.remaining

/-- The part of a position's debt that leaves with a part of its amount. -/
def Position.partDebt (position : Position) (amount : UInt64) : UInt64 :=
  UInt64.ofNat (position.debt.toNat * amount.toNat / position.amount.toNat)

def Position.opened (mint provider : Address) : Position := ⟨mint, provider, 0, 0, 0, 0⟩

namespace Pool

/-! ## Custody -/

def defaultFeeRate : UInt64 := 3000

/-- All of a release, in the unit of rates. -/
def feeRateUnit : UInt64 := 1000000

def opened (mint authority : Address) : Pool :=
  ⟨mint, authority, 0, 0, 0, 0, defaultFeeRate, 0, 0⟩

/-- Takes an amount into custody. -/
def lock (p : Pool) (amount : UInt64) : Outcome BridgeError Pool := do
  let balance ← Outcome.require (Amount.add? p.balance amount) .amountOverflow
  return { p with balance, totalLocked := Amount.addCapped p.totalLocked amount }

/-- What was locked and not yet released. -/
def outstanding (p : Pool) : UInt64 := Amount.subCapped p.totalLocked p.totalReleased

/-- The fee of a release. -/
def feeShare (amount rate : UInt64) : UInt64 :=
  UInt64.ofNat (amount.toNat * rate.toNat / feeRateUnit.toNat)

/-- What a fee adds to the ratio of a pool with some liquidity. -/
def ratioIncrement (fee liquidity : UInt64) : Nat := fee.toNat * scale / liquidity.toNat

/-- Spreads a fee over the liquidity. A fee with no liquidity is nobody's. -/
def distribute (p : Pool) (fee : UInt64) : Outcome BridgeError Pool :=
  if fee = 0 ∨ p.liquidity = 0 then .ok p
  else
    let ratio := p.ratio.toNat + ratioIncrement fee p.liquidity
    if ratio < Word128.size then
      .ok { p with
        ratio := BitVec.ofNat 128 ratio
        totalEarns := Amount.addCapped p.totalEarns fee }
    else .error .amountOverflow

/-- What a release pays, what it keeps for providers, and what it leaves. -/
structure Release where
  payout : UInt64
  fee : UInt64
  balance : UInt64
deriving DecidableEq

/-- Pays out an amount less the fee, which goes to the providers. -/
def release (p : Pool) (amount : UInt64) : Outcome BridgeError (Pool × Release) := do
  let fee := feeShare amount p.feeRate
  let payout ← Amount.sub amount fee
  if p.balance < payout then .error (.insufficientLiquidity payout p.balance)
  else
    let balance ← Amount.sub p.balance payout
    let p ← distribute
      { p with balance, totalReleased := Amount.addCapped p.totalReleased amount } fee
    return (p, ⟨payout, fee, balance⟩)

/-! ## Liquidity -/

/-- The position owes from the start what its new part would have earned before. -/
def addLiquidity (p : Pool) (position : Position) (amount : UInt64) :
    Outcome BridgeError (Pool × Position) := do
  let held ← Outcome.require (Amount.add? position.amount amount) .amountOverflow
  let accrued ← Outcome.require (accrued? amount p.ratio) .amountOverflow
  let debt ← Outcome.require (Amount.add? position.debt accrued) .amountOverflow
  let balance ← Outcome.require (Amount.add? p.balance amount) .amountOverflow
  let liquidity ← Outcome.require (Amount.add? p.liquidity amount) .amountOverflow
  return ({ p with balance, liquidity }, { position with amount := held, debt })

/-- Takes an amount out. What it earned stays in the position. -/
def removeLiquidity (p : Pool) (position : Position) (amount : UInt64) :
    Outcome BridgeError (Pool × Position) := do
  if position.amount < amount then .error (.insufficientFunds amount position.amount)
  else if p.balance < amount then .error (.insufficientLiquidity amount p.balance)
  else
    let earned ← Outcome.require (accrued? amount p.ratio) .amountOverflow
    let partDebt := position.partDebt amount
    let remaining ← Outcome.require
      (Amount.add? position.remaining (Amount.subCapped earned partDebt)) .amountOverflow
    let debt ← Amount.sub position.debt partDebt
    let held ← Amount.sub position.amount amount
    let balance ← Amount.sub p.balance amount
    return (
      { p with balance, liquidity := Amount.subCapped p.liquidity amount },
      { position with amount := held, debt, remaining })

/-- Pays a part of the reward. The rest stays in the position. -/
def withdrawReward (p : Pool) (position : Position) (amount : UInt64) :
    Outcome BridgeError (Pool × Position) := do
  let reward ← Outcome.require (position.pendingReward? p) .amountOverflow
  if reward < amount then .error (.insufficientFunds amount reward)
  else if p.balance < amount then .error (.insufficientLiquidity amount p.balance)
  else
    let balance ← Amount.sub p.balance amount
    let debt ← Outcome.require (accrued? position.amount p.ratio) .amountOverflow
    let remaining ← Amount.sub reward amount
    return (
      { p with balance },
      { position with earns := Amount.addCapped position.earns amount, debt, remaining })

end Pool

end CustodyBridge
