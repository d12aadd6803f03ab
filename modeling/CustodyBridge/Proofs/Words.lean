import CustodyBridge.Derivation
import CustodyBridge.Proofs.Pool.Operations

/-!
# Arithmetic in machine words

Pools and the search for a bump on words of 8, 64 and 128 bits, step by step. A product that has no
room, a difference below zero, a division by zero and a cast that loses something are faults. There
is none while a pool keeps at most the whole of a release as its fee.
-/

namespace CustodyBridge

/-! ## Words -/

/-- What no step on words may do. -/
inductive Fault where
  | overflow
  | underflow
  | division
  | truncation
deriving DecidableEq

namespace Word128

def widen (a : UInt64) : Word128 := BitVec.ofNat 128 a.toNat

def mul (a b : Word128) : Except Fault Word128 :=
  if a.toNat * b.toNat < size then .ok (a * b) else .error .overflow

def div (a b : Word128) : Except Fault Word128 :=
  if b = 0 then .error .division else .ok (a / b)

def narrow (a : Word128) : Except Fault UInt64 :=
  if a.toNat < UInt64.size then .ok (UInt64.ofNat a.toNat) else .error .truncation

theorem toNat_widen (a : UInt64) : (widen a).toNat = a.toNat :=
  Nat.mod_eq_of_lt (Nat.lt_trans a.toNat_lt (by decide))

theorem mul_lt_size (a b : UInt64) : a.toNat * b.toNat < size :=
  Nat.lt_of_le_of_lt (Nat.mul_le_mul (Nat.le_of_lt a.toNat_lt) (Nat.le_of_lt_succ b.toNat_lt))
    (by decide)

theorem mul_widen (a b : UInt64) :
    mul (widen a) (widen b) = .ok (BitVec.ofNat 128 (a.toNat * b.toNat)) := by
  rw [mul, toNat_widen, toNat_widen, if_pos (mul_lt_size a b)]
  congr 1
  apply BitVec.eq_of_toNat_eq
  rw [BitVec.toNat_mul, toNat_widen, toNat_widen, BitVec.toNat_ofNat]

theorem div_widen {n : Nat} {c : UInt64} (hn : n < size) (hc : c ≠ 0) :
    div (BitVec.ofNat 128 n) (widen c) = .ok (BitVec.ofNat 128 (n / c.toNat)) := by
  have hzero : widen c ≠ 0 := by
    intro h
    have hnat := congrArg BitVec.toNat h
    rw [toNat_widen] at hnat
    exact hc (UInt64.toNat_inj.1 hnat)
  rw [div, if_neg hzero]
  congr 1
  apply BitVec.eq_of_toNat_eq
  rw [BitVec.toNat_udiv, toNat_widen, BitVec.toNat_ofNat, BitVec.toNat_ofNat, Nat.mod_eq_of_lt hn,
    Nat.mod_eq_of_lt (Nat.lt_of_le_of_lt (Nat.div_le_self _ _) hn)]

/-- A product divided, in words of 128 bits, and cast back. -/
def mulDiv (a b c : UInt64) : Except Fault UInt64 := do
  narrow (← div (← mul (widen a) (widen b)) (widen c))

theorem mulDiv_eq_ok {a b c : UInt64} (hc : c ≠ 0) (hle : a.toNat * b.toNat / c.toNat ≤ a.toNat) :
    mulDiv a b c = .ok (UInt64.ofNat (a.toNat * b.toNat / c.toNat)) := by
  have hfits := Nat.lt_of_le_of_lt hle a.toNat_lt
  simp only [mulDiv, mul_widen, div_widen (mul_lt_size a b) hc, bind, Except.bind]
  rw [narrow, BitVec.toNat_ofNat, Nat.mod_eq_of_lt (Nat.lt_trans hfits (by decide)), if_pos hfits]

end Word128

/-- The difference, which is a fault below zero. -/
def Amount.subExact (a b : UInt64) : Except Fault UInt64 :=
  if b ≤ a then .ok (a - b) else .error .underflow

theorem Amount.subExact_eq_ok {a b : UInt64} (h : b ≤ a) : subExact a b = .ok (a - b) := if_pos h

theorem Amount.sub_of_le {ε : Type} {a b : UInt64} (h : b ≤ a) :
    (sub a b : Outcome ε UInt64) = .ok (a - b) := if_pos h

/-! ## Fees -/

namespace Pool

def feeShareExact (amount rate : UInt64) : Except Fault UInt64 :=
  Word128.mulDiv amount rate feeRateUnit

def ratioIncrementExact (fee liquidity : UInt64) : Except Fault Word128 := do
  Word128.div (← Word128.mul (Word128.widen fee) (BitVec.ofNat 128 scale)) (Word128.widen liquidity)

/-- Only the sum with the ratio is checked by the pool itself. -/
def distributeExact (p : Pool) (fee : UInt64) : Except Fault (Outcome BridgeError Pool) :=
  if fee = 0 ∨ p.liquidity = 0 then return .ok p
  else do
    let increment ← ratioIncrementExact fee p.liquidity
    let ratio := p.ratio.toNat + increment.toNat
    if ratio < Word128.size then
      return .ok { p with
        ratio := BitVec.ofNat 128 ratio
        totalEarns := Amount.addCapped p.totalEarns fee }
    else return .error .amountOverflow

def releaseExact (p : Pool) (amount : UInt64) :
    Except Fault (Outcome BridgeError (Pool × Release)) := do
  let fee ← feeShareExact amount p.feeRate
  let payout ← Amount.subExact amount fee
  if p.balance < payout then return .error (.insufficientLiquidity payout p.balance)
  else
    let balance ← Amount.subExact p.balance payout
    let distributed ← distributeExact
      { p with balance, totalReleased := Amount.addCapped p.totalReleased amount } fee
    return distributed.map fun p => (p, ⟨payout, fee, balance⟩)

theorem feeShare_nat_le {rate : UInt64} (amount : UInt64) (h : rate ≤ feeRateUnit) :
    amount.toNat * rate.toNat / feeRateUnit.toNat ≤ amount.toNat := by
  refine Nat.div_le_of_le_mul ?_
  rw [Nat.mul_comm feeRateUnit.toNat]
  exact Nat.mul_le_mul_left _ (UInt64.le_iff_toNat_le.1 h)

theorem feeShareExact_eq_ok {rate : UInt64} (amount : UInt64) (h : rate ≤ feeRateUnit) :
    feeShareExact amount rate = .ok (feeShare amount rate) :=
  Word128.mulDiv_eq_ok (by decide) (feeShare_nat_le amount h)

theorem feeShare_le {rate : UInt64} (amount : UInt64) (h : rate ≤ feeRateUnit) :
    feeShare amount rate ≤ amount := by
  have hle := feeShare_nat_le amount h
  rwa [UInt64.le_iff_toNat_le, feeShare, UInt64.toNat_ofNat',
    Nat.mod_eq_of_lt (Nat.lt_of_le_of_lt hle amount.toNat_lt)]

theorem ratioIncrementExact_eq_ok (fee : UInt64) {liquidity : UInt64} (h : liquidity ≠ 0) :
    ∃ increment, ratioIncrementExact fee liquidity = .ok increment ∧
      increment.toNat = ratioIncrement fee liquidity := by
  have hscale : BitVec.ofNat 128 scale = Word128.widen 4294967296 := by decide
  have hroom := Word128.mul_lt_size fee 4294967296
  have hincrement := Word128.div_widen hroom h
  refine ⟨_, by rwa [ratioIncrementExact, hscale, Word128.mul_widen], ?_⟩
  rw [BitVec.toNat_ofNat]
  exact Nat.mod_eq_of_lt (Nat.lt_of_le_of_lt (Nat.div_le_self _ _) hroom)

theorem distributeExact_eq_ok (p : Pool) (fee : UInt64) :
    p.distributeExact fee = .ok (p.distribute fee) := by
  unfold distributeExact distribute
  by_cases hnone : fee = 0 ∨ p.liquidity = 0
  · rw [if_pos hnone, if_pos hnone]
    rfl
  · rw [if_neg hnone, if_neg hnone]
    obtain ⟨increment, hincrement, hnat⟩ := ratioIncrementExact_eq_ok fee fun h => hnone (.inr h)
    rw [hincrement, ← hnat]
    dsimp only [bind, Except.bind]
    split <;> rfl

theorem releaseExact_eq_ok {p : Pool} (amount : UInt64) (h : p.feeRate ≤ feeRateUnit) :
    p.releaseExact amount = .ok (p.release amount) := by
  have hpayout := feeShare_le amount h
  unfold releaseExact release
  rw [feeShareExact_eq_ok amount h]
  simp only [bind, Except.bind, Amount.subExact_eq_ok hpayout, Amount.sub_of_le hpayout,
    Outcome.bind]
  by_cases hbalance : p.balance < amount - feeShare amount p.feeRate
  · rw [if_pos hbalance, if_pos hbalance]
    rfl
  · rw [if_neg hbalance, if_neg hbalance]
    have hle := UInt64.not_lt.1 hbalance
    simp only [Amount.subExact_eq_ok hle, Amount.sub_of_le hle, distributeExact_eq_ok]
    cases distribute _ _ <;> rfl

end Pool

/-! ## Liquidity -/

/-- The product with a ratio may have no room. It is checked, as the cast is. -/
def Pool.accruedExact? (amount : UInt64) (ratio : Word128) : Option UInt64 :=
  match Word128.mul (Word128.widen amount) ratio with
  | .error _ => none
  | .ok scaled => (Word128.narrow (scaled / BitVec.ofNat 128 scale)).toOption

theorem Pool.accruedExact?_eq (amount : UInt64) (ratio : Word128) :
    accruedExact? amount ratio = accrued? amount ratio := by
  rw [accruedExact?, accrued?, Word128.mul, Word128.toNat_widen, Amount.ofNat?]
  by_cases hroom : amount.toNat * ratio.toNat < Word128.size
  · have hscaled : (Word128.widen amount * ratio / BitVec.ofNat 128 scale).toNat =
        amount.toNat * ratio.toNat / scale := by
      rw [BitVec.toNat_udiv, BitVec.toNat_mul, Word128.toNat_widen, Nat.mod_eq_of_lt hroom]
      rfl
    rw [if_pos hroom]
    dsimp only
    rw [Word128.narrow, hscaled]
    split <;> rfl
  · -- What has no room in 128 bits is more than 64 bits even when it is scaled down.
    have hmore : ¬ amount.toNat * ratio.toNat / scale < UInt64.size := by
      rw [Nat.div_lt_iff_lt_mul (by decide)]
      exact fun h => hroom (Nat.lt_trans h (by decide))
    rw [if_neg hroom, if_neg hmore]

def Position.pendingRewardExact? (x : Position) (p : Pool) : Option UInt64 := do
  let accrued ← Pool.accruedExact? x.amount p.ratio
  Amount.add? (Amount.subCapped accrued x.debt) x.remaining

theorem Position.pendingRewardExact?_eq (x : Position) (p : Pool) :
    x.pendingRewardExact? p = x.pendingReward? p := by
  rw [pendingRewardExact?, Pool.accruedExact?_eq, pendingReward?]

def Position.partDebtExact (x : Position) (amount : UInt64) : Except Fault UInt64 :=
  Word128.mulDiv x.debt amount x.amount

theorem Position.partDebtExact_eq_ok {x : Position} {amount : UInt64} (hne : amount ≠ 0)
    (h : amount ≤ x.amount) : x.partDebtExact amount = .ok (x.partDebt amount) := by
  refine Word128.mulDiv_eq_ok (fun hzero => hne ?_) (debt_share_le h)
  rw [hzero] at h
  exact UInt64.le_zero_iff.1 h

namespace Pool

/-- A removal of nothing is refused before it comes to any arithmetic. -/
def removeLiquidityExact (p : Pool) (x : Position) (amount : UInt64) :
    Except Fault (Outcome BridgeError (Pool × Position)) :=
  if amount = 0 then return .error .zeroAmount
  else if x.amount < amount then return .error (.insufficientFunds amount x.amount)
  else if p.balance < amount then return .error (.insufficientLiquidity amount p.balance)
  else
    match accruedExact? amount p.ratio with
    | none => return .error .amountOverflow
    | some earned => do
      let partDebt ← x.partDebtExact amount
      match Amount.add? x.remaining (Amount.subCapped earned partDebt) with
      | none => return .error .amountOverflow
      | some remaining =>
        let debt ← Amount.subExact x.debt partDebt
        let held ← Amount.subExact x.amount amount
        let balance ← Amount.subExact p.balance amount
        return .ok (
          { p with balance, liquidity := Amount.subCapped p.liquidity amount },
          { x with amount := held, debt, remaining })

def withdrawRewardExact (p : Pool) (x : Position) (amount : UInt64) :
    Except Fault (Outcome BridgeError (Pool × Position)) :=
  match x.pendingRewardExact? p with
  | none => return .error .amountOverflow
  | some reward =>
    if reward < amount then return .error (.insufficientFunds amount reward)
    else if p.balance < amount then return .error (.insufficientLiquidity amount p.balance)
    else do
      let balance ← Amount.subExact p.balance amount
      match accruedExact? x.amount p.ratio with
      | none => return .error .amountOverflow
      | some debt =>
        let remaining ← Amount.subExact reward amount
        return .ok (
          { p with balance },
          { x with earns := Amount.addCapped x.earns amount, debt, remaining })

theorem removeLiquidityExact_eq_ok (p : Pool) (x : Position) (amount : UInt64) :
    p.removeLiquidityExact x amount =
      .ok (if amount = 0 then .error .zeroAmount else p.removeLiquidity x amount) := by
  unfold removeLiquidityExact removeLiquidity
  by_cases hne : amount = 0
  · rw [if_pos hne, if_pos hne]
    rfl
  by_cases hheld : x.amount < amount
  · rw [if_neg hne, if_neg hne, if_pos hheld, if_pos hheld]
    rfl
  by_cases hbalance : p.balance < amount
  · rw [if_neg hne, if_neg hne, if_neg hheld, if_neg hheld, if_pos hbalance, if_pos hbalance]
    rfl
  have hheld' := UInt64.not_lt.1 hheld
  have hbalance' := UInt64.not_lt.1 hbalance
  rw [if_neg hne, if_neg hne, if_neg hheld, if_neg hheld, if_neg hbalance, if_neg hbalance,
    accruedExact?_eq]
  cases accrued? amount p.ratio with
  | none => rfl
  | some earned =>
    simp only [x.partDebtExact_eq_ok hne hheld', bind, Except.bind, Outcome.bind, Outcome.require]
    cases Amount.add? x.remaining (Amount.subCapped earned (x.partDebt amount)) with
    | none => rfl
    | some remaining =>
      simp only [Amount.subExact_eq_ok, Amount.sub_of_le, x.partDebt_le hheld', hheld', hbalance']
      rfl

theorem withdrawRewardExact_eq_ok (p : Pool) (x : Position) (amount : UInt64) :
    p.withdrawRewardExact x amount = .ok (p.withdrawReward x amount) := by
  unfold withdrawRewardExact withdrawReward
  rw [x.pendingRewardExact?_eq, accruedExact?_eq]
  cases x.pendingReward? p with
  | none => rfl
  | some reward =>
    simp only [bind, Except.bind, Outcome.bind, Outcome.require]
    by_cases hreward : reward < amount
    · rw [if_pos hreward, if_pos hreward]
      rfl
    by_cases hbalance : p.balance < amount
    · rw [if_neg hreward, if_neg hreward, if_pos hbalance, if_pos hbalance]
      rfl
    have hreward' := UInt64.not_lt.1 hreward
    have hbalance' := UInt64.not_lt.1 hbalance
    rw [if_neg hreward, if_neg hreward, if_neg hbalance, if_neg hbalance]
    simp only [Amount.subExact_eq_ok, Amount.sub_of_le, hreward', hbalance']
    cases accrued? x.amount p.ratio <;> rfl

end Pool

/-! ## Bumps -/

namespace AddressScheme

/-- The search with the bump as a byte, which is counted down after each try that fails. -/
def searchExact (s : AddressScheme) (seeds : List Bytes) (program : Address) :
    Nat → UInt8 → Except Fault (Option Account)
  | 0, _ => .ok none
  | tries + 1, bump =>
    match s.candidate? (seeds ++ [[bump]]) program with
    | some address => .ok (some ⟨address, bump⟩)
    | none =>
      if bump = 0 then .error .underflow else s.searchExact seeds program tries (bump - 1)

theorem searchExact_eq_ok (s : AddressScheme) (seeds : List Bytes) (program : Address) {n : Nat}
    (h : n < 256) :
    s.searchExact seeds program n (UInt8.ofNat n) = .ok (s.search seeds program n) := by
  induction n with
  | zero => rfl
  | succ n ih =>
    rw [searchExact, search, bumpSeed]
    cases s.candidate? (seeds ++ [[UInt8.ofNat (n + 1)]]) program with
    | some address => rfl
    | none =>
      have hne : UInt8.ofNat (n + 1) ≠ 0 := fun hzero => by
        have hnat := congrArg UInt8.toNat hzero
        rw [UInt8.toNat_ofNat', Nat.mod_eq_of_lt h] at hnat
        cases hnat
      have hpred : UInt8.ofNat (n + 1) - 1 = UInt8.ofNat n := by
        rw [UInt8.ofNat_add]
        exact UInt8.add_sub_cancel _ _
      dsimp only
      rw [if_neg hne, hpred]
      exact ih (Nat.lt_of_succ_lt h)

end AddressScheme

end CustodyBridge
