import CustodyBridge.Pool.Basic
import CustodyBridge.Proofs.Amount
import CustodyBridge.Proofs.Ledger.Exec

/-!
# Operations of a pool

What it takes for each operation of a pool to succeed, in numbers, and what it leaves.
-/

namespace CustodyBridge

namespace Pool

@[simp] theorem accrued?_eq_some {amount accrued : UInt64} {ratio : Word128} :
    accrued? amount ratio = some accrued ↔ amount.toNat * ratio.toNat / scale = accrued.toNat :=
  Amount.ofNat?_eq_some

@[simp] theorem accrued?_eq_none {amount : UInt64} {ratio : Word128} :
    accrued? amount ratio = none ↔ UInt64.size ≤ amount.toNat * ratio.toNat / scale :=
  Amount.ofNat?_eq_none

end Pool

/-! ## Debts -/

theorem part_le_whole {A n d : Nat} (hn : n ≤ A) : d * n / A ≤ d := by
  refine Nat.div_le_of_le_mul ?_
  rw [Nat.mul_comm A]
  exact Nat.mul_le_mul_left _ hn

namespace Position

variable {x : Position} {amount : UInt64}

theorem debt_share_le (h : amount ≤ x.amount) :
    x.debt.toNat * amount.toNat / x.amount.toNat ≤ x.debt.toNat :=
  part_le_whole (UInt64.le_iff_toNat_le.1 h)

theorem toNat_partDebt (h : amount ≤ x.amount) :
    (x.partDebt amount).toNat = x.debt.toNat * amount.toNat / x.amount.toNat := by
  rw [partDebt, UInt64.toNat_ofNat',
    Nat.mod_eq_of_lt (Nat.lt_of_le_of_lt (debt_share_le h) x.debt.toNat_lt)]

theorem partDebt_le (h : amount ≤ x.amount) : x.partDebt amount ≤ x.debt := by
  rw [UInt64.le_iff_toNat_le, toNat_partDebt h]
  exact debt_share_le h

end Position

namespace Pool

/-! ## Custody -/

theorem lock_eq_ok {p q : Pool} {amount : UInt64} :
    p.lock amount = .ok q ↔
      ∃ balance, p.balance.toNat + amount.toNat = balance.toNat ∧
        { p with balance, totalLocked := Amount.addCapped p.totalLocked amount } = q := by
  simp [lock]

theorem distribute_eq_ok {p q : Pool} {fee : UInt64} :
    p.distribute fee = .ok q ↔
      if fee = 0 ∨ p.liquidity = 0 then p = q
      else p.ratio.toNat + ratioIncrement fee p.liquidity < Word128.size ∧
        { p with
          ratio := BitVec.ofNat 128 (p.ratio.toNat + ratioIncrement fee p.liquidity)
          totalEarns := Amount.addCapped p.totalEarns fee } = q := by
  unfold distribute
  split <;> simp

@[simp] theorem distribute_eq_error {p : Pool} {fee : UInt64} {e : BridgeError} :
    p.distribute fee = .error e ↔ ¬ (fee = 0 ∨ p.liquidity = 0) ∧
      Word128.size ≤ p.ratio.toNat + ratioIncrement fee p.liquidity ∧ .amountOverflow = e := by
  unfold distribute
  split <;> simp_all

theorem eq_of_distribute {p q : Pool} {fee : UInt64} (h : p.distribute fee = .ok q) :
    { p with ratio := q.ratio, totalEarns := q.totalEarns } = q := by
  rw [distribute_eq_ok] at h
  split at h
  · subst h
    rfl
  · rw [← h.2]

theorem release_eq_ok {p q : Pool} {amount : UInt64} {release : Release} :
    p.release amount = .ok (q, release) ↔
      ∃ payout, payout.toNat + (feeShare amount p.feeRate).toNat = amount.toNat ∧
        payout ≤ p.balance ∧ ∃ balance, balance.toNat + payout.toNat = p.balance.toNat ∧
          ({ p with balance, totalReleased := Amount.addCapped p.totalReleased amount } :
            Pool).distribute (feeShare amount p.feeRate) = .ok q ∧
          ⟨payout, feeShare amount p.feeRate, balance⟩ = release := by
  simp [Pool.release, Amount.sub_eq_ok]

/-! ## Liquidity -/

theorem addLiquidity_eq_ok {p q : Pool} {x y : Position} {amount : UInt64} :
    p.addLiquidity x amount = .ok (q, y) ↔
      ∃ held : UInt64, x.amount.toNat + amount.toNat = held.toNat ∧
        ∃ accrued : UInt64, amount.toNat * p.ratio.toNat / scale = accrued.toNat ∧
        ∃ debt : UInt64, x.debt.toNat + accrued.toNat = debt.toNat ∧
        ∃ balance : UInt64, p.balance.toNat + amount.toNat = balance.toNat ∧
        ∃ liquidity : UInt64, p.liquidity.toNat + amount.toNat = liquidity.toNat ∧
          { p with balance, liquidity } = q ∧ { x with amount := held, debt } = y := by
  simp [addLiquidity]

theorem removeLiquidity_eq_ok {p q : Pool} {x y : Position} {amount : UInt64} :
    p.removeLiquidity x amount = .ok (q, y) ↔
      amount ≤ x.amount ∧ amount ≤ p.balance ∧
        ∃ earned : UInt64, amount.toNat * p.ratio.toNat / scale = earned.toNat ∧
        ∃ remaining : UInt64, x.remaining.toNat +
          (Amount.subCapped earned (x.partDebt amount)).toNat = remaining.toNat ∧
        ∃ debt : UInt64, debt.toNat + (x.partDebt amount).toNat = x.debt.toNat ∧
        ∃ held : UInt64, held.toNat + amount.toNat = x.amount.toNat ∧
        ∃ balance : UInt64, balance.toNat + amount.toNat = p.balance.toNat ∧
          { p with balance, liquidity := Amount.subCapped p.liquidity amount } = q ∧
          { x with amount := held, debt, remaining } = y := by
  simp [removeLiquidity, Amount.sub_eq_ok]

theorem withdrawReward_eq_ok {p q : Pool} {x y : Position} {amount : UInt64} :
    p.withdrawReward x amount = .ok (q, y) ↔
      ∃ reward, x.pendingReward? p = some reward ∧ amount ≤ reward ∧ amount ≤ p.balance ∧
        ∃ balance : UInt64, balance.toNat + amount.toNat = p.balance.toNat ∧
        ∃ debt : UInt64, x.amount.toNat * p.ratio.toNat / scale = debt.toNat ∧
        ∃ remaining : UInt64, remaining.toNat + amount.toNat = reward.toNat ∧
          { p with balance } = q ∧
          { x with earns := Amount.addCapped x.earns amount, debt, remaining } = y := by
  simp [withdrawReward, Amount.sub_eq_ok]

/-! ## What stays -/

section frames

variable {p q : Pool} {x y : Position} {amount : UInt64}

theorem eq_of_lock (h : p.lock amount = .ok q) :
    { p with balance := q.balance, totalLocked := q.totalLocked } = q := by
  obtain ⟨_, -, rfl⟩ := lock_eq_ok.1 h
  rfl

theorem eq_of_release {release : Release} (h : p.release amount = .ok (q, release)) :
    { p with
      balance := q.balance
      totalReleased := q.totalReleased
      ratio := q.ratio
      totalEarns := q.totalEarns } = q := by
  obtain ⟨_, -, -, _, -, hdistribute, -⟩ := release_eq_ok.1 h
  rw [← eq_of_distribute hdistribute]

theorem eq_of_addLiquidity (h : p.addLiquidity x amount = .ok (q, y)) :
    { p with balance := q.balance, liquidity := q.liquidity } = q := by
  obtain ⟨_, -, _, -, _, -, _, -, _, -, rfl, -⟩ := addLiquidity_eq_ok.1 h
  rfl

theorem eq_of_removeLiquidity (h : p.removeLiquidity x amount = .ok (q, y)) :
    { p with balance := q.balance, liquidity := q.liquidity } = q := by
  obtain ⟨-, -, _, -, _, -, _, -, _, -, _, -, rfl, -⟩ := removeLiquidity_eq_ok.1 h
  rfl

theorem eq_of_withdrawReward (h : p.withdrawReward x amount = .ok (q, y)) :
    { p with balance := q.balance } = q := by
  obtain ⟨_, -, -, -, _, -, _, -, _, -, rfl, -⟩ := withdrawReward_eq_ok.1 h
  rfl

theorem position_eq_of_addLiquidity (h : p.addLiquidity x amount = .ok (q, y)) :
    { x with amount := y.amount, debt := y.debt } = y := by
  obtain ⟨_, -, _, -, _, -, _, -, _, -, -, rfl⟩ := addLiquidity_eq_ok.1 h
  rfl

theorem position_eq_of_removeLiquidity (h : p.removeLiquidity x amount = .ok (q, y)) :
    { x with amount := y.amount, debt := y.debt, remaining := y.remaining } = y := by
  obtain ⟨-, -, _, -, _, -, _, -, _, -, _, -, -, rfl⟩ := removeLiquidity_eq_ok.1 h
  rfl

theorem position_eq_of_withdrawReward (h : p.withdrawReward x amount = .ok (q, y)) :
    { x with earns := y.earns, debt := y.debt, remaining := y.remaining } = y := by
  obtain ⟨_, -, -, -, _, -, _, -, _, -, -, rfl⟩ := withdrawReward_eq_ok.1 h
  rfl

end frames

/-! ## Panics -/

@[simp] theorem lock_ne_panic (p : Pool) (amount : UInt64) (cause : Panic) :
    p.lock amount ≠ .panic cause := by
  simp [lock]

@[simp] theorem distribute_ne_panic (p : Pool) (fee : UInt64) (cause : Panic) :
    p.distribute fee ≠ .panic cause := by
  unfold distribute
  split <;> simp

@[simp] theorem release_eq_panic {p : Pool} {amount : UInt64} {cause : Panic} :
    p.release amount = .panic cause ↔
      amount < feeShare amount p.feeRate ∧ cause = .subtraction := by
  simp only [release, Outcome.bind_eq, Outcome.bind_eq_panic, Amount.sub_eq_panic,
    Outcome.ite_error_eq_panic, Outcome.pure_eq, distribute_ne_panic, reduceCtorEq, and_false,
    exists_false, or_false]
  constructor
  · rintro (h | ⟨payout, -, henough, hless, -⟩)
    · exact h
    · exact absurd hless henough
  · exact .inl

@[simp] theorem addLiquidity_ne_panic (p : Pool) (x : Position) (amount : UInt64)
    (cause : Panic) : p.addLiquidity x amount ≠ .panic cause := by
  simp [addLiquidity]

@[simp] theorem removeLiquidity_ne_panic (p : Pool) (x : Position) (amount : UInt64)
    (cause : Panic) : p.removeLiquidity x amount ≠ .panic cause := by
  intro h
  simp only [removeLiquidity, Outcome.bind_eq, Outcome.bind_eq_panic, Amount.sub_eq_panic,
    Outcome.ite_error_eq_panic, Outcome.pure_eq, Outcome.require_ne_panic, reduceCtorEq,
    and_false, exists_false, or_false, false_or] at h
  obtain ⟨hheld, hbalance, _, -, _, -, ⟨hdebt, -⟩ | ⟨_, -, ⟨hless, -⟩ | ⟨_, -, hless, -⟩⟩⟩ := h
  · exact absurd hdebt (UInt64.not_lt.2 (x.partDebt_le (UInt64.not_lt.1 hheld)))
  · exact hheld hless
  · exact hbalance hless

@[simp] theorem withdrawReward_ne_panic (p : Pool) (x : Position) (amount : UInt64)
    (cause : Panic) : p.withdrawReward x amount ≠ .panic cause := by
  intro h
  simp only [withdrawReward, Outcome.bind_eq, Outcome.bind_eq_panic, Amount.sub_eq_panic,
    Outcome.ite_error_eq_panic, Outcome.pure_eq, Outcome.require_ne_panic, reduceCtorEq,
    and_false, exists_false, or_false, false_or] at h
  obtain ⟨_, -, hreward, hbalance, ⟨hless, -⟩ | ⟨_, -, _, -, hless, -⟩⟩ := h
  · exact hbalance hless
  · exact hreward hless

end Pool

theorem Position.pendingReward?_eq_some {x : Position} {p : Pool} {reward : UInt64} :
    x.pendingReward? p = some reward ↔
      ∃ accrued : UInt64, x.amount.toNat * p.ratio.toNat / Pool.scale = accrued.toNat ∧
        accrued.toNat - x.debt.toNat + x.remaining.toNat = reward.toNat := by
  simp [pendingReward?, Option.bind_eq_some_iff, Amount.toNat_subCapped]

end CustodyBridge
