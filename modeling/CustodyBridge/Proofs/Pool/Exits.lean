import CustodyBridge.Proofs.Pool.Rewards

/-!
# Taking liquidity out

Liquidity is taken out together with the settling of what it has earned, which is computed from the
whole ratio. So besides the position and the balance, the settled reward can be in the way: where it
is no amount any more. It is one as long as the pending reward is less than the greatest amount.
-/

namespace CustodyBridge

/-! ## The settled reward -/

/-- What a part `n` of an amount `A` has earned, less its part of the debt, is at most one more than
what the whole has earned, less the debt. -/
theorem part_earned_le {A n R d scale : Nat} (positive : 0 < scale) (hn : n ≤ A) :
    n * R / scale - d * n / A ≤ A * R / scale - d + 1 := by
  rcases Nat.eq_zero_or_pos A with rfl | hA
  · obtain rfl : n = 0 := Nat.le_zero.1 hn
    simp
  have hpart : d * n < A * (d * n / A + 1) := Nat.lt_mul_div_succ _ hA
  -- The floor of the part is no more than the part of the next number above the whole.
  have hearned : A * (n * R / scale) ≤ n * (A * R / scale + 1) := by
    refine Nat.le_of_mul_le_mul_left ?_ positive
    calc scale * (A * (n * R / scale)) = A * (scale * (n * R / scale)) := Nat.mul_left_comm ..
      _ ≤ A * (n * R) := Nat.mul_le_mul_left _ (Nat.mul_div_le _ _)
      _ = n * (A * R) := Nat.mul_left_comm ..
      _ ≤ n * (scale * (A * R / scale + 1)) :=
        Nat.mul_le_mul_left _ (Nat.lt_mul_div_succ _ positive).le
      _ = scale * (n * (A * R / scale + 1)) := Nat.mul_left_comm ..
  generalize n * R / scale = e at *
  generalize A * R / scale = T at *
  generalize d * n / A = k at *
  rcases Nat.lt_or_ge T d with hless | hmore
  · have hnone : A * e < A * (k + 1) := by
      calc A * e ≤ n * (T + 1) := hearned
        _ ≤ n * d := Nat.mul_le_mul_left _ hless
        _ = d * n := Nat.mul_comm ..
        _ < A * (k + 1) := hpart
    have := Nat.lt_of_mul_lt_mul_left hnone
    omega
  · obtain ⟨m, rfl⟩ := Nat.exists_eq_add_of_le hmore
    have hsum : A * e < A * (k + m + 2) := by
      calc A * e ≤ n * (d + m + 1) := hearned
        _ = d * n + n * (m + 1) := by rw [Nat.add_assoc, Nat.mul_add, Nat.mul_comm n d]
        _ < A * (k + 1) + A * (m + 1) :=
          Nat.add_lt_add_of_lt_of_le hpart (Nat.mul_le_mul_right _ hn)
        _ = A * (k + m + 2) := by
          rw [← Nat.mul_add, show k + 1 + (m + 1) = k + m + 2 by omega]
    have := Nat.lt_of_mul_lt_mul_left hsum
    omega

namespace Pool

/-- The reward of a part of a position is an amount, and so is what is settled together with it. -/
def Settles (p : Pool) (x : Position) (amount : UInt64) : Prop :=
  amount.toNat * p.ratio.toNat / scale < UInt64.size ∧
    x.remaining.toNat + (amount.toNat * p.ratio.toNat / scale -
      x.debt.toNat * amount.toNat / x.amount.toNat) < UInt64.size

variable {p q : Pool} {x y : Position} {amount reward : UInt64} {e : BridgeError}

/-- Where the reward is less than the greatest amount, every part of the position settles. -/
theorem settles_of_pendingReward (h : x.pendingReward? p = some reward)
    (hless : reward < Amount.max) (hle : amount ≤ x.amount) : p.Settles x amount := by
  obtain ⟨accrued, haccrued, hreward⟩ := Position.pendingReward?_eq_some.1 h
  rw [UInt64.le_iff_toNat_le] at hle
  have hpart := part_earned_le (R := p.ratio.toNat) (d := x.debt.toNat) scale_pos hle
  have hearned : amount.toNat * p.ratio.toNat / scale ≤ accrued.toNat := by
    rw [← haccrued]
    exact Nat.div_le_div_right (Nat.mul_le_mul_right _ hle)
  have hroom : reward.toNat < UInt64.size - 1 := UInt64.lt_iff_toNat_lt.1 hless
  have hword : accrued.toNat < UInt64.size := accrued.toNat_lt
  rw [haccrued] at hpart
  constructor <;> omega

/-! ## Refusals -/

/-- Why a pool does not let an amount of a position out. -/
inductive Refuses (p : Pool) (x : Position) (amount : UInt64) : BridgeError → Prop where
  | funds (more : x.amount < amount) : Refuses p x amount (.insufficientFunds amount x.amount)
  | balance (more : p.balance < amount) :
      Refuses p x amount (.insufficientLiquidity amount p.balance)
  | overflow (large : ¬ p.Settles x amount) : Refuses p x amount .amountOverflow

theorem refuses_of_removeLiquidity (h : p.removeLiquidity x amount = .error e) :
    p.Refuses x amount e := by
  simp [removeLiquidity] at h
  obtain ⟨more, rfl⟩ | ⟨hle, ⟨more, rfl⟩ | ⟨-, ⟨large, rfl⟩ | ⟨earned, hearned, large, rfl⟩⟩⟩ := h
  · exact .funds more
  · exact .balance more
  · exact .overflow fun hsettles => absurd hsettles.1 (Nat.not_lt.2 large)
  · rw [Amount.toNat_subCapped, Position.toNat_partDebt hle, ← hearned] at large
    exact .overflow fun hsettles => absurd hsettles.2 (Nat.not_lt.2 large)

theorem settles_of_removeLiquidity (h : p.removeLiquidity x amount = .ok (q, y)) :
    amount ≤ x.amount ∧ amount ≤ p.balance ∧ p.Settles x amount := by
  obtain ⟨hheld, hbalance, earned, hearned, remaining, hremaining, -⟩ :=
    removeLiquidity_eq_ok.1 h
  rw [Amount.toNat_subCapped, Position.toNat_partDebt hheld, ← hearned] at hremaining
  refine ⟨hheld, hbalance, ?_, ?_⟩
  · exact hearned ▸ earned.toNat_lt
  · exact hremaining ▸ remaining.toNat_lt

theorem exists_removeLiquidity (hheld : amount ≤ x.amount) (hbalance : amount ≤ p.balance)
    (hsettles : p.Settles x amount) : ∃ q y, p.removeLiquidity x amount = .ok (q, y) := by
  cases h : p.removeLiquidity x amount with
  | ok r => exact ⟨r.1, r.2, rfl⟩
  | error e =>
    cases refuses_of_removeLiquidity h with
    | funds more => exact absurd more (UInt64.not_lt.2 hheld)
    | balance more => exact absurd more (UInt64.not_lt.2 hbalance)
    | overflow large => exact absurd hsettles large
  | panic cause => exact absurd h (removeLiquidity_ne_panic p x amount cause)

end Pool

end CustodyBridge
