import CustodyBridge.Proofs.Pool.Accounting
import Mathlib.Tactic.Linarith

/-!
# Rewards

Debts and rewards are floored, so providers may be credited with more than the fees that were
shared. What all positions may claim, counted in units of the ratio, shows how much: less than one
unit of reward for each call that changes a position.
-/

namespace CustodyBridge

open Movement

/-! ## Floors -/

section floors

variable {A n R d u : Nat}

theorem claim_grow_le (A R d inc scale : Nat) :
    A * (R + inc) - d * scale ≤ (A * R - d * scale) + A * inc := by
  rw [Nat.mul_add]
  omega

variable {scale : Nat} (positive : 0 < scale)

include positive

theorem claim_add_le :
    (A + n) * R - (d + n * R / scale) * scale ≤ (A * R - d * scale) + scale := by
  have hfloor := Nat.div_add_mod (n * R) scale
  have hmod := Nat.mod_lt (n * R) positive
  rw [Nat.add_mul, Nat.add_mul, Nat.mul_comm (n * R / scale) scale]
  omega

theorem claim_withdraw_le (hn : n ≤ A * R / scale - d + u) :
    (A * R - A * R / scale * scale) + (A * R / scale - d + u - n) * scale + n * scale ≤
      (A * R - d * scale) + u * scale + scale := by
  have hfloor := Nat.div_add_mod (A * R) scale
  have hmod := Nat.mod_lt (A * R) positive
  have hrest : (A * R / scale - d + u - n) * scale + n * scale =
      A * R / scale * scale - d * scale + u * scale := by
    rw [← Nat.add_mul, Nat.sub_add_cancel hn, Nat.add_mul, Nat.sub_mul]
  rw [Nat.mul_comm (A * R / scale) scale] at *
  omega

theorem claim_floored_le {m p e : Nat} (hA : 0 < n + m) (hearned : e * scale ≤ n * R)
    (hpart : p * (n + m) ≤ (p + d) * n) (hpart' : (p + d) * n < (p + 1) * (n + m)) :
    (m * R - d * scale) + (e - p) * scale ≤ ((n + m) * R - (p + d) * scale) + scale := by
  rcases Nat.lt_or_ge ((n + m) * R) ((p + d) * scale) with hless | hmore
  · -- Where the whole had nothing to claim, neither part has.
    have hrest : m * R ≤ d * scale := by
      refine Nat.le_of_mul_le_mul_left ?_ hA
      nlinarith [Nat.mul_le_mul_left m hless.le, Nat.mul_le_mul_right scale hpart]
    have hnone : e ≤ p := by
      refine Nat.lt_succ_iff.1 (Nat.lt_of_mul_lt_mul_right (a := n + m) ?_)
      refine Nat.lt_of_le_of_lt (Nat.le_of_mul_le_mul_left ?_ positive) hpart'
      nlinarith [Nat.mul_le_mul_left n hless.le, Nat.mul_le_mul_right (n + m) hearned]
    rw [Nat.sub_eq_zero_of_le hrest, Nat.sub_eq_zero_of_le hnone]
    omega
  · -- Otherwise both parts are floored, and together they gain less than a unit.
    have hkept : p * scale ≤ n * R := by
      refine Nat.le_of_mul_le_mul_left ?_ hA
      nlinarith [Nat.mul_le_mul_left n hmore, Nat.mul_le_mul_right scale hpart]
    have hrest : d * scale ≤ m * R + scale := by
      refine Nat.le_of_mul_le_mul_left ?_ hA
      nlinarith [Nat.mul_le_mul_left m hmore, Nat.mul_le_mul_right scale hpart'.le]
    rw [Nat.sub_mul, Nat.add_mul, Nat.add_mul] at *
    omega

theorem claim_remove_le (hn : n ≤ A) :
    (A - n) * R - (d - d * n / A) * scale + (n * R / scale - d * n / A) * scale ≤
      (A * R - d * scale) + scale := by
  rcases Nat.eq_zero_or_pos A with rfl | hA
  · obtain rfl : n = 0 := Nat.le_zero.1 hn
    simp
  obtain ⟨m, rfl⟩ := Nat.exists_eq_add_of_le hn
  have hpart : d * n / (n + m) ≤ d := Nat.div_le_of_le_mul (by nlinarith)
  obtain ⟨rest, hd⟩ := Nat.exists_eq_add_of_le hpart
  have hfloored := claim_floored_le positive hA (Nat.div_mul_le_self (n * R) scale)
    (by rw [← hd]; exact Nat.div_mul_le_self _ _)
    (by rw [← hd, Nat.mul_comm _ (n + m)]; exact Nat.lt_mul_div_succ _ hA)
  have hrest : d - d * n / (n + m) = rest := by omega
  rw [← hd] at hfloored
  rw [Nat.add_sub_cancel_left, hrest]
  exact hfloored

end floors

/-! ## Claims -/

theorem Pool.scale_pos : 0 < Pool.scale := by decide

/-- What a position may claim at a ratio, in units of the ratio. -/
def Position.claim (ratio : Nat) (x : Position) : Nat :=
  (x.amount.toNat * ratio - x.debt.toNat * Pool.scale) + x.remaining.toNat * Pool.scale

namespace Position

variable {x y : Position} {p q : Pool} {amount reward : UInt64}

theorem claim_opened (ratio : Nat) (mint provider : Address) :
    (opened mint provider).claim ratio = 0 := by
  simp [claim, opened]

theorem pendingReward_le_claim (h : x.pendingReward? p = some reward) :
    reward.toNat * Pool.scale ≤ x.claim p.ratio.toNat := by
  obtain ⟨accrued, haccrued, hreward⟩ := pendingReward?_eq_some.1 h
  have hfloor := Nat.div_mul_le_self (x.amount.toNat * p.ratio.toNat) Pool.scale
  rw [haccrued] at hfloor
  rw [claim, ← hreward, Nat.add_mul, Nat.sub_mul]
  omega

theorem claim_le_of_add (h : p.addLiquidity x amount = .ok (q, y)) :
    y.claim p.ratio.toNat ≤ x.claim p.ratio.toNat + Pool.scale := by
  obtain ⟨held, hheld, accrued, haccrued, debt, hdebt, _, -, _, -, -, rfl⟩ :=
    Pool.addLiquidity_eq_ok.1 h
  simp only [claim, ← hheld, ← hdebt, ← haccrued]
  have := claim_add_le (A := x.amount.toNat) (n := amount.toNat) (R := p.ratio.toNat)
    (d := x.debt.toNat) Pool.scale_pos
  omega

theorem claim_le_of_remove (h : p.removeLiquidity x amount = .ok (q, y)) :
    y.claim p.ratio.toNat ≤ x.claim p.ratio.toNat + Pool.scale := by
  obtain ⟨hle, -, earned, hearned, remaining, hremaining, debt, hdebt, held, hheld, _, -, -, rfl⟩ :=
    Pool.removeLiquidity_eq_ok.1 h
  have hbound := claim_remove_le (R := p.ratio.toNat) (d := x.debt.toNat) Pool.scale_pos
    (UInt64.le_iff_toNat_le.1 hle)
  rw [Amount.toNat_subCapped, toNat_partDebt hle, ← hearned] at hremaining
  rw [toNat_partDebt hle] at hdebt
  have hheld' : held.toNat = x.amount.toNat - amount.toNat := by omega
  have hdebt' : debt.toNat =
      x.debt.toNat - x.debt.toNat * amount.toNat / x.amount.toNat := by omega
  simp only [claim, ← hremaining, hheld', hdebt', Nat.add_mul]
  omega

theorem claim_le_of_withdraw (h : p.withdrawReward x amount = .ok (q, y)) :
    y.claim p.ratio.toNat + amount.toNat * Pool.scale ≤
      x.claim p.ratio.toNat + Pool.scale := by
  obtain ⟨reward, hreward, hle, -, _, -, debt, hdebt, remaining, hremaining, -, rfl⟩ :=
    Pool.withdrawReward_eq_ok.1 h
  obtain ⟨accrued, haccrued, hsum⟩ := pendingReward?_eq_some.1 hreward
  have hn : amount.toNat ≤
      x.amount.toNat * p.ratio.toNat / Pool.scale - x.debt.toNat + x.remaining.toNat := by
    rw [haccrued, hsum]
    exact UInt64.le_iff_toNat_le.1 hle
  have hrest : remaining.toNat = x.amount.toNat * p.ratio.toNat / Pool.scale - x.debt.toNat +
      x.remaining.toNat - amount.toNat := by
    rw [haccrued]
    omega
  simp only [claim, ← hdebt, hrest]
  exact claim_withdraw_le Pool.scale_pos hn

end Position

/-! ## Pools -/

namespace Pool

variable {p q : Pool} {amount : UInt64} {r : Release}

theorem ratio_after_release (h : p.release amount = .ok (q, r)) :
    q.ratio.toNat = p.ratio.toNat +
      if r.fee = 0 ∨ p.liquidity = 0 then 0 else ratioIncrement r.fee p.liquidity := by
  obtain ⟨_, -, -, _, -, hdistribute, rfl⟩ := release_eq_ok.1 h
  rw [distribute_eq_ok] at hdistribute
  split at hdistribute
  · rename_i none
    subst hdistribute
    rw [if_pos none]
    rfl
  · rename_i some
    obtain ⟨hlt, rfl⟩ := hdistribute
    rw [if_neg some]
    exact (BitVec.toNat_ofNat _ _).trans (Nat.mod_eq_of_lt hlt)

theorem ratio_le_of_release (h : p.release amount = .ok (q, r)) :
    p.ratio.toNat ≤ q.ratio.toNat := by
  rw [ratio_after_release h]
  exact Nat.le_add_right _ _

theorem ratio_of_release (h : p.release amount = .ok (q, r)) :
    ∃ inc, q.ratio.toNat = p.ratio.toNat + inc ∧
      p.liquidity.toNat * inc ≤ (if p.liquidity = 0 then 0 else r.fee.toNat) * scale := by
  refine ⟨_, ratio_after_release h, ?_⟩
  split
  · exact Nat.zero_le _
  · rename_i some
    rw [not_or] at some
    rw [if_neg some.2, ratioIncrement]
    exact Nat.mul_div_le _ _

end Pool

/-! ## Books -/

namespace Book

variable {b b' : Book} {moves : List Movement} {move : Movement} {account provider : Address}

def claims (b : Book) : Nat := b.positions.total (Position.claim b.pool.ratio.toNat)

/-- Claims and withdrawals are covered by shared fees and one unit for each call of a provider. -/
def Covered (b : Book) (moves : List Movement) : Prop :=
  b.claims + total withdrawn moves * Pool.scale ≤
    (total sharedFee moves + moves.countP (·.provider?.isSome)) * Pool.scale

theorem covered_opened (mint authority : Address) : (opened mint authority).Covered [] := by
  simp [Covered, claims, opened]

theorem Covered.keep (h : b.Covered moves) {pool : Pool} (hratio : pool.ratio = b.pool.ratio)
    (hwithdrawn : move.withdrawn = 0) : Covered { b with pool } (moves ++ [move]) := by
  simp only [Covered, claims, hratio, total_append, total_singleton, List.countP_append,
    Nat.add_mul, hwithdrawn] at h ⊢
  omega

theorem Covered.release (h : b.Covered moves) (hbalanced : b.Balanced moves) {pool : Pool}
    {amount : UInt64} {r : Pool.Release} (hrelease : b.pool.release amount = .ok (pool, r)) :
    Covered { b with pool } (moves ++ [.release r (b.pool.liquidity ≠ 0)]) := by
  obtain ⟨inc, hratio, hinc⟩ := Pool.ratio_of_release hrelease
  -- The amounts sum to the liquidity, so all claims together grow by no more than the fee.
  have hclaims : b.positions.total (Position.claim pool.ratio.toNat) ≤
      b.claims + b.pool.liquidity.toNat * inc := by
    rw [← hbalanced.amounts, ← SortedMap.total_mul, claims, ← SortedMap.total_add]
    refine SortedMap.total_le_total _ fun x => ?_
    have hgrow := claim_grow_le x.amount.toNat b.pool.ratio.toNat x.debt.toNat inc Pool.scale
    rw [hratio]
    simp only [Position.claim]
    omega
  have hfee : (Movement.release r (b.pool.liquidity ≠ 0)).sharedFee =
      if b.pool.liquidity = 0 then 0 else r.fee.toNat := by
    by_cases hliquidity : b.pool.liquidity = 0 <;> simp [hliquidity, sharedFee]
  rw [← hfee] at hinc
  simp only [Covered, total_append, total_singleton, List.countP_append, Nat.add_mul,
    withdrawn] at h ⊢
  change b.positions.total (Position.claim pool.ratio.toNat) + _ ≤ _
  omega

theorem Covered.provision (h : b.Covered moves) {pool : Pool} {y : Position}
    (hmove : move.provider? = some provider) (hratio : pool.ratio = b.pool.ratio)
    (hshared : move.sharedFee = 0)
    (hclaim : y.claim b.pool.ratio.toNat + move.withdrawn * Pool.scale ≤
      (b.position account provider).claim b.pool.ratio.toNat + Pool.scale) :
    Covered ⟨pool, b.positions.insert account y⟩ (moves ++ [move]) := by
  have hsum := SortedMap.total_insert b.positions account y (Position.claim b.pool.ratio.toNat)
  have hold : ((b.positions.get? account).map (Position.claim b.pool.ratio.toNat)).getD 0 =
      (b.position account provider).claim b.pool.ratio.toNat := by
    unfold Book.position
    cases b.positions.get? account with
    | none => rw [Option.map_none, Option.getD_none, Option.getD_none, Position.claim_opened]
    | some x => rw [Option.map_some, Option.getD_some, Option.getD_some]
  have hcount : [move].countP (·.provider?.isSome) = 1 := by simp [hmove]
  simp only [Covered, claims, hratio, total_append, total_singleton, List.countP_append,
    Nat.add_mul, hcount, hshared] at h ⊢
  omega

theorem Covered.step (h : b.Covered moves) (hbalanced : b.Balanced moves)
    (hstep : b.Step move b') : b'.Covered (moves ++ [move]) := by
  cases hstep with
  | lock locked =>
    obtain ⟨_, -, rfl⟩ := Pool.lock_eq_ok.1 locked
    exact h.keep rfl rfl
  | release released => exact h.release hbalanced released
  | setFeeRate => exact h.keep rfl rfl
  | @add account provider _ _ _ _ added =>
    have hclaim := Position.claim_le_of_add added
    refine h.provision rfl (by rw [← Pool.eq_of_addLiquidity added]) rfl ?_
    simpa [withdrawn] using hclaim
  | @remove account provider _ _ _ _ _ found removed =>
    have hclaim := Position.claim_le_of_remove removed
    refine h.provision rfl (by rw [← Pool.eq_of_removeLiquidity removed]) rfl ?_
    rw [position_of_get? found]
    simpa [withdrawn] using hclaim
  | @withdraw account provider _ _ _ _ _ found withdrawn =>
    have hclaim := Position.claim_le_of_withdraw withdrawn
    refine h.provision rfl (by rw [← Pool.eq_of_withdrawReward withdrawn]) rfl ?_
    rw [position_of_get? found]
    exact hclaim

theorem Reached.covered {mint authority : Address} (h : Reached mint authority moves b) :
    b.Covered moves := by
  induction h with
  | opened => exact covered_opened mint authority
  | step hreached hstep ih => exact ih.step hreached.balanced hstep

/-! ## Pending rewards -/

/-- The pending rewards of all positions, if every one is defined. -/
def pendingRewards? (b : Book) : Option (List UInt64) :=
  b.positions.entries.mapM fun e => e.2.pendingReward? b.pool

theorem pendingRewards_le_claims {rewards : List UInt64} (h : b.pendingRewards? = some rewards) :
    (rewards.map UInt64.toNat).sum * Pool.scale ≤ b.claims := by
  unfold pendingRewards? at h
  unfold claims SortedMap.total
  generalize b.positions.entries = entries at h ⊢
  induction entries generalizing rewards with
  | nil =>
    rw [List.mapM_nil] at h
    cases h
    simp
  | cons e rest ih =>
    simp only [List.mapM_cons, Option.bind_eq_bind, Option.bind_eq_some_iff] at h
    obtain ⟨reward, hreward, others, hothers, heq⟩ := h
    cases heq
    have hone := Position.pendingReward_le_claim hreward
    have hmore := ih hothers
    simp only [List.map_cons, List.sum_cons, Nat.add_mul]
    omega

/-- What was withdrawn and what can be withdrawn exceeds the shared fees by at most one unit for
each call of a provider. -/
theorem Reached.withdrawn_add_pending_le {mint authority : Address} {rewards : List UInt64}
    (h : Reached mint authority moves b) (hrewards : b.pendingRewards? = some rewards) :
    total withdrawn moves + (rewards.map UInt64.toNat).sum ≤
      total sharedFee moves + moves.countP (·.provider?.isSome) := by
  refine Nat.le_of_mul_le_mul_right ?_ Pool.scale_pos
  have hcovered := h.covered
  have hclaims := pendingRewards_le_claims hrewards
  rw [Covered] at hcovered
  rw [Nat.add_mul]
  omega

end Book

end CustodyBridge
