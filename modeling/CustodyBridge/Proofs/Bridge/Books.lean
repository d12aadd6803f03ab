import CustodyBridge.Proofs.Bridge.Custody
import CustodyBridge.Proofs.Pool.Rewards

/-!
# The books of every run

What holds of books after any movements holds of the pools and positions that every run leaves, if
positions have accounts apart.
-/

namespace CustodyBridge

open Movement

/-! ## The pool of a small run -/

namespace Sample

theorem record?_pool : (Call.performAll .small calls SortedMap.empty).record? Pool
    poolAccount.address = some releasedPool := by
  rw [run.2]
  simp [released]

theorem custody_released : released.custody =
    ⟨SortedMap.empty.insert poolAccount.address releasedPool,
      SortedMap.empty.insert positionAccount.address addedPosition⟩ := by
  simp [released, rated, proposed, related, added, opened, initialized, Ledger.custody]
  rfl

end Sample

variable {env : Environment} {calls : List Call} {a : Address} {p : Pool}

/-! ## Balances -/

/-- In every run, the figures of a pool and of its positions are the sums of what was moved. So no
position exceeds the liquidity that a removal takes it from. -/
theorem Call.book_balanced (apart : env.Apart .positions (named env calls))
    (found : (performAll env calls SortedMap.empty).record? Pool a = some p) :
    ((performAll env calls SortedMap.empty).custody.book p).Balanced
        (Step.movements env p.mint (history env calls SortedMap.empty)) ∧
      ∀ b x, ((performAll env calls SortedMap.empty).custody.book p).positions.get? b = some x →
        x.amount ≤ p.liquidity := by
  have hreached := (traced_history apart).book a p (Ledger.get?_pools.trans found)
  have hbalanced := hreached.balanced
  exact ⟨hbalanced, fun _ _ hx => hbalanced.amount_le hx⟩

theorem Call.book_balanced_sample :
    (performAll .small Sample.calls SortedMap.empty).record? Pool Sample.poolAccount.address =
        some Sample.releasedPool ∧
      (Sample.released.custody.book Sample.releasedPool).Balanced
        (Step.movements .small Sample.mint (history .small Sample.calls SortedMap.empty)) := by
  have hbook := book_balanced Sample.apart_positions Sample.record?_pool
  rw [Sample.run.2] at hbook
  exact ⟨Sample.record?_pool, hbook.1⟩

/-! ## Rewards -/

/-- In every run, what providers have withdrawn and could still withdraw is at most the fees that
were shared and one unit for each time that liquidity was added, removed or rewarded. -/
theorem Call.rewards_le (apart : env.Apart .positions (named env calls))
    (found : (performAll env calls SortedMap.empty).record? Pool a = some p)
    {rewards : List UInt64}
    (pending : ((performAll env calls SortedMap.empty).custody.book p).pendingRewards? =
      some rewards) :
    let moves := Step.movements env p.mint (history env calls SortedMap.empty)
    total withdrawn moves + (rewards.map UInt64.toNat).sum ≤
      total sharedFee moves + moves.countP (·.provider?.isSome) := by
  have hreached := (traced_history apart).book a p (Ledger.get?_pools.trans found)
  exact hreached.withdrawn_add_pending_le pending

theorem Call.rewards_le_sample :
    (Sample.released.custody.book Sample.releasedPool).pendingRewards? = some [1] ∧
      let moves := Step.movements .small Sample.mint (history .small Sample.calls SortedMap.empty)
      total withdrawn moves + (([1] : List UInt64).map UInt64.toNat).sum ≤
        total sharedFee moves + moves.countP (·.provider?.isSome) := by
  have hpending :
      (Sample.released.custody.book Sample.releasedPool).pendingRewards? = some [1] := by
    rw [Sample.custody_released]
    decide +kernel
  have hbound := rewards_le Sample.apart_positions Sample.record?_pool
    (by rwa [Sample.run.2])
  rw [show Sample.releasedPool.mint = Sample.mint from rfl] at hbound
  exact ⟨hpending, hbound⟩

end CustodyBridge
