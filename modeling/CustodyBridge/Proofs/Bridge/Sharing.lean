import CustodyBridge.Proofs.Bridge.Run
import CustodyBridge.Proofs.Pool.Sharing

/-!
# Shares of a fee on a ledger

A release changes the pool and no position. Yet every position earns its share.
-/

namespace CustodyBridge.Pool

variable {a : Account} {mint : Address} {amount : UInt64} {l l' : Ledger} {r : Release}

/-- A release with a fee and liquidity raises the reward of every position whose debt is covered by
its share of the fee, less than a unit for each truncation aside. One without a fee, or without
liquidity, raises none. -/
theorem fee_shared (released : (runRelease a mint amount).exec l = .ok (r, l')) :
    ∃ p q, l.record? Pool a.address = some p ∧ l'.record? Pool a.address = some q ∧
      (∀ b, l'.record? Position b = l.record? Position b) ∧
      (r.fee = 0 ∨ p.liquidity = 0 →
        ∀ x : Position, x.pendingReward? q = x.pendingReward? p) ∧
      (p.liquidity ≠ 0 → ∀ (x : Position) (before after : UInt64),
        x.debt.toNat ≤ x.amount.toNat * p.ratio.toNat / scale →
          x.pendingReward? p = some before → x.pendingReward? q = some after →
            x.Grows p r.fee before after) := by
  obtain ⟨p, ⟨found, -⟩, q, hrelease, rfl⟩ := exec_runRelease_eq_ok.1 released
  refine ⟨p, q, found, Ledger.record?_put_self, fun b => ?_, ?_, ?_⟩
  · exact Ledger.record?_put_of_ne (by decide)
  · exact pendingReward?_of_unshared hrelease
  · intro liquid x before after covered hbefore hafter
    exact grows_of_release hrelease liquid covered hbefore hafter

/-- In a small run, a fee of 1 goes to the only provider: 64 times a 64th. -/
theorem fee_shared_sample :
    (runRelease Sample.poolAccount Sample.mint 10).exec Sample.rated =
        .ok (⟨9, 1, 65⟩, Sample.released) ∧
      Sample.addedPosition.Grows Sample.ratedPool 1 0 1 := by
  have found : Sample.rated.record? Pool Sample.poolAccount.address = some Sample.ratedPool :=
    Ledger.record?_put_self
  have found' : Sample.released.record? Pool Sample.poolAccount.address =
      some Sample.releasedPool := Ledger.record?_put_self
  have released : (runRelease Sample.poolAccount Sample.mint 10).exec Sample.rated =
      .ok (⟨9, 1, 65⟩, Sample.released) :=
    exec_runRelease_eq_ok.2 ⟨_, ⟨found, rfl⟩, Sample.releasedPool, by decide +kernel, rfl⟩
  obtain ⟨p, q, hp, hq, -, -, hshared⟩ := fee_shared released
  obtain rfl := Option.some.inj (found.symm.trans hp)
  obtain rfl := Option.some.inj (found'.symm.trans hq)
  exact ⟨released, hshared (by decide) Sample.addedPosition 0 1 (by decide) (by decide +kernel)
    (by decide +kernel)⟩

end CustodyBridge.Pool
