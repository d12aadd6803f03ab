import CustodyBridge.Proofs.Bridge.Providers
import CustodyBridge.Proofs.Pool.Withdrawals
import CustodyBridge.Proofs.Record.Updates

/-!
# Withdrawals of rewards from a ledger

A provider withdraws the reward that the query for the position tells, in as many parts as wanted.
-/

namespace CustodyBridge

/-! ## Records with a reward -/

namespace Ledger

/-- The pool of a mint and a position are at two accounts, and the position has a reward. -/
structure Yields (l : Ledger) (a b : Account) (mint : Address) (p : Pool) (x : Position)
    (reward : UInt64) : Prop where
  pool : l.record? Pool a.address = some p
  pool_mint : p.mint = mint
  position : l.record? Position b.address = some x
  reward : x.pendingReward? p = some reward

theorem put_pair_twice (l : Ledger) (a b : Address) (p q : Pool) (x y : Position) :
    (((l.put a p).put b x).put a q).put b y = (l.put a q).put b y := by
  rw [put_comm_of_table_ne (by decide : Record.table Position ≠ Record.table Pool), put_put,
    put_put]

variable {l : Ledger} {a b : Account} {mint : Address} {p q : Pool} {x y : Position}
  {reward left : UInt64}

theorem yields_put (pool_mint : q.mint = mint) (reward : y.pendingReward? q = some left) :
    ((l.put a.address q).put b.address y).Yields a b mint q y left where
  pool := by simp
  pool_mint := pool_mint
  position := by simp
  reward := reward

theorem Yields.query (h : l.Yields a b mint p x reward) {env : Environment} {provider : Address}
    (hpool : env.account (.pool mint) = .ok a)
    (hposition : env.account (.position a.address provider) = .ok b) :
    (Query.position mint provider).perform env l = .ok (.position x reward b) := by
  simp [Query.perform, Program.query_eq, Query.answer, Query.account, Query.loadPool, Query.found,
    mapError_eq_ok]
  exact ⟨a, hpool, hposition, p, h.pool, h.position, h.reward⟩

end Ledger

/-! ## One program -/

namespace Position

variable {l l' : Ledger} {a b : Account} {mint provider : Address} {p : Pool} {x : Position}
  {reward amount left : UInt64}

theorem exec_runWithdraw_of_yields (yields : l.Yields a b mint p x reward) :
    (runWithdraw a b mint provider amount).exec l = .ok (left, l') ↔
      amount ≠ 0 ∧ ∃ q y, p.withdrawReward x amount = .ok (q, y) ∧ y.remaining = left ∧
        (l.put a.address q).put b.address y = l' := by
  rw [exec_runWithdraw_eq_ok]
  constructor
  · rintro ⟨amount_ne, p', ⟨found, -⟩, x', position_found, q, y, withdrawn, hleft, hput⟩
    rw [yields.pool] at found
    rw [yields.position] at position_found
    cases found
    cases position_found
    exact ⟨amount_ne, q, y, withdrawn, hleft, hput⟩
  · rintro ⟨amount_ne, q, y, withdrawn, hleft, hput⟩
    exact ⟨amount_ne, p, ⟨yields.pool, yields.pool_mint⟩, x, yields.position, q, y, withdrawn,
      hleft, hput⟩

theorem yields_of_withdrawReward {q : Pool} {y : Position}
    (yields : l.Yields a b mint p x reward) (h : p.withdrawReward x amount = .ok (q, y)) :
    ((l.put a.address q).put b.address y).Yields a b mint q y y.remaining := by
  refine Ledger.yields_put ?_ (Pool.pays_of_withdrawReward yields.reward h).2.2
  rw [← Pool.eq_of_withdrawReward h]
  exact yields.pool_mint

theorem exists_exec_runWithdraw_iff (yields : l.Yields a b mint p x reward) :
    (∃ r, (runWithdraw a b mint provider amount).exec l = .ok r) ↔
      1 ≤ amount ∧ amount ≤ reward ∧ amount ≤ p.balance := by
  have positive : 1 ≤ amount ↔ amount ≠ 0 := by
    rw [UInt64.le_iff_toNat_le, Ne, ← UInt64.toNat_inj]
    exact Nat.pos_iff_ne_zero
  rw [positive, ← Pool.exists_withdrawReward_iff yields.reward]
  constructor
  · rintro ⟨⟨left, l'⟩, h⟩
    obtain ⟨amount_ne, q, y, withdrawn, -, -⟩ := (exec_runWithdraw_of_yields yields).1 h
    exact ⟨amount_ne, q, y, withdrawn⟩
  · rintro ⟨amount_ne, q, y, withdrawn⟩
    exact ⟨_, (exec_runWithdraw_of_yields yields).2 ⟨amount_ne, q, y, withdrawn, rfl, rfl⟩⟩

theorem exec_runWithdraw_add {m n : UInt64} (yields : l.Yields a b mint p x reward)
    (m_ne : m ≠ 0) (n_ne : n ≠ 0) (fits : m.toNat + n.toNat < UInt64.size) :
    (∃ rest l₁, (runWithdraw a b mint provider m).exec l = .ok (rest, l₁) ∧
        (runWithdraw a b mint provider n).exec l₁ = .ok (left, l')) ↔
      (runWithdraw a b mint provider (m + n)).exec l = .ok (left, l') := by
  have sum_ne : m + n ≠ 0 := by
    rw [Ne, ← UInt64.toNat_inj, UInt64.toNat_add, Nat.mod_eq_of_lt fits]
    intro hzero
    exact m_ne (UInt64.toNat_inj.1 (Nat.eq_zero_of_add_eq_zero hzero).1)
  rw [exec_runWithdraw_of_yields yields]
  constructor
  · rintro ⟨rest, l₁, hfirst, hsecond⟩
    obtain ⟨-, q, y, first, -, rfl⟩ := (exec_runWithdraw_of_yields yields).1 hfirst
    have yields' := yields_of_withdrawReward yields first
    obtain ⟨-, q', y', second, hleft, hput⟩ := (exec_runWithdraw_of_yields yields').1 hsecond
    rw [Ledger.put_pair_twice] at hput
    exact ⟨sum_ne, q', y', (Pool.withdrawReward_add yields.reward fits).1 ⟨q, y, first, second⟩,
      hleft, hput⟩
  · rintro ⟨-, q', y', withdrawn, hleft, hput⟩
    obtain ⟨q, y, first, second⟩ := (Pool.withdrawReward_add yields.reward fits).2 withdrawn
    have yields' := yields_of_withdrawReward yields first
    refine ⟨_, _, (exec_runWithdraw_of_yields yields).2 ⟨m_ne, q, y, first, rfl, rfl⟩, ?_⟩
    refine (exec_runWithdraw_of_yields yields').2 ⟨n_ne, q', y', second, hleft, ?_⟩
    rw [Ledger.put_pair_twice, hput]

/-- On every ledger, the reward that the query tells is what can be withdrawn, as far as the pool
has it: a withdrawal pays its amount, leaves the reward less the amount, and touches nothing else.
It may be made in two parts, to the same end. -/
theorem withdrawal_exact (yields : l.Yields a b mint p x reward) (provider : Address) :
    (∀ env : Environment, env.account (.pool mint) = .ok a →
      env.account (.position a.address provider) = .ok b →
        (Query.position mint provider).perform env l = .ok (.position x reward b)) ∧
    (∀ amount, (∃ r, (runWithdraw a b mint provider amount).exec l = .ok r) ↔
      1 ≤ amount ∧ amount ≤ reward ∧ amount ≤ p.balance) ∧
    (∀ amount left (l' : Ledger),
      (runWithdraw a b mint provider amount).exec l = .ok (left, l') →
        left.toNat + amount.toNat = reward.toNat ∧ ∃ q y, p.Pays q x y amount ∧
          l' = (l.put a.address q).put b.address y ∧ l'.Yields a b mint q y left) ∧
    ∀ m n : UInt64, m ≠ 0 → n ≠ 0 → m.toNat + n.toNat < UInt64.size → ∀ left l',
      (∃ rest l₁, (runWithdraw a b mint provider m).exec l = .ok (rest, l₁) ∧
          (runWithdraw a b mint provider n).exec l₁ = .ok (left, l')) ↔
        (runWithdraw a b mint provider (m + n)).exec l = .ok (left, l') := by
  refine ⟨fun env hpool hposition => yields.query hpool hposition, fun amount => ?_,
    fun amount left l' h => ?_, fun m n m_ne n_ne fits left l' => ?_⟩
  · exact exists_exec_runWithdraw_iff yields
  · obtain ⟨-, q, y, withdrawn, rfl, rfl⟩ := (exec_runWithdraw_of_yields yields).1 h
    obtain ⟨pays, hleft, -⟩ := Pool.pays_of_withdrawReward yields.reward withdrawn
    exact ⟨hleft, q, y, pays, rfl, yields_of_withdrawReward yields withdrawn⟩
  · exact exec_runWithdraw_add yields m_ne n_ne fits

theorem withdrawal_exact_sample :
    Sample.released.Yields Sample.poolAccount Sample.positionAccount Sample.mint
        Sample.releasedPool Sample.addedPosition 1 ∧
      ∃ l', (runWithdraw Sample.poolAccount Sample.positionAccount Sample.mint
        Sample.provider.sender 1).exec Sample.released = .ok (0, l') := by
  have yields : Sample.released.Yields Sample.poolAccount Sample.positionAccount Sample.mint
      Sample.releasedPool Sample.addedPosition 1 := by
    constructor
    case pool => exact Ledger.record?_put_self
    case pool_mint => rfl
    case position =>
      simp [Sample.released, Sample.rated, Sample.proposed, Sample.related, Sample.added]
    case reward => decide +kernel
  obtain ⟨-, hsucceeds, hleaves, -⟩ := withdrawal_exact yields Sample.provider.sender
  obtain ⟨⟨left, l'⟩, hexec⟩ := (hsucceeds 1).2 ⟨by decide, by decide, by decide +kernel⟩
  obtain ⟨hleft, -⟩ := hleaves 1 left l' hexec
  obtain rfl : left = 0 := UInt64.toNat_inj.1 (Nat.add_right_cancel hleft)
  exact ⟨yields, l', hexec⟩

end Position

end CustodyBridge
