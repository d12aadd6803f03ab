import CustodyBridge.Proofs.Pool.Operations

/-!
# Withdrawals of rewards

A withdrawal settles all that a position has earned: its debt becomes what the ratio comes to for
its amount, and what is not paid stays in it as a remainder. So a withdrawal loses nothing to
rounding, and in two parts it leaves what it leaves in one.
-/

namespace CustodyBridge

/-! ## What a withdrawal leaves -/

/-- A pool that has paid an amount. -/
def Pool.paid (p : Pool) (amount : UInt64) : Pool := { p with balance := p.balance - amount }

/-- A position settled with what it has accrued: an amount is withdrawn, the rest is left. -/
def Position.settled (x : Position) (accrued left amount : UInt64) : Position :=
  { x with earns := Amount.addCapped x.earns amount, debt := accrued, remaining := left }

/-- What becomes of a pool and of a position in it when an amount of its reward is withdrawn. -/
structure Pool.Pays (p q : Pool) (x y : Position) (amount : UInt64) : Prop where
  balance : q.balance.toNat + amount.toNat = p.balance.toNat
  pool : { p with balance := q.balance } = q
  earns : y.earns.toNat = Amount.cap (x.earns.toNat + amount.toNat)
  position : { x with earns := y.earns, debt := y.debt, remaining := y.remaining } = y

section parts

variable {x : Position} {p : Pool} {accrued left m n : UInt64}

theorem Pool.paid_paid (p : Pool) (m n : UInt64) : (p.paid m).paid n = p.paid (m + n) := by
  simp only [paid, Amount.sub_sub_eq]

theorem Position.settled_settled {rest : UInt64} (fits : m.toNat + n.toNat < UInt64.size) :
    (x.settled accrued rest m).settled accrued left n = x.settled accrued left (m + n) := by
  simp only [settled, Amount.addCapped_addCapped fits]

theorem Position.pendingReward?_settled (h : Pool.accrued? x.amount p.ratio = some accrued)
    (amount paid : UInt64) :
    (x.settled accrued left amount).pendingReward? (p.paid paid) = some left := by
  rw [pendingReward?_eq_some]
  refine ⟨accrued, Pool.accrued?_eq_some.1 h, ?_⟩
  rw [settled, Nat.sub_self, Nat.zero_add]

end parts

/-! ## One withdrawal -/

namespace Pool

variable {p q : Pool} {x y : Position} {accrued reward amount : UInt64}

theorem accrued?_of_pendingReward (h : x.pendingReward? p = some reward) :
    ∃ accrued, accrued? x.amount p.ratio = some accrued := by
  obtain ⟨accrued, haccrued, -⟩ := Position.pendingReward?_eq_some.1 h
  exact ⟨accrued, accrued?_eq_some.2 haccrued⟩

theorem withdrawReward_eq_ok_iff (haccrued : accrued? x.amount p.ratio = some accrued)
    (hreward : x.pendingReward? p = some reward) :
    p.withdrawReward x amount = .ok (q, y) ↔
      (amount ≤ reward ∧ amount ≤ p.balance) ∧
        p.paid amount = q ∧ x.settled accrued (reward - amount) amount = y := by
  rw [withdrawReward_eq_ok]
  constructor
  · rintro ⟨reward', hreward', hle, hbalance, balance, hpaid, debt, hdebt, remaining, hleft, hq, hy⟩
    obtain rfl := Option.some.inj (hreward.symm.trans hreward')
    obtain rfl : accrued = debt :=
      UInt64.toNat_inj.1 ((accrued?_eq_some.1 haccrued).symm.trans hdebt)
    refine ⟨⟨hle, hbalance⟩, ?_, ?_⟩
    · rw [← hq, paid, ← Amount.eq_sub_of_add hpaid]
    · rw [← hy, Position.settled, ← Amount.eq_sub_of_add hleft]
  · rintro ⟨⟨hle, hbalance⟩, rfl, rfl⟩
    exact ⟨reward, hreward, hle, hbalance, p.balance - amount, Amount.toNat_sub_add hbalance,
      accrued, accrued?_eq_some.1 haccrued, reward - amount, Amount.toNat_sub_add hle, rfl, rfl⟩

theorem exists_withdrawReward_iff (h : x.pendingReward? p = some reward) :
    (∃ q y, p.withdrawReward x amount = .ok (q, y)) ↔ amount ≤ reward ∧ amount ≤ p.balance := by
  obtain ⟨accrued, haccrued⟩ := accrued?_of_pendingReward h
  simp only [withdrawReward_eq_ok_iff haccrued h]
  exact ⟨fun ⟨_, _, hle, _⟩ => hle, fun hle => ⟨_, _, hle, rfl, rfl⟩⟩

theorem pays_of_withdrawReward (hreward : x.pendingReward? p = some reward)
    (h : p.withdrawReward x amount = .ok (q, y)) :
    p.Pays q x y amount ∧ y.remaining.toNat + amount.toNat = reward.toNat ∧
      y.pendingReward? q = some y.remaining := by
  obtain ⟨accrued, haccrued⟩ := accrued?_of_pendingReward hreward
  obtain ⟨⟨hle, hbalance⟩, rfl, rfl⟩ := (withdrawReward_eq_ok_iff haccrued hreward).1 h
  refine ⟨?_, Amount.toNat_sub_add hle, Position.pendingReward?_settled haccrued _ _⟩
  constructor
  case balance => exact Amount.toNat_sub_add hbalance
  case pool => rfl
  case earns => exact Amount.cap_addCapped _ _
  case position => rfl

/-! ## Two withdrawals -/

/-- Withdrawn in two parts or in one, a reward leaves the same pool and the same position. -/
theorem withdrawReward_add {m n : UInt64} (hreward : x.pendingReward? p = some reward)
    (fits : m.toNat + n.toNat < UInt64.size) :
    (∃ p' x', p.withdrawReward x m = .ok (p', x') ∧ p'.withdrawReward x' n = .ok (q, y)) ↔
      p.withdrawReward x (m + n) = .ok (q, y) := by
  obtain ⟨accrued, haccrued⟩ := accrued?_of_pendingReward hreward
  have hsecond : (p.paid m).withdrawReward (x.settled accrued (reward - m) m) n = .ok (q, y) ↔
      (n ≤ reward - m ∧ n ≤ p.balance - m) ∧
        p.paid (m + n) = q ∧ x.settled accrued (reward - (m + n)) (m + n) = y := by
    rw [← paid_paid, ← Position.settled_settled fits, ← Amount.sub_sub_eq]
    exact withdrawReward_eq_ok_iff haccrued (Position.pendingReward?_settled haccrued m m)
  rw [withdrawReward_eq_ok_iff haccrued hreward, ← Amount.le_and_le_sub_iff fits,
    ← Amount.le_and_le_sub_iff (a := p.balance) fits]
  constructor
  · rintro ⟨p', x', hfirst, hnext⟩
    obtain ⟨⟨hm, hm'⟩, rfl, rfl⟩ := (withdrawReward_eq_ok_iff haccrued hreward).1 hfirst
    obtain ⟨⟨hn, hn'⟩, hleft⟩ := hsecond.1 hnext
    exact ⟨⟨⟨hm, hn⟩, hm', hn'⟩, hleft⟩
  · rintro ⟨⟨⟨hm, hn⟩, hm', hn'⟩, hleft⟩
    exact ⟨_, _, (withdrawReward_eq_ok_iff haccrued hreward).2 ⟨⟨hm, hm'⟩, rfl, rfl⟩,
      hsecond.2 ⟨⟨hn, hn'⟩, hleft⟩⟩

end Pool

end CustodyBridge
