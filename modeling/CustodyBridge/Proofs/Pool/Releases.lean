import CustodyBridge.Proofs.Words

/-!
# Releases in numbers

What a release keeps as its fee, what it pays, and what it adds to the ratio, as numbers. A pool
whose rate is at most one whole covers a release or refuses it, and nothing else can happen.
-/

namespace CustodyBridge

namespace Pool

/-! ## The fee -/

/-- The fee of a release, as a number. -/
def feeOf (p : Pool) (n : Nat) : Nat := n * p.feeRate.toNat / feeRateUnit.toNat

/-- What is paid to the recipient. -/
def payoutOf (p : Pool) (n : Nat) : Nat := n - p.feeOf n

/-- There is a fee, and liquidity to share it. -/
def Shares (p : Pool) (n : Nat) : Prop := 0 < p.feeOf n ∧ 0 < p.liquidity.toNat

instance (p : Pool) (n : Nat) : Decidable (p.Shares n) :=
  inferInstanceAs (Decidable (0 < p.feeOf n ∧ 0 < p.liquidity.toNat))

/-- What the fee comes to for each unit of liquidity, in units of the ratio. -/
def raiseOf (p : Pool) (n : Nat) : Nat := p.feeOf n * scale / p.liquidity.toNat

/-! ## Releases -/

/-- A pool has what a release pays, and its ratio has room for the fee. -/
structure Covers (p : Pool) (n : Nat) : Prop where
  payout : p.payoutOf n ≤ p.balance.toNat
  room : p.Shares n → p.ratio.toNat + p.raiseOf n < Word128.size

/-- What becomes of a pool that makes a release. -/
structure Releases (p q : Pool) (n : Nat) : Prop where
  balance : q.balance.toNat + p.payoutOf n = p.balance.toNat
  totalReleased : q.totalReleased.toNat = Amount.cap (p.totalReleased.toNat + n)
  ratio : q.ratio.toNat = p.ratio.toNat + if p.Shares n then p.raiseOf n else 0
  totalEarns : q.totalEarns.toNat =
    if p.Shares n then Amount.cap (p.totalEarns.toNat + p.feeOf n) else p.totalEarns.toNat
  rest : { p with
    balance := q.balance
    totalReleased := q.totalReleased
    ratio := q.ratio
    totalEarns := q.totalEarns } = q

variable {p q : Pool} {amount fee : UInt64} {r : Release}

section rates

variable (rate_le : p.feeRate ≤ feeRateUnit)

include rate_le

theorem feeOf_le (amount : UInt64) : p.feeOf amount.toNat ≤ amount.toNat :=
  feeShare_nat_le amount rate_le

theorem toNat_feeShare (amount : UInt64) :
    (feeShare amount p.feeRate).toNat = p.feeOf amount.toNat := by
  have hless := Nat.lt_of_le_of_lt (feeOf_le rate_le amount) amount.toNat_lt
  rw [feeShare, UInt64.toNat_ofNat', ← feeOf, Nat.mod_eq_of_lt hless]

theorem shares_iff (amount : UInt64) :
    p.Shares amount.toNat ↔ ¬ (feeShare amount p.feeRate = 0 ∨ p.liquidity = 0) := by
  rw [Shares, ← toNat_feeShare rate_le, not_or, ← UInt64.toNat_inj, ← UInt64.toNat_inj]
  exact and_congr Nat.pos_iff_ne_zero Nat.pos_iff_ne_zero

theorem ratioIncrement_feeShare (amount : UInt64) :
    ratioIncrement (feeShare amount p.feeRate) p.liquidity = p.raiseOf amount.toNat := by
  rw [ratioIncrement, toNat_feeShare rate_le, raiseOf]

theorem covers_of_release (h : p.release amount = .ok (q, r)) : p.Covers amount.toNat := by
  obtain ⟨payout, hpayout, hle, balance, -, hdistribute, -⟩ := release_eq_ok.1 h
  rw [toNat_feeShare rate_le] at hpayout
  rw [UInt64.le_iff_toNat_le] at hle
  refine ⟨?_, fun shares => ?_⟩
  · unfold payoutOf
    omega
  · rw [distribute_eq_ok, if_neg ((shares_iff rate_le amount).1 shares)] at hdistribute
    rw [← ratioIncrement_feeShare rate_le]
    exact hdistribute.1

theorem releases_of_release (h : p.release amount = .ok (q, r)) :
    p.Releases q amount.toNat ∧ r.payout.toNat = p.payoutOf amount.toNat ∧
      r.fee.toNat = p.feeOf amount.toNat ∧ r.balance = q.balance := by
  obtain ⟨payout, hpayout, -, balance, hbalance, hdistribute, rfl⟩ := release_eq_ok.1 h
  rw [toNat_feeShare rate_le] at hpayout
  have hpaid : p.payoutOf amount.toNat = payout.toNat := by
    unfold payoutOf
    omega
  rw [distribute_eq_ok] at hdistribute
  refine ⟨?_, hpaid.symm, toNat_feeShare rate_le amount, ?_⟩
  · by_cases shares : p.Shares amount.toNat
    · rw [if_neg ((shares_iff rate_le amount).1 shares)] at hdistribute
      obtain ⟨room, rfl⟩ := hdistribute
      constructor
      case balance => rw [hpaid, hbalance]
      case totalReleased => exact Amount.cap_addCapped _ _
      case ratio =>
        rw [if_pos shares, ← ratioIncrement_feeShare rate_le]
        exact (BitVec.toNat_ofNat _ _).trans (Nat.mod_eq_of_lt room)
      case totalEarns =>
        rw [if_pos shares, ← toNat_feeShare rate_le]
        exact Amount.cap_addCapped _ _
      case rest => rfl
    · rw [if_pos (not_not.1 fun hsome => shares ((shares_iff rate_le amount).2 hsome))]
        at hdistribute
      subst hdistribute
      constructor
      case balance => rw [hpaid, hbalance]
      case totalReleased => exact Amount.cap_addCapped _ _
      case ratio => rw [if_neg shares, Nat.add_zero]
      case totalEarns => rw [if_neg shares]
      case rest => rfl
  · split at hdistribute
    · rw [← hdistribute]
    · rw [← hdistribute.2]

theorem exists_release (h : p.Covers amount.toNat) : ∃ q r, p.release amount = .ok (q, r) := by
  cases hrelease : p.release amount with
  | ok r => exact ⟨r.1, r.2, rfl⟩
  | panic cause =>
    rw [release_eq_panic] at hrelease
    exact absurd (feeShare_le amount rate_le) (UInt64.not_le.2 hrelease.1)
  | error e =>
    simp only [release, Outcome.bind_eq, Outcome.bind_eq_error, Outcome.ite_error_eq_error,
      Amount.sub_ne_error, Amount.sub_eq_ok, Outcome.pure_eq, distribute_eq_error, false_or,
      reduceCtorEq, and_false, exists_false, or_false] at hrelease
    obtain ⟨payout, hpayout, ⟨short, -⟩ | ⟨-, _, -, hsome, large, -⟩⟩ := hrelease
    · rw [toNat_feeShare rate_le] at hpayout
      rw [UInt64.lt_iff_toNat_lt] at short
      have hcovered := h.payout
      unfold payoutOf at hcovered
      omega
    · rw [ratioIncrement_feeShare rate_le] at large
      exact absurd (h.room ((shares_iff rate_le amount).2 hsome)) (Nat.not_lt.2 large)

end rates

end Pool

end CustodyBridge
