import CustodyBridge.Proofs.Pool.Provision
import Mathlib.Algebra.Order.Floor.Semifield
import Mathlib.Data.Nat.Cast.Order.Field
import Mathlib.Data.Rat.Floor
import Mathlib.Tactic.FieldSimp

/-!
# Shares of a fee

A release spreads its fee over the liquidity, and a position gets its share of it, but for two
truncations: what the fee raises the ratio by is floored, and so is what the ratio comes to for an
amount. The first loses less than one unit of the ratio for each unit of the amount; the second
less than one unit of reward, which it may also give back from a release before.
-/

namespace CustodyBridge

/-! ## Two truncations -/

section floors

variable {A R d f L scale : Nat}

theorem lt_cast_div_add_one {m n : Nat} : (m : ℚ) / n < (m / n : Nat) + 1 := by
  rw [← Nat.floor_div_eq_div (K := ℚ)]
  exact Nat.lt_floor_add_one _

/-- What is earned in all, and what is earned by the raise alone, differ by the carry. -/
theorem owed_grow (positive : 0 < scale) (covered : d ≤ A * R / scale) (inc : Nat) :
    A * (R + inc) / scale - d = A * R / scale - d + (A * inc / scale +
      if scale ≤ A * R % scale + A * inc % scale then 1 else 0) := by
  rw [Nat.mul_add, Nat.add_div positive, Nat.add_assoc, Nat.sub_add_comm covered]

variable (positive : 0 < scale) (liquid : 0 < L)

include positive liquid

theorem share_le : ((A * (f * scale / L) / scale : Nat) : ℚ) ≤ A * f / L := by
  have hscale : (0 : ℚ) < scale := Nat.cast_pos.2 positive
  have hL : (0 : ℚ) < L := Nat.cast_pos.2 liquid
  have hraise : ((f * scale / L : Nat) : ℚ) ≤ f * scale / L := by
    exact_mod_cast Nat.cast_div_le (α := ℚ) (m := f * scale) (n := L)
  calc ((A * (f * scale / L) / scale : Nat) : ℚ)
      ≤ ((A * (f * scale / L) : Nat) : ℚ) / scale := Nat.cast_div_le
    _ = A * ((f * scale / L : Nat) : ℚ) / scale := by rw [Nat.cast_mul]
    _ ≤ A * (f * scale / L) / scale := by gcongr
    _ = A * f / L := by field_simp

theorem share_lt : (A * f / L : ℚ) < (A * (f * scale / L) / scale : Nat) + A / scale + 1 := by
  have hscale : (0 : ℚ) < scale := Nat.cast_pos.2 positive
  have hL : (0 : ℚ) < L := Nat.cast_pos.2 liquid
  have hraise : (f * scale / L : ℚ) ≤ (f * scale / L : Nat) + 1 := by
    exact_mod_cast (lt_cast_div_add_one (m := f * scale) (n := L)).le
  have hshare := lt_cast_div_add_one (m := A * (f * scale / L)) (n := scale)
  rw [Nat.cast_mul] at hshare
  calc (A * f / L : ℚ) = A * (f * scale / L) / scale := by field_simp
    _ ≤ A * ((f * scale / L : Nat) + 1) / scale := by gcongr
    _ = A * (f * scale / L : Nat) / scale + A / scale := by rw [mul_add, mul_one, add_div]
    _ < (A * (f * scale / L) / scale : Nat) + 1 + A / scale := by gcongr
    _ = (A * (f * scale / L) / scale : Nat) + A / scale + 1 := add_right_comm _ _ _

end floors

/-! ## Rewards over a release -/

/-- How the reward of a position grows by a fee that is shared: by what the raise of the ratio comes
to for its amount, and one more where that makes a fraction whole. -/
structure Position.Grows (x : Position) (p : Pool) (fee before after : UInt64) : Prop where
  growth : after.toNat = before.toNat +
    (x.amount.toNat * Pool.ratioIncrement fee p.liquidity / Pool.scale +
      if Pool.scale ≤ x.amount.toNat * p.ratio.toNat % Pool.scale +
        x.amount.toNat * Pool.ratioIncrement fee p.liquidity % Pool.scale then 1 else 0)
  le_share : (after.toNat : ℚ) - before.toNat ≤
    x.amount.toNat * fee.toNat / p.liquidity.toNat + 1
  share_lt : (x.amount.toNat * fee.toNat / p.liquidity.toNat : ℚ) -
    x.amount.toNat / Pool.scale - 1 < after.toNat - before.toNat

namespace Pool

variable {p q : Pool} {x : Position} {amount before after : UInt64} {r : Release}

theorem pendingReward?_of_unshared (h : p.release amount = .ok (q, r))
    (unshared : r.fee = 0 ∨ p.liquidity = 0) (x : Position) :
    x.pendingReward? q = x.pendingReward? p := by
  have hratio : q.ratio.toNat = p.ratio.toNat := by
    rw [ratio_after_release h, if_pos unshared, Nat.add_zero]
  rw [Position.pendingReward?_eq_owed, Position.pendingReward?_eq_owed, hratio]

theorem ratioIncrement_zero (liquidity : UInt64) : ratioIncrement 0 liquidity = 0 := by
  simp [ratioIncrement]

theorem grows_of_release (h : p.release amount = .ok (q, r)) (liquid : p.liquidity ≠ 0)
    (covered : x.debt.toNat ≤ x.amount.toNat * p.ratio.toNat / scale)
    (hbefore : x.pendingReward? p = some before) (hafter : x.pendingReward? q = some after) :
    x.Grows p r.fee before after := by
  have hratio : q.ratio.toNat = p.ratio.toNat + ratioIncrement r.fee p.liquidity := by
    rw [ratio_after_release h]
    by_cases none : r.fee = 0
    · rw [if_pos (.inl none), none, ratioIncrement_zero]
    · rw [if_neg (not_or.2 ⟨none, liquid⟩)]
  have hliquid : 0 < p.liquidity.toNat :=
    Nat.pos_of_ne_zero fun hzero => liquid (UInt64.toNat_inj.1 hzero)
  have hgrow := owed_grow scale_pos covered (ratioIncrement r.fee p.liquidity)
  have howed := Position.owed_of_pendingReward hafter
  rw [hratio, Position.owed, hgrow] at howed
  have howed' := Position.owed_of_pendingReward hbefore
  rw [Position.owed] at howed'
  -- The carry is nothing or one unit; the rest is the floor of the share.
  have hgrowth : after.toNat = before.toNat +
      (x.amount.toNat * ratioIncrement r.fee p.liquidity / scale +
        if scale ≤ x.amount.toNat * p.ratio.toNat % scale +
          x.amount.toNat * ratioIncrement r.fee p.liquidity % scale then 1 else 0) := by
    omega
  have hle : x.amount.toNat * ratioIncrement r.fee p.liquidity / scale + before.toNat ≤
      after.toNat ∧ after.toNat ≤
        x.amount.toNat * ratioIncrement r.fee p.liquidity / scale + before.toNat + 1 := by
    split at hgrowth <;> omega
  have hshare := share_le (A := x.amount.toNat) (f := r.fee.toNat) scale_pos hliquid
  have hshare' := CustodyBridge.share_lt (A := x.amount.toNat) (f := r.fee.toNat) scale_pos hliquid
  have hfloor : ((x.amount.toNat * ratioIncrement r.fee p.liquidity / scale : Nat) : ℚ) +
      before.toNat ≤ after.toNat := by exact_mod_cast hle.1
  have hfloor' : (after.toNat : ℚ) ≤
      (x.amount.toNat * ratioIncrement r.fee p.liquidity / scale : Nat) + before.toNat + 1 := by
    exact_mod_cast hle.2
  rw [← ratioIncrement] at hshare hshare'
  exact ⟨hgrowth, by linarith, by linarith⟩

end Pool

end CustodyBridge
