import CustodyBridge.Decimals
import CustodyBridge.Proofs.Amount
import Mathlib.Algebra.Order.Ring.Nat

/-!
# Decimals as exact fractions

A conversion multiplies by one power of ten and divides by another, rounded down. Computing it with
the power of their difference, in words of 128 bits, gives the same wherever that power is one. So
conversions obey the laws of rounded fractions.
-/

namespace CustodyBridge.Decimals

/-- How many decimals two precisions are apart. -/
def gap (source target : UInt8) : Nat :=
  (source.toNat - target.toNat) + (target.toNat - source.toNat)

theorem pow_lt_size_iff {k : Nat} : 10 ^ k < Word128.size ↔ k ≤ 38 := by
  constructor
  · intro h
    by_contra hmore
    have hpow : 10 ^ 39 ≤ 10 ^ k := Nat.pow_le_pow_right (by decide) (by omega)
    exact absurd (Nat.lt_of_le_of_lt hpow h) (by decide)
  · intro h
    exact Nat.lt_of_le_of_lt (Nat.pow_le_pow_right (by decide) h) (by decide)

theorem tenTo?_eq_some {k n : Nat} : tenTo? k = some n ↔ k ≤ 38 ∧ 10 ^ k = n := by
  unfold tenTo?
  have hpow : Nat.pow 10 k = 10 ^ k := rfl
  rw [hpow, ← pow_lt_size_iff]
  by_cases h : 10 ^ k < Word128.size <;> simp [h]

section fractions

variable {n s t : Nat}

theorem fraction_of_le (h : t ≤ s) : n * 10 ^ t / 10 ^ s = n / 10 ^ (s - t) := by
  have hpow : 10 ^ s = 10 ^ (s - t) * 10 ^ t := by rw [← Nat.pow_add, Nat.sub_add_cancel h]
  rw [hpow, Nat.mul_div_mul_right _ _ (Nat.pow_pos (by decide))]

theorem fraction_of_ge (h : s ≤ t) : n * 10 ^ t / 10 ^ s = n * 10 ^ (t - s) := by
  have hpow : 10 ^ t = 10 ^ (t - s) * 10 ^ s := by rw [← Nat.pow_add, Nat.sub_add_cancel h]
  rw [hpow, ← Nat.mul_assoc, Nat.mul_div_cancel _ (Nat.pow_pos (by decide))]

end fractions

/-- A conversion is exact, rounded down: it is there where the precisions are at most 38 decimals
apart and the result is an amount. -/
theorem convert?_eq_some {amount : Word128} {source target : UInt8} {x : UInt64} :
    convert? amount source target = some x ↔ gap source target ≤ 38 ∧
      amount.toNat * 10 ^ target.toNat / 10 ^ source.toNat = x.toNat := by
  unfold convert? gap
  by_cases h : target ≤ source
  · have hle := UInt8.le_iff_toNat_le.1 h
    rw [if_pos h, fraction_of_le hle, Nat.sub_eq_zero_of_le hle, Nat.add_zero]
    simp only [Option.bind_eq_bind, Option.bind_eq_some_iff, tenTo?_eq_some, Amount.ofNat?_eq_some]
    constructor
    · rintro ⟨_, ⟨hgap, rfl⟩, hx⟩
      exact ⟨hgap, hx⟩
    · rintro ⟨hgap, hx⟩
      exact ⟨_, ⟨hgap, rfl⟩, hx⟩
  · have hge : source.toNat ≤ target.toNat :=
      Nat.le_of_lt (UInt8.lt_iff_toNat_lt.1 (UInt8.not_le.1 h))
    rw [if_neg h, fraction_of_ge hge, Nat.sub_eq_zero_of_le hge, Nat.zero_add]
    simp only [Option.bind_eq_bind, Option.bind_eq_some_iff, tenTo?_eq_some]
    constructor
    · rintro ⟨_, ⟨hgap, rfl⟩, hx⟩
      rw [Option.ite_none_right_eq_some, Amount.ofNat?_eq_some] at hx
      exact ⟨hgap, hx.2⟩
    · rintro ⟨hgap, hx⟩
      -- A result that is an amount has had room in the wider word.
      have hroom : amount.toNat * 10 ^ (target.toNat - source.toNat) < Word128.size := by
        rw [hx]
        exact Nat.lt_trans x.toNat_lt (by decide)
      exact ⟨_, ⟨hgap, rfl⟩, by rw [if_pos hroom, Amount.ofNat?_eq_some, hx]⟩

section results

variable {amount m n whole : Word128} {source target : UInt8} {x y z : UInt64}

theorem convert?_eq (amount : Word128) (source target : UInt8) :
    convert? amount source target =
      if 39 ≤ gap source target ∨
        UInt64.size ≤ amount.toNat * 10 ^ target.toNat / 10 ^ source.toNat then none
      else some (UInt64.ofNat (amount.toNat * 10 ^ target.toNat / 10 ^ source.toNat)) := by
  split
  · rename_i h
    rw [Option.eq_none_iff_forall_ne_some]
    intro x hx
    obtain ⟨hgap, hresult⟩ := convert?_eq_some.1 hx
    have hfits : x.toNat < UInt64.size := x.toNat_lt
    omega
  · rename_i h
    rw [not_or, Nat.not_le, Nat.not_le] at h
    exact convert?_eq_some.2 ⟨Nat.le_of_lt_succ h.1, (UInt64.toNat_ofNat_of_lt' h.2).symm⟩

/-! ## Several conversions -/

theorem gap_comm (source target : UInt8) : gap source target = gap target source :=
  Nat.add_comm _ _

theorem convert?_mono (le : m.toNat ≤ n.toNat) (h : convert? n source target = some y) :
    ∃ x, convert? m source target = some x ∧ x ≤ y := by
  obtain ⟨hgap, hy⟩ := convert?_eq_some.1 h
  have hle : m.toNat * 10 ^ target.toNat / 10 ^ source.toNat ≤ y.toNat := by
    rw [← hy]
    exact Nat.div_le_div_right (Nat.mul_le_mul_right _ le)
  have hx := UInt64.toNat_ofNat_of_lt' (Nat.lt_of_le_of_lt hle y.toNat_lt)
  refine ⟨_, convert?_eq_some.2 ⟨hgap, hx.symm⟩, UInt64.le_iff_toNat_le.2 ?_⟩
  rw [hx]
  exact hle

theorem convert?_back (le : source ≤ target) (h : convert? amount source target = some x) :
    ∃ y, convert? (BitVec.ofNat 128 x.toNat) target source = some y ∧
      y.toNat = amount.toNat := by
  have hle := UInt8.le_iff_toNat_le.1 le
  obtain ⟨hgap, hx⟩ := convert?_eq_some.1 h
  rw [fraction_of_ge hle] at hx
  have hpow : 0 < 10 ^ (target.toNat - source.toNat) := Nat.pow_pos (by decide)
  have hfits : amount.toNat < UInt64.size := by
    refine Nat.lt_of_le_of_lt ?_ x.toNat_lt
    rw [← hx]
    exact Nat.le_mul_of_pos_right _ hpow
  have hword : (BitVec.ofNat 128 x.toNat).toNat = x.toNat := by
    rw [BitVec.toNat_ofNat]
    exact Nat.mod_eq_of_lt (Nat.lt_trans x.toNat_lt (by decide))
  refine ⟨UInt64.ofNat amount.toNat, convert?_eq_some.2 ⟨gap_comm target source ▸ hgap, ?_⟩,
    UInt64.toNat_ofNat_of_lt' hfits⟩
  rw [hword, fraction_of_le hle, ← hx, Nat.mul_div_cancel _ hpow, UInt64.toNat_ofNat_of_lt' hfits]

theorem convert?_parts (sum : m.toNat + n.toNat = whole.toNat)
    (h : convert? whole source target = some z) :
    ∃ x y, convert? m source target = some x ∧ convert? n source target = some y ∧
      x.toNat + y.toNat ≤ z.toNat := by
  obtain ⟨x, hx, -⟩ := convert?_mono (m := m) (by omega) h
  obtain ⟨y, hy, -⟩ := convert?_mono (m := n) (by omega) h
  refine ⟨x, y, hx, hy, ?_⟩
  rw [← (convert?_eq_some.1 hx).2, ← (convert?_eq_some.1 hy).2, ← (convert?_eq_some.1 h).2, ← sum,
    Nat.add_mul]
  exact Nat.div_add_div_le_add_div

end results

end CustodyBridge.Decimals
