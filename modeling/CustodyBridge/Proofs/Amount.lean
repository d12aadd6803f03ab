import CustodyBridge.Amount

/-!
# Amounts as numbers

What the operations on amounts come to in natural numbers, sums that stop at the greatest amount,
and amounts added or taken one after another.
-/

namespace CustodyBridge.Amount

/-! ## Checked operations -/

@[simp] theorem add?_eq_some {a b c : UInt64} : add? a b = some c ↔ a.toNat + b.toNat = c.toNat :=
  ofNat?_eq_some

theorem ofNat?_eq_none {n : Nat} : ofNat? n = none ↔ UInt64.size ≤ n := by
  unfold ofNat?
  split <;> simp [*, Nat.not_le.2, Nat.not_lt.1]

@[simp] theorem add?_eq_none {a b : UInt64} :
    add? a b = none ↔ UInt64.size ≤ a.toNat + b.toNat := ofNat?_eq_none

theorem toNat_sub_add {a b : UInt64} (h : b ≤ a) : (a - b).toNat + b.toNat = a.toNat := by
  rw [UInt64.toNat_sub_of_le _ _ h]
  exact Nat.sub_add_cancel (UInt64.le_iff_toNat_le.1 h)

theorem eq_sub_of_add {a b c : UInt64} (h : c.toNat + b.toNat = a.toNat) : c = a - b := by
  have hle : b ≤ a := UInt64.le_iff_toNat_le.2 (by omega)
  exact UInt64.toNat_inj.1 (Nat.add_right_cancel (h.trans (toNat_sub_add hle).symm))

theorem sub_eq_ok {ε : Type} {a b c : UInt64} :
    (sub a b : Outcome ε UInt64) = .ok c ↔ c.toNat + b.toNat = a.toNat := by
  unfold sub
  constructor
  · intro h
    split at h
    · rename_i hle
      cases h
      exact toNat_sub_add hle
    · cases h
  · intro h
    have hle : b ≤ a := UInt64.le_iff_toNat_le.2 (by omega)
    rw [if_pos hle, eq_sub_of_add h]

@[simp] theorem sub_ne_error {ε : Type} {a b : UInt64} {e : ε} :
    (sub a b : Outcome ε UInt64) ≠ .error e := by
  unfold sub
  split <;> simp

@[simp] theorem sub_eq_panic {ε : Type} {a b : UInt64} {p : Panic} :
    (sub a b : Outcome ε UInt64) = .panic p ↔ a < b ∧ p = .subtraction := by
  unfold sub
  split
  · rename_i h
    simp [UInt64.not_lt.2 h]
  · rename_i h
    simp [UInt64.not_le.1 h, eq_comm]

/-! ## Capped sums -/

/-- A number, or the greatest amount if the number is more. -/
def cap (n : Nat) : Nat := min n (UInt64.size - 1)

theorem cap_toNat (a : UInt64) : cap a.toNat = a.toNat :=
  Nat.min_eq_left (Nat.le_sub_one_of_lt a.toNat_lt)

theorem cap_cap_add (m n : Nat) : cap (cap m + n) = cap (m + n) := by
  unfold cap
  omega

theorem cap_le_cap {m n : Nat} (h : m ≤ n) : cap m ≤ cap n := by
  unfold cap
  omega

theorem cap_addCapped (a b : UInt64) : (addCapped a b).toNat = cap (a.toNat + b.toNat) :=
  toNat_addCapped a b

theorem cap_lt_cap_iff {m n : Nat} : cap n < cap m ↔ n < m ∧ n < Amount.max.toNat := by
  have hmax : Amount.max.toNat = UInt64.size - 1 := by decide
  unfold cap
  omega

/-! ## One amount after another -/

variable {a b c m n : UInt64}

theorem add_swap (hb : a.toNat + m.toNat = b.toNat) (hc : b.toNat + n.toNat = c.toNat) :
    ∃ b' : UInt64, a.toNat + n.toNat = b'.toNat ∧ b'.toNat + m.toNat = c.toNat := by
  have hle : m ≤ c := UInt64.le_iff_toNat_le.2 (by omega)
  have hsub := UInt64.toNat_sub_of_le _ _ hle
  exact ⟨c - m, by omega, by omega⟩

theorem addCapped_right_comm (a m n : UInt64) :
    addCapped (addCapped a m) n = addCapped (addCapped a n) m := by
  apply UInt64.toNat_inj.1
  rw [cap_addCapped, cap_addCapped, cap_cap_add, cap_addCapped, cap_addCapped, cap_cap_add,
    Nat.add_right_comm]

theorem addCapped_addCapped (fits : m.toNat + n.toNat < UInt64.size) :
    addCapped (addCapped a m) n = addCapped a (m + n) := by
  apply UInt64.toNat_inj.1
  rw [cap_addCapped, cap_addCapped, cap_addCapped, cap_cap_add, UInt64.toNat_add,
    Nat.mod_eq_of_lt fits, Nat.add_assoc]

theorem sub_sub_eq (a m n : UInt64) : a - m - n = a - (m + n) := by
  simp only [UInt64.sub_eq_add_neg, UInt64.neg_add, UInt64.add_assoc]

theorem le_and_le_sub_iff (fits : m.toNat + n.toNat < UInt64.size) :
    m ≤ a ∧ n ≤ a - m ↔ m + n ≤ a := by
  have hsum : (m + n).toNat = m.toNat + n.toNat := by
    rw [UInt64.toNat_add, Nat.mod_eq_of_lt fits]
  constructor
  · rintro ⟨hm, hn⟩
    rw [UInt64.le_iff_toNat_le, UInt64.toNat_sub_of_le _ _ hm] at hn
    rw [UInt64.le_iff_toNat_le] at hm ⊢
    omega
  · intro h
    have hm : m ≤ a := by
      rw [UInt64.le_iff_toNat_le] at h ⊢
      omega
    refine ⟨hm, ?_⟩
    rw [UInt64.le_iff_toNat_le] at h ⊢
    rw [UInt64.toNat_sub_of_le _ _ hm]
    omega

end CustodyBridge.Amount
