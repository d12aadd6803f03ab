import CustodyBridge.Ledger.Program

/-!
# Amounts

Token amounts are 64-bit words. Each operation says by its name what it does at the bounds.
-/

namespace CustodyBridge.Amount

/-- The greatest amount. -/
def max : UInt64 := UInt64.ofNat (UInt64.size - 1)

/-- The amount of a number that is one. -/
def ofNat? (n : Nat) : Option UInt64 := if n < UInt64.size then some (UInt64.ofNat n) else none

/-- The sum, if it is an amount. -/
def add? (a b : UInt64) : Option UInt64 := ofNat? (a.toNat + b.toNat)

/-- The sum, or the greatest amount if the sum is more. -/
def addCapped (a b : UInt64) : UInt64 := (add? a b).getD max

/-- The difference, or zero if it is negative. -/
def subCapped (a b : UInt64) : UInt64 := if b ≤ a then a - b else 0

/-- The difference, which must not be negative. -/
def sub {ε : Type} (a b : UInt64) : Outcome ε UInt64 :=
  if b ≤ a then .ok (a - b) else .panic .subtraction

theorem ofNat?_eq_some {n : Nat} {a : UInt64} : ofNat? n = some a ↔ n = a.toNat := by
  unfold ofNat?
  constructor
  · intro h
    split at h
    · rename_i hn
      cases h
      rw [UInt64.toNat_ofNat', Nat.mod_eq_of_lt hn]
    · cases h
  · rintro rfl
    rw [if_pos a.toNat_lt]
    simp

theorem toNat_addCapped (a b : UInt64) :
    (addCapped a b).toNat = min (a.toNat + b.toNat) (UInt64.size - 1) := by
  unfold addCapped add? ofNat?
  split
  · rename_i h
    simp only [Option.getD_some]
    rw [UInt64.toNat_ofNat', Nat.mod_eq_of_lt h]
    omega
  · simp only [Option.getD_none, max]
    rw [UInt64.toNat_ofNat', Nat.mod_eq_of_lt (by decide)]
    omega

theorem toNat_subCapped (a b : UInt64) : (subCapped a b).toNat = a.toNat - b.toNat := by
  unfold subCapped
  split
  · rename_i h
    exact UInt64.toNat_sub_of_le _ _ h
  · rename_i h
    rw [UInt64.le_iff_toNat_le] at h
    simp; omega

end CustodyBridge.Amount
