import CustodyBridge.SortedMap.Lemmas
import Mathlib.Algebra.BigOperators.Group.List.Basic
import Mathlib.Algebra.BigOperators.Ring.List
import Mathlib.Algebra.Ring.Nat
import Mathlib.Data.List.Nodup
import Mathlib.Data.List.Perm.Basic

/-!
# Totals over sorted maps

A quantity summed over the entries of a map, and what one insertion does to the sum.
-/

namespace CustodyBridge.SortedMap

variable {κ ν : Type} [Ord κ] [Std.LawfulEqOrd κ]

/-! ## One entry and the others -/

theorem nodup_entries (m : SortedMap κ ν) : m.entries.Nodup := by
  refine List.Pairwise.imp ?_ m.ascend
  rintro a b hlt rfl
  simp at hlt

theorem entries_perm_of_get? [DecidableEq κ] {m : SortedMap κ ν} {k : κ} {v : ν}
    (h : m.get? k = some v) : m.entries.Perm ((k, v) :: (m.erase k).entries) := by
  have hout : (k, v) ∉ (m.erase k).entries := by simp [mem_entries_iff]
  refine (List.perm_ext_iff_of_nodup (nodup_entries m) ((nodup_entries _).cons hout)).2 ?_
  rintro ⟨k', v'⟩
  rw [List.mem_cons, mem_entries_iff, mem_entries_iff, get?_erase]
  by_cases hk : k = k'
  · subst hk
    rw [h, if_pos rfl]
    simp [eq_comm]
  · rw [if_neg hk]
    simp [Ne.symm hk]

theorem erase_eq_self_of_get? [Std.TransOrd κ] [DecidableEq κ] {m : SortedMap κ ν} {k : κ}
    (h : m.get? k = none) : m.erase k = m := by
  apply ext_get?
  intro k'
  rw [get?_erase]
  split
  · rename_i hk
    rw [← hk, h]
  · rfl

theorem entries_insert_perm [Std.TransOrd κ] [DecidableEq κ] (m : SortedMap κ ν) (k : κ) (v : ν) :
    (m.insert k v).entries.Perm ((k, v) :: (m.erase k).entries) := by
  have herase : (m.insert k v).erase k = m.erase k := by
    apply ext_get?
    intro k'
    rw [get?_erase, get?_erase, get?_insert]
    split <;> rfl
  rw [← herase]
  exact entries_perm_of_get? (get?_insert_self m k v)

theorem insert_insert [Std.TransOrd κ] [DecidableEq κ] (m : SortedMap κ ν) (k : κ) (v w : ν) :
    (m.insert k v).insert k w = m.insert k w := by
  apply ext_get?
  intro k'
  rw [get?_insert, get?_insert, get?_insert]
  split <;> rfl

/-! ## Totals -/

def total (m : SortedMap κ ν) (f : ν → Nat) : Nat := (m.entries.map fun e => f e.2).sum

omit [Std.LawfulEqOrd κ] in
@[simp] theorem total_empty (f : ν → Nat) : (empty : SortedMap κ ν).total f = 0 := rfl

theorem total_erase_of_get? [DecidableEq κ] {m : SortedMap κ ν} {k : κ} {v : ν}
    (h : m.get? k = some v) (f : ν → Nat) : m.total f = f v + (m.erase k).total f := by
  unfold total
  rw [((entries_perm_of_get? h).map _).sum_eq, List.map_cons, List.sum_cons]

theorem le_total [DecidableEq κ] {m : SortedMap κ ν} {k : κ} {v : ν} (h : m.get? k = some v)
    (f : ν → Nat) : f v ≤ m.total f := by
  rw [total_erase_of_get? h]
  exact Nat.le_add_right _ _

theorem total_insert [Std.TransOrd κ] [DecidableEq κ] (m : SortedMap κ ν) (k : κ) (v : ν)
    (f : ν → Nat) :
    (m.insert k v).total f + ((m.get? k).map f).getD 0 = m.total f + f v := by
  have hinsert : (m.insert k v).total f = f v + (m.erase k).total f := by
    unfold total
    rw [((entries_insert_perm m k v).map _).sum_eq, List.map_cons, List.sum_cons]
  rw [hinsert]
  cases h : m.get? k with
  | none =>
    rw [erase_eq_self_of_get? h, Option.map_none, Option.getD_none]
    omega
  | some old =>
    rw [total_erase_of_get? h, Option.map_some, Option.getD_some]
    omega

section sums

omit [Std.LawfulEqOrd κ]

variable (m : SortedMap κ ν)

theorem total_add (f g : ν → Nat) : (m.total fun v => f v + g v) = m.total f + m.total g :=
  List.sum_map_add

theorem total_mul (f : ν → Nat) (n : Nat) : (m.total fun v => f v * n) = m.total f * n :=
  List.sum_map_mul_right _ _ _

theorem total_le_total {f g : ν → Nat} (h : ∀ v, f v ≤ g v) : m.total f ≤ m.total g := by
  unfold total
  induction m.entries with
  | nil => rfl
  | cons e rest ih =>
    simp only [List.map_cons, List.sum_cons]
    exact Nat.add_le_add (h e.2) ih

end sums

/-! ## Parts of a map -/

theorem filter_insert [Std.TransOrd κ] [DecidableEq κ] (m : SortedMap κ ν) (p : κ × ν → Bool)
    (k : κ) (v : ν) (h : p (k, v) = true) :
    (m.insert k v).filter p = (m.filter p).insert k v := by
  apply ext_get?
  intro k'
  rw [get?_filter, get?_insert, get?_insert, get?_filter]
  split
  · rename_i hk
    subst hk
    simp [Option.filter, h]
  · rfl

theorem filter_insert_of_not [Std.TransOrd κ] [DecidableEq κ] (m : SortedMap κ ν)
    (p : κ × ν → Bool) (k : κ) (v : ν) (h : p (k, v) = false)
    (hold : (m.filter p).get? k = none) : (m.insert k v).filter p = m.filter p := by
  apply ext_get?
  intro k'
  rw [get?_filter, get?_insert]
  split
  · rename_i hk
    subst hk
    rw [hold]
    simp [Option.filter, h]
  · rw [get?_filter]

end CustodyBridge.SortedMap
