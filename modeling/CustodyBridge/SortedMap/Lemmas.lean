import CustodyBridge.SortedMap.Basic

/-!
# What a sorted map holds

Each operation is described by the lookups that it changes, and two maps with equal lookups are
the same map.
-/

namespace CustodyBridge.SortedMap

variable {κ ν : Type} [Ord κ]

@[simp] theorem get?_empty (k : κ) : (empty : SortedMap κ ν).get? k = none := rfl

variable [Std.LawfulEqOrd κ]

/-! ## Entries and lookups -/

theorem mem_entries_iff {m : SortedMap κ ν} {k : κ} {v : ν} :
    (k, v) ∈ m.entries ↔ m.get? k = some v := by
  obtain ⟨entries, h⟩ := m
  simp only [get?]
  induction entries with
  | nil => simp
  | cons e rest ih =>
    have hrest := List.pairwise_cons.1 h
    obtain ⟨key, value⟩ := e
    by_cases hk : key = k
    · subst hk
      rw [List.find?_cons_of_pos (by simp)]
      simp only [List.mem_cons, Option.map_some, Option.some.injEq, Prod.mk.injEq, true_and]
      constructor
      · rintro (rfl | hm)
        · rfl
        · simpa using hrest.1 _ hm
      · rintro rfl
        exact .inl rfl
    · rw [List.find?_cons_of_neg (by simpa using hk), ← ih hrest.2, List.mem_cons]
      have hne : (k, v) ≠ (key, value) := fun e => hk (congrArg Prod.fst e).symm
      simp [hne]

theorem get?_eq_none_iff {m : SortedMap κ ν} {k : κ} :
    m.get? k = none ↔ ∀ v, (k, v) ∉ m.entries := by
  simp only [mem_entries_iff]
  cases m.get? k <;> simp

/-! ## Lookups behind an erasure -/

theorem get?_filter (m : SortedMap κ ν) (p : κ × ν → Bool) (k : κ) :
    (m.filter p).get? k = (m.get? k).filter fun v => p (k, v) := by
  apply Option.ext
  intro v
  rw [← Option.mem_def, Option.mem_def, ← mem_entries_iff, Option.filter_eq_some_iff,
    ← mem_entries_iff]
  exact List.mem_filter

@[simp] theorem get?_erase_self (m : SortedMap κ ν) (k : κ) : (m.erase k).get? k = none := by
  simp [erase, get?_filter]

theorem get?_erase_of_ne (m : SortedMap κ ν) {k k' : κ} (h : k ≠ k') :
    (m.erase k).get? k' = m.get? k' := by
  rw [erase, get?_filter]
  cases m.get? k' with
  | none => rfl
  | some v => simp [Option.filter, Ne.symm h]

theorem get?_erase [DecidableEq κ] (m : SortedMap κ ν) (k k' : κ) :
    (m.erase k).get? k' = if k = k' then none else m.get? k' := by
  split
  · rename_i h; subst h; exact get?_erase_self m k
  · exact get?_erase_of_ne m ‹_›

/-! ## Equality -/

variable [Std.TransOrd κ]

theorem eq_of_mem_iff {xs ys : List (κ × ν)} (hx : KeysAscend xs) (hy : KeysAscend ys)
    (h : ∀ a, a ∈ xs ↔ a ∈ ys) : xs = ys := by
  induction xs generalizing ys with
  | nil =>
    cases ys with
    | nil => rfl
    | cons b ys => exact absurd ((h b).2 List.mem_cons_self) (by simp)
  | cons a xs ih =>
    cases ys with
    | nil => exact absurd ((h a).1 List.mem_cons_self) (by simp)
    | cons b ys =>
      have hx' := List.pairwise_cons.1 hx
      have hy' := List.pairwise_cons.1 hy
      have hab : a = b := by
        rcases List.mem_cons.1 ((h a).1 List.mem_cons_self) with rfl | ha
        · rfl
        rcases List.mem_cons.1 ((h b).2 List.mem_cons_self) with rfl | hb
        · rfl
        have := Std.TransCmp.lt_trans (hx'.1 b hb) (hy'.1 a ha)
        simp at this
      subst hab
      rw [ih hx'.2 hy'.2]
      intro c
      constructor
      · intro hc
        rcases List.mem_cons.1 ((h c).1 (List.mem_cons_of_mem _ hc)) with rfl | hc'
        · have := hx'.1 _ hc
          simp at this
        · exact hc'
      · intro hc
        rcases List.mem_cons.1 ((h c).2 (List.mem_cons_of_mem _ hc)) with rfl | hc'
        · have := hy'.1 _ hc
          simp at this
        · exact hc'

theorem ext_get? {m n : SortedMap κ ν} (h : ∀ k, m.get? k = n.get? k) : m = n := by
  apply ext_entries
  apply eq_of_mem_iff m.ascend n.ascend
  rintro ⟨k, v⟩
  rw [mem_entries_iff, mem_entries_iff, h]

/-! ## Lookups behind an insertion -/

theorem find?_insertEntry (k k' : κ) (v : ν) (entries : List (κ × ν)) :
    (insertEntry k v entries).find? (fun e => compare e.1 k' == .eq) =
      if compare k k' == .eq then some (k, v)
      else entries.find? fun e => compare e.1 k' == .eq := by
  induction entries with
  | nil => simp [insertEntry, List.find?_cons]; split <;> simp_all
  | cons e rest ih =>
    rw [insertEntry]
    split
    · rw [List.find?_cons]; split <;> simp_all
    · rename_i heq
      have hk := Std.LawfulEqOrd.eq_of_compare heq
      subst hk
      cases hc : compare e.1 k' == .eq <;> simp [hc]
    · rename_i hgt
      rw [List.find?_cons, ih, List.find?_cons]
      by_cases hk : k = k'
      · subst hk
        have : compare e.1 k = .lt := Std.OrientedCmp.gt_iff_lt.1 hgt
        simp [this]
      · simp [hk]

@[simp] theorem get?_insert_self (m : SortedMap κ ν) (k : κ) (v : ν) :
    (m.insert k v).get? k = some v := by
  simp [get?, insert, find?_insertEntry]

theorem get?_insert_of_ne (m : SortedMap κ ν) {k k' : κ} (v : ν) (h : k ≠ k') :
    (m.insert k v).get? k' = m.get? k' := by
  have : (compare k k' == .eq) = false := by simpa using h
  simp only [get?, insert, find?_insertEntry, this]
  rfl

theorem get?_insert [DecidableEq κ] (m : SortedMap κ ν) (k k' : κ) (v : ν) :
    (m.insert k v).get? k' = if k = k' then some v else m.get? k' := by
  split
  · rename_i h; subst h; exact get?_insert_self m k v
  · exact get?_insert_of_ne m v ‹_›

end CustodyBridge.SortedMap
