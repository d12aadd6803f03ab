import CustodyBridge.SortedMap.Lemmas
import Mathlib.Algebra.BigOperators.Group.List.Basic
import Mathlib.Algebra.Order.BigOperators.Group.List
import Mathlib.Algebra.Ring.Nat

/-!
# Pages of a sorted map

A reader takes some entries at a time, and goes on behind the last key of each page. What is left to
read after a page is what was left before, without the page. So the pages in a row are the entries
in a row.
-/

namespace CustodyBridge.SortedMap

variable {κ ν : Type} [Ord κ] {m : SortedMap κ ν} {after? : Option κ} {sizes : List Nat}

/-- The entries behind a given key, or all of them. -/
def behind (m : SortedMap κ ν) (after? : Option κ) : List (κ × ν) :=
  m.entries.filter fun e => after?.all (compare · e.1 == .lt)

theorem behind_none (m : SortedMap κ ν) : m.behind none = m.entries :=
  List.filter_eq_self.2 fun _ _ => rfl

/-- Where a reader goes on: behind the last key of a page, or where it was if the page is empty. -/
def next? (after? : Option κ) (page : List (κ × ν)) : Option κ :=
  (page.getLast?.map (·.1)).or after?

/-- The pages of given sizes that a reader takes one after another. -/
def pages (m : SortedMap κ ν) : Option κ → List Nat → List (List (κ × ν))
  | _, [] => []
  | after?, size :: sizes =>
    let page := (m.behind after?).take size
    page :: m.pages (next? after? page) sizes

/-! ## One page -/

variable [Std.TransOrd κ]

theorem behind_of_mem {e : κ × ν} (h : e ∈ m.behind after?) :
    m.behind (some e.1) = (m.behind after?).filter fun f => compare e.1 f.1 == .lt := by
  have hafter := (List.mem_filter.1 h).2
  unfold behind
  rw [List.filter_filter]
  refine List.filter_congr fun f _ => ?_
  cases after? with
  | none => simp
  | some a =>
    have hlt : compare a e.1 = .lt := beq_iff_eq.1 hafter
    by_cases hf : compare e.1 f.1 = .lt
    · simp [hf, Std.TransCmp.lt_trans hlt hf]
    · simp [hf]

theorem filter_of_split {before rest : List (κ × ν)} {e : κ × ν}
    (ascend : KeysAscend ((before ++ [e]) ++ rest)) :
    ((before ++ [e]) ++ rest).filter (fun f => compare e.1 f.1 == .lt) = rest := by
  obtain ⟨hpage, -, hcross⟩ := List.pairwise_append.1 ascend
  obtain ⟨-, -, hbefore⟩ := List.pairwise_append.1 hpage
  rw [List.filter_append, List.filter_eq_nil_iff.2, List.nil_append, List.filter_eq_self.2]
  · intro f hf
    rw [hcross e (by simp) f hf]
    rfl
  · intro f hf
    obtain hf | hf := List.mem_append.1 hf
    · rw [Std.OrientedCmp.gt_of_lt (hbefore f hf e (by simp))]
      decide
    · rw [List.mem_singleton.1 hf]
      simp

theorem behind_next? (m : SortedMap κ ν) (after? : Option κ) (size : Nat) :
    m.behind (next? after? ((m.behind after?).take size)) = (m.behind after?).drop size := by
  have hsplit := List.take_append_drop size (m.behind after?)
  obtain hpage | ⟨before, e, hpage⟩ := List.eq_nil_or_concat ((m.behind after?).take size)
  · rw [hpage, List.nil_append] at hsplit
    rw [hpage, hsplit]
    rfl
  · rw [List.concat_eq_append] at hpage
    rw [hpage] at hsplit
    have hmem : e ∈ m.behind after? := by
      rw [← hsplit]
      simp
    have ascend : KeysAscend (m.behind after?) := m.ascend.filter _
    rw [← hsplit] at ascend
    have hnext : next? after? (before ++ [e]) = some e.1 := by simp [next?]
    rw [hpage, hnext, behind_of_mem hmem]
    generalize (m.behind after?).drop size = rest at hsplit ascend ⊢
    rw [← hsplit, filter_of_split ascend]

/-! ## Page after page -/

theorem flatten_pages (m : SortedMap κ ν) (after? : Option κ) (sizes : List Nat) :
    (m.pages after? sizes).flatten = (m.behind after?).take sizes.sum := by
  induction sizes generalizing after? with
  | nil => simp [pages]
  | cons size sizes ih =>
    rw [pages, List.flatten_cons, ih, behind_next?, List.sum_cons, List.take_add]

theorem flatten_pages_of_length_le (pos : ∀ size ∈ sizes, size ≠ 0)
    (enough : (m.behind after?).length ≤ sizes.length) :
    (m.pages after? sizes).flatten = m.behind after? := by
  rw [flatten_pages]
  refine List.take_of_length_le (Nat.le_trans enough ?_)
  exact List.length_le_sum_of_one_le sizes fun size h => Nat.pos_of_ne_zero (pos size h)

theorem page_eq_nil_iff (pos : ∀ size ∈ sizes, size ≠ 0) {done rest : List (List (κ × ν))}
    {page : List (κ × ν)} (h : m.pages after? sizes = done ++ page :: rest) :
    page = [] ↔ done.flatten = m.behind after? := by
  induction sizes generalizing after? done with
  | nil => simp [pages] at h
  | cons size sizes ih =>
    rw [pages] at h
    cases done with
    | nil =>
      obtain ⟨rfl, -⟩ := List.cons.inj h
      rw [List.flatten_nil, eq_comm (a := []), List.take_eq_nil_iff]
      exact or_iff_right (pos size List.mem_cons_self)
    | cons first done =>
      obtain ⟨rfl, hrest⟩ := List.cons.inj h
      rw [ih (fun n hn => pos n (List.mem_cons_of_mem _ hn)) hrest, behind_next?,
        List.flatten_cons, ← List.append_right_inj ((m.behind after?).take size),
        List.take_append_drop]

end CustodyBridge.SortedMap
