import CustodyBridge.Text.Radix
import Mathlib.Data.List.TakeWhile
import Mathlib.Data.Nat.Digits.Lemmas

/-!
# Digit strings in two bases

A number has one digit string without a zero in front. So a digit string with zeros in front has one
counterpart in any other base, with as many zeros in front and the same number behind them.
-/

namespace CustodyBridge.Radix

variable {base base' n : Nat} {ds ds' : List Nat}

/-! ## Digits of a number -/

theorem ofDigits_append_singleton (base : Nat) (ds : List Nat) (d : Nat) :
    ofDigits base (ds ++ [d]) = ofDigits base ds * base + d := by
  simp [ofDigits]

theorem ofDigits_eq : ofDigits base ds = Nat.ofDigits base ds.reverse := by
  induction ds using List.reverseRecOn with
  | nil => rfl
  | append_singleton ds d ih =>
    rw [ofDigits_append_singleton, ih, List.reverse_concat, Nat.ofDigits_cons, Nat.mul_comm,
      Nat.add_comm]

theorem prepend_eq (hbase : 1 < base) {count : Nat} (hn : n ≤ count) (tail : List Nat) :
    prepend base count n tail = (Nat.digits base n).reverse ++ tail := by
  induction count generalizing n tail with
  | zero =>
    obtain rfl := Nat.le_zero.1 hn
    simp [prepend]
  | succ count ih =>
    rw [prepend]
    split
    · rename_i hzero
      simp [hzero]
    · rename_i hne
      have hless : n / base < n := Nat.div_lt_self (Nat.pos_of_ne_zero hne) hbase
      rw [ih (by omega), Nat.digits_eq_cons_digits_div hbase hne, List.reverse_cons,
        List.append_assoc, List.singleton_append]

theorem digits_eq (hbase : 1 < base) : digits base n = (Nat.digits base n).reverse := by
  rw [digits, prepend_eq hbase (Nat.le_refl n), List.append_nil]

/-- Digits of the base, the first of which is not zero. -/
structure Canonical (base : Nat) (ds : List Nat) : Prop where
  lt : ∀ d ∈ ds, d < base
  head : ds.head? ≠ some 0

theorem canonical_digits (hbase : 1 < base) (n : Nat) : Canonical base (digits base n) := by
  rw [digits_eq hbase]
  refine ⟨fun d hd => Nat.digits_lt_base hbase (List.mem_reverse.1 hd), ?_⟩
  rw [List.head?_reverse]
  by_cases hn : n = 0
  · simp [hn]
  · rw [List.getLast?_eq_some_getLast (Nat.digits_ne_nil_iff_ne_zero.2 hn)]
    simpa using Nat.getLast_digit_ne_zero base hn

theorem ofDigits_digits (hbase : 1 < base) (n : Nat) : ofDigits base (digits base n) = n := by
  rw [ofDigits_eq, digits_eq hbase, List.reverse_reverse, Nat.ofDigits_digits]

theorem Canonical.digits_ofDigits (h : Canonical base ds) (hbase : 1 < base) :
    digits base (ofDigits base ds) = ds := by
  rw [ofDigits_eq, digits_eq hbase, Nat.digits_ofDigits base hbase, List.reverse_reverse]
  · exact fun d hd => h.lt d (List.mem_reverse.1 hd)
  · intro hne hzero
    refine h.head ?_
    rw [← List.getLast?_reverse, List.getLast?_eq_some_getLast hne, hzero]

/-! ## Zeros in front -/

theorem ofDigits_zeros (base zeros : Nat) (ds : List Nat) :
    ofDigits base (List.replicate zeros 0 ++ ds) = ofDigits base ds := by
  rw [ofDigits_eq, ofDigits_eq, List.reverse_append, List.reverse_replicate,
    Nat.ofDigits_append_replicate_zero]

theorem exists_zeros (ds : List Nat) :
    ∃ zeros rest, ds = List.replicate zeros 0 ++ rest ∧ rest.head? ≠ some 0 := by
  induction ds with
  | nil => exact ⟨0, [], rfl, nofun⟩
  | cons d ds ih =>
    by_cases hd : d = 0
    · obtain ⟨zeros, rest, rfl, hhead⟩ := ih
      exact ⟨zeros + 1, rest, by rw [hd, List.replicate_succ, List.cons_append], hhead⟩
    · exact ⟨0, d :: ds, rfl, by simpa using hd⟩

/-- Digit strings in two bases that have the same number, and as many zeros in front. -/
inductive Matches (base base' : Nat) : List Nat → List Nat → Prop where
  | intro {ds ds' : List Nat} (zeros : Nat) (canonical : Canonical base ds)
      (canonical' : Canonical base' ds') (same : ofDigits base ds = ofDigits base' ds') :
      Matches base base' (List.replicate zeros 0 ++ ds) (List.replicate zeros 0 ++ ds')

theorem Matches.symm (h : Matches base base' ds ds') : Matches base' base ds' ds := by
  obtain ⟨zeros, canonical, canonical', same⟩ := h
  exact .intro zeros canonical' canonical same.symm

theorem Matches.lt (h : Matches base base' ds ds') (hbase : 1 < base) : ∀ d ∈ ds, d < base := by
  obtain ⟨zeros, canonical, -, -⟩ := h
  intro d hd
  rcases List.mem_append.1 hd with hd | hd
  · rw [List.eq_of_mem_replicate hd]
    exact Nat.zero_lt_of_lt hbase
  · exact canonical.lt d hd

/-- The same number in another base, behind the same zeros. -/
def convert (base base' : Nat) (ds : List Nat) : List Nat :=
  ds.takeWhile (· = 0) ++ digits base' (ofDigits base ds)

theorem takeWhile_zeros (zeros : Nat) (h : ds.head? ≠ some 0) :
    (List.replicate zeros 0 ++ ds).takeWhile (· = 0) = List.replicate zeros 0 := by
  rw [List.takeWhile_append_of_pos (by simp)]
  cases ds with
  | nil => exact List.append_nil _
  | cons d ds => rw [List.takeWhile_cons_of_neg (by simpa using h), List.append_nil]

theorem Matches.eq_convert (h : Matches base base' ds ds') (hbase' : 1 < base') :
    ds' = convert base base' ds := by
  obtain ⟨zeros, canonical, canonical', same⟩ := h
  rw [convert, takeWhile_zeros zeros canonical.head, ofDigits_zeros, same,
    canonical'.digits_ofDigits hbase']

theorem matches_convert (hlt : ∀ d ∈ ds, d < base) (hbase' : 1 < base') :
    Matches base base' ds (convert base base' ds) := by
  obtain ⟨zeros, rest, rfl, hhead⟩ := exists_zeros ds
  have canonical : Canonical base rest := ⟨fun d hd => hlt d (List.mem_append_right _ hd), hhead⟩
  rw [convert, takeWhile_zeros zeros hhead, ofDigits_zeros]
  exact .intro zeros canonical (canonical_digits hbase' _) (ofDigits_digits hbase' _).symm

end CustodyBridge.Radix
