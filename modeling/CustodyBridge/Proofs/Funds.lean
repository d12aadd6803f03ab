import CustodyBridge.Funds
import CustodyBridge.Proofs.Amount
import CustodyBridge.SortedMap.Lemmas
import Mathlib.Algebra.BigOperators.Group.List.Basic
import Mathlib.Algebra.Ring.Nat

/-!
# Sums of funds

Funds are added up entry by entry, and each sum must be an amount all the way. It comes to the same
as comparing exact sums, mint by mint, in whatever entries the funds come.
-/

namespace CustodyBridge

/-! ## Exact sums -/

namespace Funds

/-- What the entries of a mint come to, as a number. -/
def sumOf (mint : Address) (funds : List Funds) : Nat :=
  ((funds.filter (·.mint = mint)).map (·.amount.toNat)).sum

variable {mint : Address} {funds : List Funds} {f : Funds}

@[simp] theorem sumOf_nil : sumOf mint [] = 0 := rfl

@[simp] theorem sumOf_cons :
    sumOf mint (f :: funds) = (if mint = f.mint then f.amount.toNat else 0) + sumOf mint funds := by
  unfold sumOf
  rw [List.filter_cons]
  by_cases hmint : f.mint = mint
  · simp [hmint]
  · simp [hmint, Ne.symm hmint]

theorem sumOf_append (funds more : List Funds) :
    sumOf mint (funds ++ more) = sumOf mint funds + sumOf mint more := by
  simp [sumOf]

end Funds

/-! ## Totals -/

namespace Totals

/-- Totals are the sums of entries, and have no entry of their own for a sum of zero. -/
structure Sums (t : Totals) (funds : List Funds) : Prop where
  toNat_ofMint : ∀ mint, (t.ofMint mint).toNat = Funds.sumOf mint funds
  get?_ne_zero : ∀ mint, t.get? mint ≠ some 0

variable {t u : Totals} {funds more : List Funds} {f : Funds} {mint : Address}

theorem sums_empty : Sums SortedMap.empty [] := ⟨fun _ => rfl, nofun⟩

theorem Sums.lt_size (h : t.Sums funds) : Funds.sumOf mint funds < UInt64.size := by
  rw [← h.toNat_ofMint]
  exact (t.ofMint mint).toNat_lt

theorem Sums.get?_eq (h : t.Sums funds) :
    t.get? mint = if t.ofMint mint = 0 then none else some (t.ofMint mint) := by
  have hne := h.get?_ne_zero mint
  unfold ofMint
  cases found : t.get? mint with
  | none => simp
  | some sum =>
    rw [found] at hne
    rw [Option.getD_some, if_neg fun hzero => hne (by rw [hzero])]

theorem Sums.unique (h : t.Sums funds) (h' : u.Sums more)
    (same : ∀ mint, Funds.sumOf mint funds = Funds.sumOf mint more) : t = u := by
  apply SortedMap.ext_get?
  intro mint
  have hsum : t.ofMint mint = u.ofMint mint := by
    apply UInt64.toNat_inj.1
    rw [h.toNat_ofMint, h'.toNat_ofMint, same]
  rw [h.get?_eq, h'.get?_eq, hsum]

theorem Sums.add? (h : t.Sums funds) (f : Funds) :
    (∃ u, t.add? f = some u ∧ u.Sums (funds ++ [f])) ∨
      t.add? f = none ∧ UInt64.size ≤ Funds.sumOf f.mint (funds ++ [f]) := by
  unfold Totals.add?
  by_cases hzero : f.amount = 0
  · rw [if_pos hzero]
    refine .inl ⟨t, rfl, fun mint => ?_, h.get?_ne_zero⟩
    rw [h.toNat_ofMint, Funds.sumOf_append]
    simp [hzero]
  · rw [if_neg hzero]
    cases hadd : Amount.add? (t.ofMint f.mint) f.amount with
    | none =>
      rw [Amount.add?_eq_none, h.toNat_ofMint] at hadd
      refine .inr ⟨rfl, ?_⟩
      simpa [Funds.sumOf_append] using hadd
    | some sum =>
      rw [Amount.add?_eq_some, h.toNat_ofMint] at hadd
      refine .inl ⟨_, rfl, fun mint => ?_, fun mint => ?_⟩
      · unfold ofMint
        rw [SortedMap.get?_insert, Funds.sumOf_append]
        by_cases hmint : f.mint = mint
        · subst hmint
          simp [hadd]
        · rw [if_neg hmint, ← ofMint, h.toNat_ofMint]
          simp [Ne.symm hmint]
      · rw [SortedMap.get?_insert]
        split
        · rintro ⟨rfl⟩
          exact hzero (UInt64.toNat_inj.1 (Nat.eq_zero_of_add_eq_zero_left hadd))
        · exact h.get?_ne_zero mint

theorem ofFunds?_sums (funds : List Funds) :
    (∃ t, ofFunds? funds = some t ∧ t.Sums funds) ∨
      ofFunds? funds = none ∧ ∃ mint, UInt64.size ≤ Funds.sumOf mint funds := by
  suffices h : ∀ rest (done : List Funds) (t : Totals), t.Sums done →
      (∃ u, rest.foldlM Totals.add? t = some u ∧ u.Sums (done ++ rest)) ∨
        rest.foldlM Totals.add? t = none ∧
          ∃ mint, UInt64.size ≤ Funds.sumOf mint (done ++ rest) from
    h funds [] SortedMap.empty sums_empty
  -- The induction is on the entries that are left, over the totals of those that are done.
  intro rest
  induction rest with
  | nil =>
    intro done t h
    exact .inl ⟨t, rfl, by rwa [List.append_nil]⟩
  | cons f rest ih =>
    intro done t h
    rw [List.foldlM_cons, ← List.singleton_append, ← List.append_assoc]
    obtain ⟨u, hadd, hu⟩ | ⟨hadd, large⟩ := h.add? f
    · rw [hadd]
      exact ih (done ++ [f]) u hu
    · rw [hadd]
      refine .inr ⟨rfl, f.mint, ?_⟩
      rw [Funds.sumOf_append]
      exact Nat.le_trans large (Nat.le_add_right _ _)

end Totals

/-! ## Comparison -/

/-- What an error about funds says of the entries: that some sum is too large, or how the sums
differ. -/
inductive FundsError.Tells (attached required : List Funds) : FundsError → Prop where
  | attached {mint : Address} (large : UInt64.size ≤ Funds.sumOf mint attached) :
      Tells attached required .overflow
  | required {mint : Address} (large : UInt64.size ≤ Funds.sumOf mint required) :
      Tells attached required .overflow
  | mismatch {t u : Totals} {mint : Address} (attached_sums : t.Sums attached)
      (required_sums : u.Sums required)
      (other : Funds.sumOf mint attached ≠ Funds.sumOf mint required) :
      Tells attached required (.mismatch t u)

namespace Funds

variable {attached required : List Funds} {cause : FundsError}

theorem tells_of_verify (h : verify attached required = .error cause) :
    cause.Tells attached required := by
  unfold verify at h
  obtain ⟨t, ht, hsums⟩ | ⟨hnone, mint, large⟩ := Totals.ofFunds?_sums attached
  · obtain ⟨u, hu, hsums'⟩ | ⟨hnone, mint, large⟩ := Totals.ofFunds?_sums required
    · rw [ht, hu] at h
      dsimp only at h
      split at h
      · cases h
      · rename_i hne
        cases h
        obtain ⟨mint, other⟩ := not_forall.1 fun same => hne (hsums.unique hsums' same)
        exact .mismatch hsums hsums' other
    · rw [ht, hnone] at h
      cases h
      exact .required large
  · rw [hnone] at h
    cases h
    exact .attached large

/-- Funds match exactly where, for every mint, the sums are the same amount. -/
theorem verify_eq_ok : verify attached required = .ok () ↔
    ∀ mint, sumOf mint attached = sumOf mint required ∧ sumOf mint attached < UInt64.size := by
  constructor
  · intro h mint
    unfold verify at h
    obtain ⟨t, ht, hsums⟩ | ⟨hnone, -⟩ := Totals.ofFunds?_sums attached
    · obtain ⟨u, hu, hsums'⟩ | ⟨hnone, -⟩ := Totals.ofFunds?_sums required
      · rw [ht, hu] at h
        dsimp only at h
        split at h
        · rename_i same
          subst same
          exact ⟨(hsums.toNat_ofMint mint).symm.trans (hsums'.toNat_ofMint mint), hsums.lt_size⟩
        · cases h
      · rw [ht, hnone] at h
        cases h
    · rw [hnone] at h
      cases h
  · intro h
    cases hverify : verify attached required with
    | ok => rfl
    | error cause =>
      cases tells_of_verify hverify with
      | @attached mint large => exact absurd (h mint).2 (Nat.not_lt.2 large)
      | @required mint large => exact absurd ((h mint).1 ▸ (h mint).2) (Nat.not_lt.2 large)
      | @mismatch _ _ mint _ _ other => exact absurd (h mint).1 other

/-! ## The same funds in other entries -/

/-- Lists of the same funds: in another order, with the funds of a mint split over other entries, or
with entries of zero in between. -/
inductive Regroups : List Funds → List Funds → Prop where
  | perm {funds more : List Funds} (same : funds.Perm more) : Regroups funds more
  | split {mint : Address} {part other whole : UInt64} {rest : List Funds}
      (sum : part.toNat + other.toNat = whole.toNat) :
      Regroups (⟨mint, whole⟩ :: rest) (⟨mint, part⟩ :: ⟨mint, other⟩ :: rest)
  | zero {mint : Address} {rest : List Funds} : Regroups rest (⟨mint, 0⟩ :: rest)
  | symm {funds more : List Funds} (same : Regroups funds more) : Regroups more funds
  | trans {funds more others : List Funds} (same : Regroups funds more)
      (same' : Regroups more others) : Regroups funds others

theorem Regroups.sumOf_eq {funds more : List Funds} (same : Regroups funds more) (mint : Address) :
    sumOf mint funds = sumOf mint more := by
  induction same with
  | perm same => exact ((same.filter _).map _).sum_eq
  | @split m part other whole rest sum =>
    simp only [sumOf_cons, ← sum]
    split <;> omega
  | zero => simp
  | symm _ ih => exact ih.symm
  | trans _ _ ih ih' => exact ih.trans ih'

end Funds

theorem Totals.ofFunds?_congr {funds more : List Funds}
    (same : ∀ mint, Funds.sumOf mint funds = Funds.sumOf mint more) :
    ofFunds? funds = ofFunds? more := by
  obtain ⟨t, ht, hsums⟩ | ⟨hnone, mint, large⟩ := ofFunds?_sums funds
  · obtain ⟨u, hu, hsums'⟩ | ⟨-, mint, large⟩ := ofFunds?_sums more
    · rw [ht, hu, hsums.unique hsums' same]
    · exact absurd (same mint ▸ hsums.lt_size) (Nat.not_lt.2 large)
  · obtain ⟨u, -, hsums'⟩ | ⟨hnone', -⟩ := ofFunds?_sums more
    · exact absurd (same mint ▸ hsums'.lt_size) (Nat.not_lt.2 large)
    · rw [hnone, hnone']

namespace Funds

variable {attached required attached' required' : List Funds}

theorem verify_regrouped (same : Regroups attached attached')
    (same' : Regroups required required') :
    verify attached' required' = verify attached required := by
  unfold verify
  rw [Totals.ofFunds?_congr same.sumOf_eq, Totals.ofFunds?_congr same'.sumOf_eq]

/-- Funds match exactly where, for every mint, what is attached and what is required come to the
same amount. How either is spread over entries makes no difference to the result: neither to whether
they match, nor to what an error says. -/
theorem verify_exact (attached required : List Funds) :
    (verify attached required = .ok () ↔
      ∀ mint, sumOf mint attached = sumOf mint required ∧ sumOf mint attached < UInt64.size) ∧
    ∀ attached' required', Regroups attached attached' → Regroups required required' →
      verify attached' required' = verify attached required :=
  ⟨verify_eq_ok, fun _ _ => verify_regrouped⟩

/-- An amount that is one short is told in the same words when it is split over two entries, with an
entry of zero between them. -/
theorem verify_exact_sample :
    let mint : Address := ⟨Bytes.ofNat 32 70, by simp⟩
    Regroups [⟨mint, 5⟩] [⟨mint, 2⟩, ⟨Address.zero, 0⟩, ⟨mint, 3⟩] ∧
      verify [⟨mint, 5⟩] [⟨mint, 6⟩] ≠ .ok () ∧
      verify [⟨mint, 2⟩, ⟨Address.zero, 0⟩, ⟨mint, 3⟩] [⟨mint, 6⟩] =
        verify [⟨mint, 5⟩] [⟨mint, 6⟩] := by
  intro mint
  have split : Regroups [⟨mint, 5⟩] [⟨mint, 2⟩, ⟨mint, 3⟩] := .split rfl
  have filled : Regroups [⟨mint, 2⟩, ⟨mint, 3⟩] [⟨Address.zero, 0⟩, ⟨mint, 2⟩, ⟨mint, 3⟩] := .zero
  have same : Regroups [⟨mint, 5⟩] [⟨mint, 2⟩, ⟨Address.zero, 0⟩, ⟨mint, 3⟩] :=
    (split.trans filled).trans (.perm (.swap _ _ _))
  exact ⟨same, by decide,
    (verify_exact [⟨mint, 5⟩] [⟨mint, 6⟩]).2 _ _ same (.perm (.refl _))⟩

end Funds

end CustodyBridge
