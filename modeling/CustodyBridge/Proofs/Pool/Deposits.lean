import CustodyBridge.Proofs.Pool.Provision

/-!
# Deposits

A deposit adds to the debt of a position what the whole ratio comes to for it, and the debt has to
be an amount. So besides the sums that the caller can see, the lifetime of fees decides: where the
ratio has grown far, a position is full long before the pool is. A debt is bounded by the amount of
its position and the ratio, whatever was added, removed and withdrawn before.
-/

namespace CustodyBridge

/-! ## One deposit -/

namespace Pool

/-- A position takes a deposit: what it then holds and owes are amounts. -/
structure Admits (p : Pool) (x : Position) (amount : UInt64) : Prop where
  held : x.amount.toNat + amount.toNat < UInt64.size
  debt : x.debt.toNat + amount.toNat * p.ratio.toNat / scale < UInt64.size

instance (p : Pool) (x : Position) (amount : UInt64) : Decidable (p.Admits x amount) :=
  decidable_of_iff (_ ∧ _) ⟨fun h => ⟨h.1, h.2⟩, fun h => ⟨h.held, h.debt⟩⟩

variable {p q : Pool} {x y : Position} {amount : UInt64}

theorem admits_of_addLiquidity (h : p.addLiquidity x amount = .ok (q, y)) : p.Admits x amount := by
  obtain ⟨held, hheld, accrued, haccrued, debt, hdebt, -⟩ := addLiquidity_eq_ok.1 h
  constructor
  case held => exact hheld ▸ held.toNat_lt
  case debt => exact haccrued ▸ hdebt ▸ debt.toNat_lt

section room

variable (balance : p.balance.toNat + amount.toNat < UInt64.size)
  (liquidity : p.liquidity.toNat + amount.toNat < UInt64.size)

include balance liquidity

theorem overflow_of_addLiquidity {e : BridgeError} (h : p.addLiquidity x amount = .error e) :
    e = .amountOverflow ∧ ¬ p.Admits x amount := by
  simp [addLiquidity, Nat.not_le.2 balance, Nat.not_le.2 liquidity] at h
  obtain ⟨large, rfl⟩ | ⟨-, ⟨large, rfl⟩ | ⟨accrued, haccrued, large, rfl⟩⟩ := h
  · exact ⟨rfl, fun admits => absurd admits.held (Nat.not_lt.2 large)⟩
  · refine ⟨rfl, fun admits => absurd admits.debt (Nat.not_lt.2 ?_)⟩
    exact Nat.le_trans large (Nat.le_add_left _ _)
  · rw [← haccrued] at large
    exact ⟨rfl, fun admits => absurd admits.debt (Nat.not_lt.2 large)⟩

theorem exists_addLiquidity (admits : p.Admits x amount) :
    ∃ q y, p.addLiquidity x amount = .ok (q, y) := by
  cases h : p.addLiquidity x amount with
  | ok r => exact ⟨r.1, r.2, rfl⟩
  | error e => exact absurd admits (overflow_of_addLiquidity balance liquidity h).2
  | panic cause => exact absurd h (addLiquidity_ne_panic p x amount cause)

theorem addLiquidity_eq_overflow (refused : ¬ p.Admits x amount) :
    p.addLiquidity x amount = .error .amountOverflow := by
  cases h : p.addLiquidity x amount with
  | ok r => exact absurd (admits_of_addLiquidity h) refused
  | error e => rw [(overflow_of_addLiquidity balance liquidity h).1]
  | panic cause => exact absurd h (addLiquidity_ne_panic p x amount cause)

end room

end Pool

/-! ## Debts -/

namespace Position

/-- A position owes no more than a whole number for each unit of its amount. -/
def OwesWithin (x : Position) (k : Nat) : Prop := x.debt.toNat ≤ x.amount.toNat * k

variable {x y : Position} {p q : Pool} {amount : UInt64} {k : Nat}

theorem accrued_le (hratio : p.ratio.toNat ≤ k * Pool.scale) (n : Nat) :
    n * p.ratio.toNat / Pool.scale ≤ n * k := by
  refine Nat.div_le_of_le_mul ?_
  calc n * p.ratio.toNat ≤ n * (k * Pool.scale) := Nat.mul_le_mul_left _ hratio
    _ = Pool.scale * (n * k) := by rw [← Nat.mul_assoc, Nat.mul_comm]

theorem owesWithin_opened (mint provider : Address) (k : Nat) :
    (opened mint provider).OwesWithin k := Nat.zero_le _

theorem OwesWithin.add (h : x.OwesWithin k) (hratio : p.ratio.toNat ≤ k * Pool.scale)
    (hadd : p.addLiquidity x amount = .ok (q, y)) : y.OwesWithin k := by
  obtain ⟨held, hheld, accrued, haccrued, debt, hdebt, _, -, _, -, -, rfl⟩ :=
    Pool.addLiquidity_eq_ok.1 hadd
  have hless := accrued_le hratio amount.toNat
  simp only [OwesWithin, ← hheld, ← hdebt, ← haccrued, Nat.add_mul] at h ⊢
  omega

theorem OwesWithin.remove (h : x.OwesWithin k)
    (hremove : p.removeLiquidity x amount = .ok (q, y)) : y.OwesWithin k := by
  obtain ⟨hle, -, _, -, _, -, debt, hdebt, held, hheld, _, -, -, rfl⟩ :=
    Pool.removeLiquidity_eq_ok.1 hremove
  have hkept := keptDebt_le (UInt64.le_iff_toNat_le.1 hle) h
  rw [toNat_partDebt hle] at hdebt
  have hheld' : held.toNat = x.amount.toNat - amount.toNat := by omega
  simp only [OwesWithin, hheld']
  omega

theorem OwesWithin.withdraw (hratio : p.ratio.toNat ≤ k * Pool.scale)
    (hwithdraw : p.withdrawReward x amount = .ok (q, y)) : y.OwesWithin k := by
  obtain ⟨_, -, -, -, _, -, debt, hdebt, _, -, -, rfl⟩ := Pool.withdrawReward_eq_ok.1 hwithdraw
  simp only [OwesWithin, ← hdebt]
  exact accrued_le hratio x.amount.toNat

end Position

/-! ## Books -/

namespace Book

variable {b b' : Book} {moves : List Movement} {move : Movement} {account provider : Address}
  {k : Nat}

theorem Step.ratio_le (h : b.Step move b') : b.pool.ratio.toNat ≤ b'.pool.ratio.toNat := by
  cases h with
  | lock locked => rw [← Pool.eq_of_lock locked]
  | release released => exact Pool.ratio_le_of_release released
  | setFeeRate => exact Nat.le_refl _
  | add _ added => rw [← Pool.eq_of_addLiquidity added]
  | remove _ _ removed => rw [← Pool.eq_of_removeLiquidity removed]
  | withdraw _ _ withdrawn => rw [← Pool.eq_of_withdrawReward withdrawn]

/-- While the ratio is at most a whole number, every position owes no more than that for each unit
of its amount. -/
def OwesWithin (b : Book) (k : Nat) : Prop :=
  b.pool.ratio.toNat ≤ k * Pool.scale →
    ∀ a x, b.positions.get? a = some x → x.OwesWithin k

theorem owesWithin_insert {y : Position} {pool : Pool} (hy : y.OwesWithin k)
    (h : ∀ a x, b.positions.get? a = some x → x.OwesWithin k) :
    ∀ a x, (⟨pool, b.positions.insert account y⟩ : Book).positions.get? a = some x →
      x.OwesWithin k := by
  intro a x hx
  rw [SortedMap.get?_insert] at hx
  split at hx
  · cases hx
    exact hy
  · exact h a x hx

theorem OwesWithin.position (h : ∀ a x, b.positions.get? a = some x → x.OwesWithin k)
    (account provider : Address) : (b.position account provider).OwesWithin k := by
  unfold Book.position
  cases hget : b.positions.get? account with
  | none => exact Position.owesWithin_opened _ _ k
  | some x => exact h account x hget

theorem OwesWithin.step (h : b.OwesWithin k) (hstep : b.Step move b') : b'.OwesWithin k := by
  intro hafter
  -- The ratio only grows, so the bound held before the step too.
  have hratio := Nat.le_trans hstep.ratio_le hafter
  have hold := h hratio
  cases hstep with
  | lock | release | setFeeRate => exact hold
  | add _ added => exact owesWithin_insert ((OwesWithin.position hold _ _).add hratio added) hold
  | remove _ found removed => exact owesWithin_insert ((hold _ _ found).remove removed) hold
  | withdraw _ _ withdrawn =>
    exact owesWithin_insert (Position.OwesWithin.withdraw hratio withdrawn) hold

theorem Balanced.position_amount_le (h : b.Balanced moves) (account provider : Address) :
    (b.position account provider).amount.toNat ≤ b.pool.liquidity.toNat := by
  unfold Book.position
  cases hget : b.positions.get? account with
  | none => exact Nat.zero_le _
  | some x => exact h.amount_le hget

theorem Reached.owesWithin {mint authority : Address} (h : Reached mint authority moves b)
    (k : Nat) : b.OwesWithin k := by
  induction h with
  | opened => exact fun _ => nofun
  | step _ hstep ih => exact ih.step hstep

end Book

/-- While the ratio is at most a whole number, a position of a pool takes each deposit that the
liquidity takes, if what the position then holds comes to an amount at that number. -/
theorem Book.Reached.admits {mint authority account provider : Address} {moves : List Movement}
    {b : Book} {amount : UInt64} {k : Nat} (h : Reached mint authority moves b)
    (liquidity : b.pool.liquidity.toNat + amount.toNat < UInt64.size)
    (hratio : b.pool.ratio.toNat ≤ k * Pool.scale)
    (fits : ((b.position account provider).amount.toNat + amount.toNat) * k < UInt64.size) :
    b.pool.Admits (b.position account provider) amount := by
  have howes := OwesWithin.position (h.owesWithin k hratio) account provider
  have hless := Position.accrued_le hratio amount.toNat
  constructor
  case held =>
    have hle := h.balanced.position_amount_le account provider
    omega
  case debt =>
    rw [Position.OwesWithin] at howes
    rw [Nat.add_mul] at fits
    omega

end CustodyBridge
