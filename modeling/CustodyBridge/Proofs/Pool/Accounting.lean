import CustodyBridge.Proofs.Pool.Book

/-!
# Accounting

A pool's figures are the sums of its movements, and every position holds what its provider added
and has not taken back.
-/

namespace CustodyBridge

open Movement

/-! ## What is counted -/

/-- A pool's figures are those of its movements. -/
structure Pool.Counts (p : Pool) (moves : List Movement) : Prop where
  balance : p.balance.toNat + total paidOut moves + total removed moves + total withdrawn moves =
    total locked moves + total added moves
  liquidity : p.liquidity.toNat + total removed moves = total added moves
  totalLocked : p.totalLocked.toNat = Amount.cap (total locked moves)
  totalReleased : p.totalReleased.toNat = Amount.cap (total released moves)
  totalEarns : p.totalEarns.toNat = Amount.cap (total sharedFee moves)

/-- A position's figures are those of its provider's movements. -/
structure Position.Counts (x : Position) (moves : List Movement) : Prop where
  amount : x.amount.toNat + total (ofProvider x.provider removed) moves =
    total (ofProvider x.provider added) moves
  earns : x.earns.toNat = Amount.cap (total (ofProvider x.provider withdrawn) moves)

/-- A book's figures are those of its movements, and its liquidity is that of its positions. -/
structure Book.Balanced (b : Book) (moves : List Movement) : Prop where
  pool : b.pool.Counts moves
  amounts : b.positions.total (·.amount.toNat) = b.pool.liquidity.toNat
  position : ∀ a x, b.positions.get? a = some x → x.Counts moves
  providers : ∀ move ∈ moves, ∀ provider, move.provider? = some provider →
    ∃ a x, b.positions.get? a = some x ∧ x.provider = provider

/-! ## Pools -/

namespace Pool

variable {p q : Pool} {moves : List Movement} {amount : UInt64}

theorem totalEarns_of_distribute {fee : UInt64} (h : p.distribute fee = .ok q) :
    q.totalEarns.toNat =
      Amount.cap (p.totalEarns.toNat + if p.liquidity = 0 then 0 else fee.toNat) := by
  rw [distribute_eq_ok] at h
  split at h
  · rename_i hnone
    subst h
    rcases hnone with hfee | hliquidity
    · simp [hfee, Amount.cap_toNat]
    · simp [hliquidity, Amount.cap_toNat]
  · rename_i hsome
    obtain ⟨-, rfl⟩ := h
    rw [not_or] at hsome
    rw [if_neg hsome.2]
    exact Amount.cap_addCapped _ _

theorem counts_opened (mint authority : Address) : (opened mint authority).Counts [] :=
  ⟨rfl, rfl, rfl, rfl, rfl⟩

theorem Counts.move {move : Movement} (h : p.Counts moves)
    (hbalance : q.balance.toNat + paidOut move + removed move + withdrawn move =
      p.balance.toNat + locked move + added move)
    (hliquidity : q.liquidity.toNat + removed move = p.liquidity.toNat + added move)
    (hlocked : q.totalLocked.toNat = Amount.cap (p.totalLocked.toNat + locked move))
    (hreleased : q.totalReleased.toNat = Amount.cap (p.totalReleased.toNat + released move))
    (hearns : q.totalEarns.toNat = Amount.cap (p.totalEarns.toNat + sharedFee move)) :
    q.Counts (moves ++ [move]) := by
  have hpool := h.balance
  have hadded := h.liquidity
  constructor <;> simp only [total_append, total_singleton]
  · omega
  · omega
  · rw [hlocked, h.totalLocked, Amount.cap_cap_add]
  · rw [hreleased, h.totalReleased, Amount.cap_cap_add]
  · rw [hearns, h.totalEarns, Amount.cap_cap_add]

theorem Counts.lock (h : p.Counts moves) (hlock : p.lock amount = .ok q) :
    q.Counts (moves ++ [.lock amount]) := by
  obtain ⟨balance, hbalance, rfl⟩ := lock_eq_ok.1 hlock
  exact h.move hbalance.symm rfl (Amount.cap_addCapped _ _) (Amount.cap_toNat _).symm
    (Amount.cap_toNat _).symm

theorem Counts.release {r : Release} (h : p.Counts moves)
    (hrelease : p.release amount = .ok (q, r)) :
    q.Counts (moves ++ [.release r (p.liquidity ≠ 0)]) := by
  obtain ⟨payout, hpayout, -, balance, hbalance, hdistribute, rfl⟩ := release_eq_ok.1 hrelease
  have hearns := totalEarns_of_distribute hdistribute
  rw [← eq_of_distribute hdistribute]
  refine h.move hbalance rfl (Amount.cap_toNat _).symm ?_ ?_
  · rw [Amount.cap_addCapped, released, hpayout]
  · rw [hearns]
    by_cases hliquidity : p.liquidity = 0 <;> simp [hliquidity, sharedFee]

theorem Counts.setFeeRate {rate : UInt64} (h : p.Counts moves) :
    ({ p with feeRate := rate } : Pool).Counts (moves ++ [.setFeeRate rate]) :=
  h.move rfl rfl (Amount.cap_toNat _).symm (Amount.cap_toNat _).symm (Amount.cap_toNat _).symm

theorem Counts.add {x y : Position} {provider : Address} (h : p.Counts moves)
    (hadd : p.addLiquidity x amount = .ok (q, y)) :
    q.Counts (moves ++ [.add provider amount]) := by
  obtain ⟨held, -, accrued, -, debt, -, balance, hbalance, liquidity, hliquidity, rfl, -⟩ :=
    addLiquidity_eq_ok.1 hadd
  exact h.move hbalance.symm hliquidity.symm (Amount.cap_toNat _).symm (Amount.cap_toNat _).symm
    (Amount.cap_toNat _).symm

/-- A removal takes from the liquidity what it takes from a position, if the liquidity covers it. -/
theorem Counts.remove {x y : Position} {provider : Address} (h : p.Counts moves)
    (hcover : x.amount.toNat ≤ p.liquidity.toNat)
    (hremove : p.removeLiquidity x amount = .ok (q, y)) :
    q.Counts (moves ++ [.remove provider amount]) := by
  obtain ⟨-, -, earned, -, remaining, -, debt, -, held, hheld, balance, hbalance, rfl, -⟩ :=
    removeLiquidity_eq_ok.1 hremove
  refine h.move hbalance ?_ (Amount.cap_toNat _).symm (Amount.cap_toNat _).symm
    (Amount.cap_toNat _).symm
  simp only [Amount.toNat_subCapped, removed, added]
  omega

theorem Counts.withdraw {x y : Position} {provider : Address} (h : p.Counts moves)
    (hwithdraw : p.withdrawReward x amount = .ok (q, y)) :
    q.Counts (moves ++ [.withdraw provider amount]) := by
  obtain ⟨reward, -, -, -, balance, hbalance, debt, -, remaining, -, rfl, -⟩ :=
    withdrawReward_eq_ok.1 hwithdraw
  exact h.move hbalance rfl (Amount.cap_toNat _).symm (Amount.cap_toNat _).symm
    (Amount.cap_toNat _).symm

end Pool

/-! ## Positions -/

namespace Movement

theorem total_ofProvider_eq_zero {moves : List Movement} {provider : Address}
    {f : Movement → Nat} (h : ∀ move ∈ moves, move.provider? ≠ some provider) :
    total (ofProvider provider f) moves = 0 := by
  refine List.sum_eq_zero fun n hn => ?_
  obtain ⟨move, hmove, rfl⟩ := List.mem_map.1 hn
  exact if_neg (h move hmove)

end Movement

namespace Position

variable {x y : Position} {p q : Pool} {moves : List Movement} {amount : UInt64}

theorem counts_opened {mint provider : Address}
    (h : ∀ move ∈ moves, move.provider? ≠ some provider) :
    (opened mint provider).Counts moves := by
  constructor <;> simp [opened, total_ofProvider_eq_zero h, Amount.cap]

theorem Counts.other {move : Movement} (h : x.Counts moves)
    (hne : move.provider? ≠ some x.provider) : x.Counts (moves ++ [move]) := by
  constructor <;> simp only [total_append, total_singleton, ofProvider, if_neg hne, Nat.add_zero]
  · exact h.amount
  · exact h.earns

theorem Counts.move {move : Movement} (h : x.Counts moves)
    (hmove : move.provider? = some x.provider) (hprovider : y.provider = x.provider)
    (hamount : y.amount.toNat + removed move = x.amount.toNat + added move)
    (hearns : y.earns.toNat = Amount.cap (x.earns.toNat + withdrawn move)) :
    y.Counts (moves ++ [move]) := by
  have hheld := h.amount
  constructor <;> simp only [total_append, total_singleton, hprovider, ofProvider, if_pos hmove]
  · omega
  · rw [hearns, h.earns, Amount.cap_cap_add]

theorem Counts.add (h : x.Counts moves) (hadd : p.addLiquidity x amount = .ok (q, y)) :
    y.Counts (moves ++ [.add x.provider amount]) := by
  obtain ⟨held, hheld, accrued, -, debt, -, balance, -, liquidity, -, -, rfl⟩ :=
    Pool.addLiquidity_eq_ok.1 hadd
  exact h.move rfl rfl hheld.symm (Amount.cap_toNat _).symm

theorem Counts.remove (h : x.Counts moves) (hremove : p.removeLiquidity x amount = .ok (q, y)) :
    y.Counts (moves ++ [.remove x.provider amount]) := by
  obtain ⟨-, -, earned, -, remaining, -, debt, -, held, hheld, balance, -, -, rfl⟩ :=
    Pool.removeLiquidity_eq_ok.1 hremove
  exact h.move rfl rfl hheld (Amount.cap_toNat _).symm

theorem Counts.withdraw (h : x.Counts moves)
    (hwithdraw : p.withdrawReward x amount = .ok (q, y)) :
    y.Counts (moves ++ [.withdraw x.provider amount]) := by
  obtain ⟨reward, -, -, -, balance, -, debt, -, remaining, -, -, rfl⟩ :=
    Pool.withdrawReward_eq_ok.1 hwithdraw
  exact h.move rfl rfl rfl (Amount.cap_addCapped _ _)

end Position

/-! ## Books -/

namespace Book

variable {b b' : Book} {moves : List Movement} {move : Movement} {account provider : Address}

theorem balanced_opened (mint authority : Address) : (opened mint authority).Balanced [] :=
  ⟨Pool.counts_opened mint authority, rfl, nofun, nofun⟩

theorem Balanced.counts_position (h : b.Balanced moves) (owns : b.Owns account provider) :
    (b.position account provider).Counts moves := by
  cases hget : b.positions.get? account with
  | some x =>
    rw [position_of_get? hget]
    exact h.position account x hget
  | none =>
    rw [Book.position, hget]
    refine Position.counts_opened fun move hmove hprovider => ?_
    obtain ⟨a, x, hx, hx'⟩ := h.providers move hmove provider hprovider
    rw [(owns a x hx).2 hx', hget] at hx
    cases hx

theorem Balanced.amount_le (h : b.Balanced moves) {x : Position}
    (hx : b.positions.get? account = some x) : x.amount.toNat ≤ b.pool.liquidity.toNat :=
  h.amounts ▸ SortedMap.le_total hx (·.amount.toNat)

theorem Balanced.custody (h : b.Balanced moves) {pool : Pool} (hmove : move.provider? = none)
    (hpool : pool.Counts (moves ++ [move])) (hliquidity : pool.liquidity = b.pool.liquidity) :
    Balanced { b with pool } (moves ++ [move]) := by
  refine ⟨hpool, hliquidity ▸ h.amounts, fun a x hx => (h.position a x hx).other ?_, ?_⟩
  · rw [hmove]
    nofun
  · intro m hm q hq
    rcases List.mem_append.1 hm with hm | hm
    · exact h.providers m hm q hq
    · rw [List.mem_singleton.1 hm, hmove] at hq
      cases hq

theorem Balanced.provision (h : b.Balanced moves) (owns : b.Owns account provider) {pool : Pool}
    {y : Position} (hmove : move.provider? = some provider) (hy : y.provider = provider)
    (hpool : pool.Counts (moves ++ [move])) (hcounts : y.Counts (moves ++ [move]))
    (hamount : y.amount.toNat + b.pool.liquidity.toNat =
      (b.position account provider).amount.toNat + pool.liquidity.toNat) :
    Balanced ⟨pool, b.positions.insert account y⟩ (moves ++ [move]) := by
  refine ⟨hpool, ?_, ?_, ?_⟩
  · -- The sum of the amounts changes by what the position does, and so does the liquidity.
    have hsum := SortedMap.total_insert b.positions account y (·.amount.toNat)
    have hold : ((b.positions.get? account).map (·.amount.toNat)).getD 0 =
        (b.position account provider).amount.toNat := by
      unfold Book.position
      cases b.positions.get? account <;> rfl
    have hamounts := h.amounts
    dsimp only
    omega
  · intro a x hx
    rw [SortedMap.get?_insert] at hx
    split at hx
    · cases hx
      exact hcounts
    · rename_i hne
      refine (h.position a x hx).other fun hx' => owns.provider_ne hx hne ?_
      exact (Option.some.inj (hmove.symm.trans hx')).symm
  · intro m hm q hq
    rcases List.mem_append.1 hm with hm | hm
    · obtain ⟨a, x, hx, rfl⟩ := h.providers m hm q hq
      by_cases ha : account = a
      · subst ha
        exact ⟨account, y, SortedMap.get?_insert_self _ _ _, hy.trans ((owns _ _ hx).1 rfl).symm⟩
      · exact ⟨a, x, by rw [SortedMap.get?_insert_of_ne _ _ ha, hx], rfl⟩
    · rw [List.mem_singleton.1 hm, hmove] at hq
      exact ⟨account, y, SortedMap.get?_insert_self _ _ _, hy.trans (Option.some.inj hq)⟩

theorem Balanced.step (h : b.Balanced moves) (hstep : b.Step move b') :
    b'.Balanced (moves ++ [move]) := by
  cases hstep with
  | lock locked =>
    refine h.custody rfl (h.pool.lock locked) ?_
    obtain ⟨_, -, rfl⟩ := Pool.lock_eq_ok.1 locked
    rfl
  | release released =>
    refine h.custody rfl (h.pool.release released) ?_
    obtain ⟨_, -, -, _, -, hdistribute, -⟩ := Pool.release_eq_ok.1 released
    rw [← Pool.eq_of_distribute hdistribute]
  | setFeeRate => exact h.custody rfl h.pool.setFeeRate rfl
  | @add account provider amount pool y owns added =>
    have hold := provider_position owns
    have hcounts := (h.counts_position owns).add added
    rw [hold] at hcounts
    obtain ⟨held, hheld, _, -, _, -, _, -, liquidity, hliquidity, hpool, hy⟩ :=
      Pool.addLiquidity_eq_ok.1 added
    refine h.provision owns rfl (by rw [← hy, hold]) (h.pool.add added) hcounts ?_
    simp only [← hpool, ← hy]
    omega
  | @remove account provider amount pool old y owns found removed =>
    have hold := provider_position owns
    rw [position_of_get? found] at hold
    -- The position is part of the liquidity, so the capped subtraction from it is exact.
    have hcover := h.amount_le found
    have hcounts := (h.position account old found).remove removed
    rw [hold] at hcounts
    obtain ⟨-, -, _, -, _, -, _, -, held, hheld, _, -, hpool, hy⟩ :=
      Pool.removeLiquidity_eq_ok.1 removed
    refine h.provision owns rfl (by rw [← hy, hold]) (h.pool.remove hcover removed) hcounts ?_
    rw [position_of_get? found]
    simp only [← hpool, ← hy, Amount.toNat_subCapped]
    omega
  | @withdraw account provider amount pool old y owns found withdrawn =>
    have hold := provider_position owns
    rw [position_of_get? found] at hold
    have hcounts := (h.position account old found).withdraw withdrawn
    rw [hold] at hcounts
    obtain ⟨_, -, -, -, _, -, _, -, _, -, hpool, hy⟩ := Pool.withdrawReward_eq_ok.1 withdrawn
    refine h.provision owns rfl (by rw [← hy, hold]) (h.pool.withdraw withdrawn) hcounts ?_
    rw [position_of_get? found]
    simp only [← hpool, ← hy]

theorem Reached.balanced {mint authority : Address} (h : Reached mint authority moves b) :
    b.Balanced moves := by
  induction h with
  | opened => exact balanced_opened mint authority
  | step _ hstep ih => exact ih.step hstep

end Book

end CustodyBridge
