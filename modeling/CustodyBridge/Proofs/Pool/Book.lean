import CustodyBridge.Proofs.Pool.Operations
import CustodyBridge.Proofs.SortedMap.Total

/-!
# The book of a pool

A pool with its positions, and the movements that change them. What holds of a book after any
movements is proved here and in the modules that build on this one, apart from the ledger.
-/

namespace CustodyBridge

/-! ## Movements -/

/-- What a successful call does to one pool. -/
inductive Movement where
  | lock (amount : UInt64)
  /-- A release is shared if the pool had liquidity to spread its fee over. -/
  | release (release : Pool.Release) (shared : Bool)
  | setFeeRate (rate : UInt64)
  | add (provider : Address) (amount : UInt64)
  | remove (provider : Address) (amount : UInt64)
  | withdraw (provider : Address) (amount : UInt64)

namespace Movement

def locked : Movement → Nat
  | lock amount => amount.toNat
  | _ => 0

def paidOut : Movement → Nat
  | release r _ => r.payout.toNat
  | _ => 0

def released : Movement → Nat
  | release r _ => r.payout.toNat + r.fee.toNat
  | _ => 0

/-- The fee of a release that was spread over liquidity. -/
def sharedFee : Movement → Nat
  | release r true => r.fee.toNat
  | _ => 0

def added : Movement → Nat
  | add _ amount => amount.toNat
  | _ => 0

def removed : Movement → Nat
  | remove _ amount => amount.toNat
  | _ => 0

def withdrawn : Movement → Nat
  | withdraw _ amount => amount.toNat
  | _ => 0

/-! ## By provider -/

def provider? : Movement → Option Address
  | add provider _ | remove provider _ | withdraw provider _ => some provider
  | _ => none

def ofProvider (provider : Address) (f : Movement → Nat) (move : Movement) : Nat :=
  if move.provider? = some provider then f move else 0

/-! ## Sums -/

def total (f : Movement → Nat) (moves : List Movement) : Nat := (moves.map f).sum

@[simp] theorem total_nil (f : Movement → Nat) : total f [] = 0 := rfl

@[simp] theorem total_append (f : Movement → Nat) (moves more : List Movement) :
    total f (moves ++ more) = total f moves + total f more := by
  simp [total]

@[simp] theorem total_singleton (f : Movement → Nat) (move : Movement) :
    total f [move] = f move := by
  simp [total]

end Movement

/-! ## Books -/

structure Book where
  pool : Pool
  positions : SortedMap Address Position

namespace Book

def opened (mint authority : Address) : Book := ⟨Pool.opened mint authority, SortedMap.empty⟩

/-- An account is the provider's: it holds no other position, and no other holds one of his. -/
def Owns (b : Book) (account provider : Address) : Prop :=
  ∀ a x, b.positions.get? a = some x → (a = account ↔ x.provider = provider)

def position (b : Book) (account provider : Address) : Position :=
  (b.positions.get? account).getD (Position.opened b.pool.mint provider)

inductive Step : Book → Movement → Book → Prop where
  | lock {b : Book} {amount : UInt64} {pool : Pool} (locked : b.pool.lock amount = .ok pool) :
      Step b (.lock amount) { b with pool }
  | release {b : Book} {amount : UInt64} {pool : Pool} {r : Pool.Release}
      (released : b.pool.release amount = .ok (pool, r)) :
      Step b (.release r (b.pool.liquidity ≠ 0)) { b with pool }
  | setFeeRate {b : Book} {rate : UInt64} (rate_le : rate ≤ Pool.feeRateUnit) :
      Step b (.setFeeRate rate) { b with pool := { b.pool with feeRate := rate } }
  | add {b : Book} {account provider : Address} {amount : UInt64} {pool : Pool} {x : Position}
      (owns : b.Owns account provider)
      (added : b.pool.addLiquidity (b.position account provider) amount = .ok (pool, x)) :
      Step b (.add provider amount) ⟨pool, b.positions.insert account x⟩
  | remove {b : Book} {account provider : Address} {amount : UInt64} {pool : Pool}
      {old x : Position} (owns : b.Owns account provider)
      (found : b.positions.get? account = some old)
      (removed : b.pool.removeLiquidity old amount = .ok (pool, x)) :
      Step b (.remove provider amount) ⟨pool, b.positions.insert account x⟩
  | withdraw {b : Book} {account provider : Address} {amount : UInt64} {pool : Pool}
      {old x : Position} (owns : b.Owns account provider)
      (found : b.positions.get? account = some old)
      (withdrawn : b.pool.withdrawReward old amount = .ok (pool, x)) :
      Step b (.withdraw provider amount) ⟨pool, b.positions.insert account x⟩

/-- The books that movements lead to from a new pool. -/
inductive Reached (mint authority : Address) : List Movement → Book → Prop where
  | opened : Reached mint authority [] (opened mint authority)
  | step {moves : List Movement} {move : Movement} {b b' : Book}
      (reached : Reached mint authority moves b) (step : b.Step move b') :
      Reached mint authority (moves ++ [move]) b'

theorem Step.mint_eq {b b' : Book} {move : Movement} (h : b.Step move b') :
    b'.pool.mint = b.pool.mint := by
  cases h with
  | lock locked => rw [← Pool.eq_of_lock locked]
  | release released => rw [← Pool.eq_of_release released]
  | setFeeRate => rfl
  | add _ added => rw [← Pool.eq_of_addLiquidity added]
  | remove _ _ removed => rw [← Pool.eq_of_removeLiquidity removed]
  | withdraw _ _ withdrawn => rw [← Pool.eq_of_withdrawReward withdrawn]

/-! ## Positions of providers -/

variable {b b' : Book} {account provider : Address}

theorem provider_position (owns : b.Owns account provider) :
    (b.position account provider).provider = provider := by
  unfold position
  cases h : b.positions.get? account with
  | none => rfl
  | some x => exact (owns account x h).1 rfl

theorem position_of_get? {x : Position} (h : b.positions.get? account = some x) :
    b.position account provider = x := by
  rw [position, h, Option.getD_some]

theorem Owns.provider_ne (owns : b.Owns account provider) {a : Address} {x : Position}
    (h : b.positions.get? a = some x) (ha : account ≠ a) : x.provider ≠ provider :=
  fun hx => ha ((owns a x h).2 hx).symm

end Book

end CustodyBridge
