import CustodyBridge.Proofs.Bridge.Purposes
import CustodyBridge.Proofs.Bridge.Run
import CustodyBridge.Proofs.Pool.Book

/-!
# Movements of calls

What each call of a run does to the pool of a mint, and how it leaves the tables of pools and
positions.
-/

namespace CustodyBridge

/-! ## Movements of a run -/

/-- What a command that succeeds does to the pool of a mint, if anything. -/
def Command.movement? (sender mint : Address) (shared : Bool) : Command → Receipt → Option Movement
  | propose request, _ => if request.mint = mint then some (.lock request.amount) else none
  | releaseCustody _ _ m _ _, .custodyReleased _ _ _ _ _ release =>
    if m = mint then some (.release release shared) else none
  | setPoolFeeRate m rate, _ => if m = mint then some (.setFeeRate rate) else none
  | addLiquidity m amount, _ => if m = mint then some (.add sender amount) else none
  | removeLiquidity m amount, _ => if m = mint then some (.remove sender amount) else none
  | withdrawReward m amount, _ => if m = mint then some (.withdraw sender amount) else none
  | _, _ => none

def Call.movement? (mint : Address) (shared : Bool) : Call → Receipt → Option Movement
  | instantiate _ _, _ => none
  | propose caller request, r => (Command.propose request).movement? caller.sender mint shared r
  | execute caller command, r => command.movement? caller.sender mint shared r

def Ledger.pool? (env : Environment) (l : Ledger) (mint : Address) : Option Pool :=
  (env.address? (.pool mint)).bind (l.record? Pool ·)

def Ledger.shares (env : Environment) (l : Ledger) (mint : Address) : Bool :=
  (l.pool? env mint).any (·.liquidity ≠ 0)

namespace Step

/-- What a call of a run did to the pool of a mint. A call that failed did nothing. -/
def movement? (env : Environment) (mint : Address) (s : Step) : Option Movement :=
  s.receipt?.bind fun r => s.call.movement? mint (s.before.shares env mint) r

def movements (env : Environment) (mint : Address) (steps : List Step) : List Movement :=
  steps.filterMap (movement? env mint)

theorem movements_append_singleton (env : Environment) (mint : Address) (steps : List Step)
    (s : Step) : movements env mint (steps ++ [s]) =
      movements env mint steps ++ (s.movement? env mint).toList := by
  rw [movements, List.filterMap_append, List.filterMap_cons, List.filterMap_nil]
  cases s.movement? env mint <;> rfl

end Step

/-! ## Pools and positions after a call -/

structure Custody where
  pools : SortedMap Address Pool
  positions : SortedMap Address Position

def Ledger.custody (l : Ledger) : Custody := ⟨l.records Pool, l.records Position⟩

/-- What a call may make of the pools and positions, with what it moves in the pool of each mint. -/
inductive Custody.Turn (env : Environment) (named : List Purpose) (c : Custody) :
    Custody → (Address → Option Movement) → Prop where
  | idle : Turn env named c c fun _ => none
  | opened {mint a : Address} (account : env.address? (.pool mint) = some a)
      (missing : c.pools.get? a = none) :
      Turn env named c
        { c with pools := c.pools.insert a (Pool.opened mint env.bridgeAuthority.address) }
        fun _ => none
  | pool {mint a : Address} {p q : Pool} {move : Movement}
      (account : env.address? (.pool mint) = some a) (found : c.pools.get? a = some p)
      (pool_mint : p.mint = mint)
      (step : ∀ positions, Book.Step ⟨p, positions⟩ move ⟨q, positions⟩) :
      Turn env named c { c with pools := c.pools.insert a q }
        fun m => if mint = m then some move else none
  | position {mint a b provider : Address} {p q : Pool} {y : Position} {move : Movement}
      (account : env.address? (.pool mint) = some a)
      (position_account : env.address? (.position a provider) = some b)
      (is_named : .position a provider ∈ named) (found : c.pools.get? a = some p)
      (pool_mint : p.mint = mint)
      (step : ∀ positions, SortedMap.get? positions b = c.positions.get? b →
        Book.Owns ⟨p, positions⟩ b provider →
          Book.Step ⟨p, positions⟩ move ⟨q, positions.insert b y⟩)
      (same_pool : q.mint = p.mint)
      (same_position : (y.mint, y.provider) =
        (((c.positions.get? b).getD (.opened mint provider)).mint,
          ((c.positions.get? b).getD (.opened mint provider)).provider)) :
      Turn env named c ⟨c.pools.insert a q, c.positions.insert b y⟩
        fun m => if mint = m then some move else none

namespace Ledger

variable {env : Environment} {l l' : Ledger} {r : Receipt}

section custody

variable {a : Address}

@[simp] theorem custody_put_pool {p : Pool} :
    (l.put a p).custody = { l.custody with pools := l.custody.pools.insert a p } := by
  simp [custody]

@[simp] theorem custody_put_position {x : Position} :
    (l.put a x).custody = { l.custody with positions := l.custody.positions.insert a x } := by
  simp [custody]

@[simp] theorem custody_put {ρ : Type} [Record ρ] {r : ρ} (hp : Record.table ρ ≠ .pools)
    (hx : Record.table ρ ≠ .positions) : (l.put a r).custody = l.custody := by
  simp [custody, hp, hx]

@[simp] theorem custody_erase {ρ : Type} [Record ρ] (hp : Record.table ρ ≠ .pools)
    (hx : Record.table ρ ≠ .positions) : (l.erase ρ a).custody = l.custody := by
  simp [custody, hp, hx]

@[simp] theorem get?_pools : l.custody.pools.get? a = l.record? Pool a := get?_records

@[simp] theorem get?_positions : l.custody.positions.get? a = l.record? Position a := get?_records

end custody

theorem pool?_of_account {mint : Address} {a : Account} (h : env.account (.pool mint) = .ok a) :
    l.pool? env mint = l.record? Pool a.address := by
  rw [pool?, Environment.address?_of_account h, Option.bind_some]

theorem named_of_resolve {caller : Caller} {mint : Address} {a : LiquidityAccounts}
    (h : LiquidityAccounts.resolve env mint caller.sender = .ok a) :
    env.address? (.pool mint) = some a.pool.address ∧
      env.address? (.position a.pool.address caller.sender) = some a.position.address ∧
      Purpose.position a.pool.address caller.sender ∈ Purpose.pool mint ::
        (env.address? (.pool mint)).toList.map fun custody => .position custody caller.sender := by
  obtain ⟨hpool, hposition⟩ := LiquidityAccounts.resolve_eq_ok h
  have haddress := Environment.address?_of_account hpool
  refine ⟨haddress, Environment.address?_of_account hposition, ?_⟩
  simp [haddress]

theorem turn_of_command {caller : Caller} {c : Command}
    (h : Command.Effect env caller l c r l') :
    l.custody.Turn env (c.purposes env caller.sender) l'.custody
      fun m => c.movement? caller.sender m (l.shares env m) r := by
  cases h with
  | propose found =>
    obtain ⟨-, -, hpool, -⟩ := ProposalAccounts.resolve_eq_ok found.resolved
    simp only [custody_put, custody_put_pool, table_feeVault, table_nonceCounter, ne_eq,
      reduceCtorEq, not_false_eq_true]
    exact .pool (Environment.address?_of_account hpool) (get?_pools.trans found.pool_found)
      found.pool_mint fun _ => .lock found.locked
  | openPool found pool_missing =>
    obtain ⟨-, hpool⟩ := TokenAccounts.resolve_eq_ok found.resolved
    simp only [custody_put, custody_put_pool, table_tokenRelation, ne_eq, reduceCtorEq,
      not_false_eq_true]
    exact .opened (Environment.address?_of_account hpool)
      (get?_pools.trans (record?_of_not_holds pool_missing))
  | @releaseCustody _ _ localMint _ _ found =>
    obtain ⟨-, hpool⟩ := TokenAccounts.resolve_eq_ok found.resolved
    have hstep : ∀ positions, Book.Step ⟨found.pool, positions⟩
        (.release found.release (found.pool.liquidity ≠ 0)) ⟨found.pool', positions⟩ :=
      fun _ => .release found.released
    have hmoves : (fun m => if localMint = m then
        some (Movement.release found.release (l.shares env m)) else none) =
        fun m => if localMint = m then
          some (.release found.release (found.pool.liquidity ≠ 0)) else none := by
      funext m
      by_cases hm : localMint = m
      · rw [← hm, shares, pool?_of_account hpool, found.pool_found, Option.any_some]
      · rw [if_neg hm, if_neg hm]
    rw [custody_put_pool]
    exact hmoves ▸ .pool (Environment.address?_of_account hpool)
      (get?_pools.trans found.pool_found) found.pool_mint hstep
  | @setPoolFeeRate _ rate found =>
    have hstep : ∀ positions, Book.Step ⟨found.pool, positions⟩ (.setFeeRate rate)
        ⟨{ found.pool with feeRate := rate }, positions⟩ := fun _ => .setFeeRate found.rate_le
    rw [custody_put_pool]
    exact .pool (Environment.address?_of_account found.resolved)
      (get?_pools.trans found.pool_found) found.pool_mint hstep
  | addLiquidity found =>
    obtain ⟨haddress, hposition, hnamed⟩ := named_of_resolve found.resolved
    have hq := Pool.eq_of_addLiquidity found.added
    have hy := Pool.position_eq_of_addLiquidity found.added
    rw [custody_put_position, custody_put_pool]
    refine .position haddress hposition hnamed (get?_pools.trans found.pool_found)
      found.pool_mint (fun positions hget owns => .add owns ?_) (by rw [← hq]) ?_
    · rw [Book.position, hget, get?_positions, found.pool_mint]
      exact found.added
    · rw [get?_positions, ← hy]
  | removeLiquidity found =>
    obtain ⟨haddress, hposition, hnamed⟩ := named_of_resolve found.resolved
    have hq := Pool.eq_of_removeLiquidity found.removed
    have hy := Pool.position_eq_of_removeLiquidity found.removed
    have hold := get?_positions.trans found.position_found
    rw [custody_put_position, custody_put_pool]
    refine .position haddress hposition hnamed (get?_pools.trans found.pool_found)
      found.pool_mint (fun positions hget owns => .remove owns (hget.trans hold) found.removed)
      (by rw [← hq]) ?_
    rw [hold, ← hy, Option.getD_some]
  | withdrawReward found =>
    obtain ⟨haddress, hposition, hnamed⟩ := named_of_resolve found.resolved
    have hq := Pool.eq_of_withdrawReward found.withdrawn
    have hy := Pool.position_eq_of_withdrawReward found.withdrawn
    have hold := get?_positions.trans found.position_found
    rw [custody_put_position, custody_put_pool]
    refine .position haddress hposition hnamed (get?_pools.trans found.pool_found)
      found.pool_mint (fun positions hget owns => .withdraw owns (hget.trans hold) found.withdrawn)
      (by rw [← hq]) ?_
    rw [hold, ← hy, Option.getD_some]
  | _ =>
    simp only [custody_put, custody_erase, table_bridgeConfig, table_coreConfig, table_feeVault,
      table_chainRelation, table_tokenRelation, ne_eq, reduceCtorEq, not_false_eq_true]
    exact .idle

theorem turn_of_call {c : Call} (h : Call.Effect env l c r l') :
    l.custody.Turn env (c.purposes env) l'.custody
      fun m => c.movement? m (l.shares env m) r := by
  cases h with
  | instantiate =>
    simp only [custody_put, table_bridgeConfig, table_coreConfig, table_bridgeAuthority,
      table_feeVault, ne_eq, reduceCtorEq, not_false_eq_true]
    exact .idle
  | propose effect => exact turn_of_command effect
  | execute effect => exact turn_of_command effect

theorem turn_of_step (c : Call) :
    l.custody.Turn env (c.purposes env) (c.toStep env l).after.custody
      fun m => (c.toStep env l).movement? env m := by
  cases hr : (c.toStep env l).receipt? with
  | none =>
    rw [Step.after_of_receipt?_eq_none hr]
    simp only [Step.movement?, hr, Option.bind_none]
    exact .idle
  | some r =>
    simp only [Step.movement?, hr, Option.bind_some]
    exact turn_of_call (Step.effect_of_receipt? hr)

end Ledger

end CustodyBridge
