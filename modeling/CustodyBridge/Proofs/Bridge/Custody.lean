import CustodyBridge.Proofs.Bridge.Movements
import CustodyBridge.Proofs.Pool.Accounting

/-!
# Custody over runs

In every run, pools and positions stay at the accounts of their mints and providers, and the book of
a pool is one that the run's movements lead to.
-/

namespace CustodyBridge

namespace Custody

/-- A pool with the positions of its mint. -/
def book (c : Custody) (p : Pool) : Book :=
  ⟨p, c.positions.filter fun e => e.2.mint = p.mint⟩

/-! ## Places -/

def PoolAt (env : Environment) (a : Address) (p : Pool) : Prop :=
  env.address? (.pool p.mint) = some a

/-- A position is at the account of its provider in the pool of its mint, which is there. -/
def PositionAt (env : Environment) (named : List Purpose) (c : Custody) (b : Address)
    (x : Position) : Prop :=
  ∃ a, env.address? (.pool x.mint) = some a ∧ env.address? (.position a x.provider) = some b ∧
    .position a x.provider ∈ named ∧ ∃ p, c.pools.get? a = some p ∧ p.mint = x.mint

structure Placed (env : Environment) (named : List Purpose) (c : Custody) : Prop where
  pool : ∀ a p, c.pools.get? a = some p → PoolAt env a p
  position : ∀ b x, c.positions.get? b = some x → c.PositionAt env named b x

section places

variable {env : Environment} {named purposes : List Purpose} {c c' : Custody}
  {moves : Address → Option Movement} {a b provider : Address} {p q : Pool} {x y : Position}

theorem placed_empty : Placed env named ⟨SortedMap.empty, SortedMap.empty⟩ := ⟨nofun, nofun⟩

theorem Placed.unique (h : c.Placed env named) (hp : c.pools.get? a = some p)
    (hq : c.pools.get? b = some q) (hm : p.mint = q.mint) : a = b := by
  have ha := h.pool a p hp
  rw [PoolAt, hm, h.pool b q hq] at ha
  exact (Option.some.inj ha).symm

theorem Placed.insert_pool (h : c.Placed env named) (hq : PoolAt env a q)
    (hold : ∀ p, c.pools.get? a = some p → p.mint = q.mint) :
    Placed env named { c with pools := c.pools.insert a q } := by
  constructor
  · intro a' p hp
    dsimp only at hp
    rw [SortedMap.get?_insert] at hp
    split at hp
    · rename_i ha
      cases hp
      exact ha ▸ hq
    · exact h.pool a' p hp
  · intro b x hx
    obtain ⟨a', hpool, hposition, hmem, p, hp, hm⟩ := h.position b x hx
    refine ⟨a', hpool, hposition, hmem, ?_⟩
    dsimp only
    rw [SortedMap.get?_insert]
    split
    · rename_i ha
      subst ha
      exact ⟨q, rfl, (hold p hp).symm.trans hm⟩
    · exact ⟨p, hp, hm⟩

theorem Placed.insert_position (h : c.Placed env named) (hx : c.PositionAt env named b x) :
    Placed env named { c with positions := c.positions.insert b x } := by
  refine ⟨h.pool, fun b' y hy => ?_⟩
  dsimp only at hy
  rw [SortedMap.get?_insert] at hy
  split at hy
  · rename_i hb
    cases hy
    exact hb ▸ hx
  · exact h.position b' y hy

theorem Placed.turn (h : c.Placed env named) (hturn : c.Turn env purposes c' moves)
    (hnamed : ∀ p ∈ purposes, p ∈ named) : c'.Placed env named := by
  cases hturn with
  | idle => exact h
  | opened account missing =>
    refine h.insert_pool account fun p hp => ?_
    rw [missing] at hp
    cases hp
  | pool account found pool_mint step =>
    have hmint := (step SortedMap.empty).mint_eq
    dsimp only at hmint
    refine h.insert_pool (by rwa [PoolAt, hmint, pool_mint]) fun p hp => ?_
    rw [found] at hp
    cases hp
    exact hmint.symm
  | @position mint a b provider p q y _ account position_account is_named found pool_mint step
      same_pool same_position =>
    have hpools := h.insert_pool (a := a) (q := q) (by rwa [PoolAt, same_pool, pool_mint]) <| by
      intro p' hp'
      rw [found] at hp'
      cases hp'
      exact same_pool.symm
    refine hpools.insert_position ?_
    obtain ⟨hymint, hyprovider⟩ := Prod.mk.inj same_position
    cases hold : c.positions.get? b with
    | none =>
      rw [hold, Option.getD_none] at hymint hyprovider
      simp only [PositionAt, hymint, hyprovider]
      exact ⟨a, account, position_account, hnamed _ is_named, q, SortedMap.get?_insert_self _ _ _,
        same_pool.trans pool_mint⟩
    | some old =>
      rw [hold, Option.getD_some] at hymint hyprovider
      simp only [PositionAt, hymint, hyprovider]
      exact hpools.position b old hold

/-! ## Accounts of positions -/

variable {mint : Address}

theorem Placed.owns (h : c.Placed env named) (apart : env.Apart .positions named)
    (account : env.address? (.pool mint) = some a)
    (position_account : env.address? (.position a provider) = some b)
    (is_named : .position a provider ∈ named) (pool_mint : p.mint = mint) :
    (c.book p).Owns b provider := by
  intro b' x hx
  rw [book, SortedMap.get?_filter, Option.filter_eq_some_iff, decide_eq_true_iff] at hx
  obtain ⟨hx, hm⟩ := hx
  obtain ⟨a', hpool, hposition, hmem, -⟩ := h.position b' x hx
  obtain rfl : a = a' := by
    rw [hm, pool_mint, account] at hpool
    exact Option.some.inj hpool
  constructor
  · rintro rfl
    have heq := apart _ hmem _ is_named rfl rfl (by rw [hposition]; rfl)
      (hposition.trans position_account.symm)
    exact (Purpose.position.inj heq).2
  · rintro rfl
    exact Option.some.inj (hposition.symm.trans position_account)

theorem Placed.get?_book (h : c.Placed env named) (apart : env.Apart .positions named)
    (position_account : env.address? (.position a provider) = some b)
    (is_named : .position a provider ∈ named) (found : c.pools.get? a = some p) :
    (c.book p).positions.get? b = c.positions.get? b := by
  rw [book, SortedMap.get?_filter]
  cases hx : c.positions.get? b with
  | none => rfl
  | some x =>
    obtain ⟨a', -, hposition, hmem, q, hq, hm⟩ := h.position b x hx
    have heq := apart _ hmem _ is_named rfl rfl (by rw [hposition]; rfl)
      (hposition.trans position_account.symm)
    obtain rfl := (Purpose.position.inj heq).1
    obtain rfl := Option.some.inj (found.symm.trans hq)
    rw [Option.filter_some_pos (by simpa using hm.symm)]

end places

/-! ## Books -/

/-- Every pool's book is one that the movements of its mint lead to. -/
structure Traced (env : Environment) (named : List Purpose) (moves : Address → List Movement)
    (c : Custody) : Prop where
  placed : c.Placed env named
  book : ∀ a p, c.pools.get? a = some p →
    Book.Reached p.mint env.bridgeAuthority.address (moves p.mint) (c.book p)
  unopened : ∀ m, (∀ a p, c.pools.get? a = some p → p.mint ≠ m) → moves m = []

section traced

variable {env : Environment} {named purposes : List Purpose} {c c' : Custody}
  {moves : Address → List Movement} {next : Address → Option Movement}

theorem traced_empty : Traced env named (fun _ => []) ⟨SortedMap.empty, SortedMap.empty⟩ :=
  ⟨placed_empty, nofun, fun _ _ => rfl⟩

theorem Traced.opened {mint a : Address} (h : c.Traced env named moves)
    (account : env.address? (.pool mint) = some a) (missing : c.pools.get? a = none) :
    Traced env named moves
      { c with pools := c.pools.insert a (Pool.opened mint env.bridgeAuthority.address) } := by
  have absent : ∀ a' p, c.pools.get? a' = some p → p.mint ≠ mint := by
    rintro a' p hp rfl
    obtain rfl : a' = a := Option.some.inj ((h.placed.pool a' p hp).symm.trans account)
    rw [missing] at hp
    cases hp
  -- Every position has a pool of its mint, so a mint without a pool has no positions.
  have positions : c.book (Pool.opened mint env.bridgeAuthority.address) =
      Book.opened mint env.bridgeAuthority.address := by
    rw [Custody.book, Book.opened, Book.mk.injEq]
    refine ⟨rfl, SortedMap.ext_get? fun b => ?_⟩
    rw [SortedMap.get?_filter, SortedMap.get?_empty, Option.filter_eq_none_iff]
    intro x hx hm
    obtain ⟨a', -, -, -, p, hp, hpm⟩ := h.placed.position b x hx
    exact absent a' p hp (hpm.trans (of_decide_eq_true hm))
  have fresh : ∀ a' p, c.pools.get? a' = some p → a ≠ a' := by
    rintro a' p hp rfl
    rw [missing] at hp
    cases hp
  refine ⟨h.placed.insert_pool account fun p hp => absurd rfl (fresh a p hp), ?_, ?_⟩
  · intro a' p hp
    dsimp only at hp
    rw [SortedMap.get?_insert] at hp
    split at hp
    · cases hp
      rw [show (Pool.opened mint env.bridgeAuthority.address).mint = mint from rfl,
        h.unopened mint absent]
      exact positions ▸ .opened
    · exact h.book a' p hp
  · intro m hm
    refine h.unopened m fun a' p hp => hm a' p ?_
    dsimp only
    rw [SortedMap.get?_insert_of_ne _ _ (fresh a' p hp), hp]

theorem Traced.move {mint a : Address} {p q : Pool} {move : Movement}
    (h : c.Traced env named moves) (placed : c'.Placed env named)
    (found : c.pools.get? a = some p) (hp : p.mint = mint)
    (pools : c'.pools = c.pools.insert a q) (step : (c.book p).Step move (c'.book q))
    (others : ∀ p', p'.mint ≠ mint → c'.book p' = c.book p') :
    c'.Traced env named fun m => moves m ++ (if mint = m then some move else none).toList := by
  have hq : q.mint = mint := step.mint_eq.trans hp
  refine ⟨placed, ?_, ?_⟩
  · intro a' p' hp'
    rw [pools, SortedMap.get?_insert] at hp'
    split at hp'
    · cases hp'
      have hreached := h.book a p found
      rw [hp] at hreached
      rw [hq, if_pos rfl]
      exact .step hreached step
    · rename_i hne
      have hother : p'.mint ≠ mint := fun hm =>
        hne (h.placed.unique found hp' (hp.trans hm.symm))
      rw [others p' hother, if_neg (Ne.symm hother), Option.toList_none, List.append_nil]
      exact h.book a' p' hp'
  · intro m hm
    have hne : mint ≠ m := fun hmm => by
      refine hm a q ?_ (hq.trans hmm)
      rw [pools, SortedMap.get?_insert_self]
    rw [if_neg hne, Option.toList_none, List.append_nil]
    refine h.unopened m fun a' p' hp' => ?_
    by_cases ha : a = a'
    · subst ha
      obtain rfl := Option.some.inj (found.symm.trans hp')
      exact hp ▸ hne
    · refine hm a' p' ?_
      rw [pools, SortedMap.get?_insert_of_ne _ _ ha, hp']

theorem Traced.turn (h : c.Traced env named moves) (apart : env.Apart .positions named)
    (hturn : c.Turn env purposes c' next) (hnamed : ∀ p ∈ purposes, p ∈ named) :
    c'.Traced env named fun m => moves m ++ (next m).toList := by
  have placed := h.placed.turn hturn hnamed
  cases hturn with
  | idle => simpa using h
  | opened account missing => simpa using h.opened account missing
  | @pool mint a p q move account found pool_mint step =>
    have hq : q.mint = p.mint := (step SortedMap.empty).mint_eq
    refine h.move placed found pool_mint rfl ?_ fun p' _ => rfl
    simp only [Custody.book, hq]
    exact step _
  | @position mint a b provider p q y move account position_account is_named found pool_mint step
      same_pool same_position =>
    have hnamed := hnamed _ is_named
    have howns := h.placed.owns apart account position_account hnamed pool_mint
    have hget := h.placed.get?_book apart position_account hnamed found
    have hold : ∀ x, c.positions.get? b = some x → x.mint = mint := by
      intro x hx
      rw [← hget, Custody.book, SortedMap.get?_filter, Option.filter_eq_some_iff] at hx
      exact (of_decide_eq_true hx.2).trans pool_mint
    have hy : y.mint = mint := by
      rw [(Prod.mk.inj same_position).1]
      cases hx : c.positions.get? b with
      | none => rfl
      | some x => exact hold x hx
    refine h.move placed found pool_mint rfl ?_ fun p' hp' => ?_
    · have hbook : Custody.book ⟨c.pools.insert a q, c.positions.insert b y⟩ q =
          ⟨q, (c.book p).positions.insert b y⟩ := by
        rw [Custody.book, Custody.book, ← same_pool,
          SortedMap.filter_insert _ _ _ _ (by simp [hy, same_pool, pool_mint])]
      rw [hbook]
      exact step _ hget howns
    · rw [Custody.book, Custody.book,
        SortedMap.filter_insert_of_not _ _ _ _ (by simpa [hy] using Ne.symm hp')]
      rw [SortedMap.get?_filter, Option.filter_eq_none_iff]
      intro x hx hm
      exact hp' ((of_decide_eq_true hm).symm.trans (hold x hx))

end traced

end Custody

/-! ## Runs -/

theorem Call.placed_history (env : Environment) (calls : List Call) :
    (performAll env calls SortedMap.empty).custody.Placed env (named env calls) := by
  refine history_induction (P := fun _ l => l.custody.Placed env (named env calls))
    Custody.placed_empty ?_
  exact fun c hc _ _ h => h.turn (Ledger.turn_of_step c) fun _ hp => mem_named hc hp

/-- In every run, the book of a pool is one that the run's movements of its mint lead to. -/
theorem Call.traced_history {env : Environment} {calls : List Call}
    (apart : env.Apart .positions (named env calls)) :
    (performAll env calls SortedMap.empty).custody.Traced env (named env calls)
      fun m => Step.movements env m (history env calls SortedMap.empty) := by
  refine history_induction (P := fun steps l => l.custody.Traced env (named env calls)
    fun m => Step.movements env m steps) Custody.traced_empty ?_
  intro c hc steps l h
  have hturn := h.turn apart (Ledger.turn_of_step c) fun p hp => mem_named hc hp
  simpa only [Step.movements_append_singleton] using hturn

theorem Sample.apart_positions : Environment.small.Apart .positions (Call.named .small calls) := by
  unfold Environment.Apart
  decide +kernel

end CustodyBridge
