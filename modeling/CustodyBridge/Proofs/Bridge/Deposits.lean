import CustodyBridge.Proofs.Bridge.Books
import CustodyBridge.Proofs.Bridge.Provision
import CustodyBridge.Proofs.Funds
import CustodyBridge.Proofs.Pool.Deposits

/-!
# Deposits of providers

A provider offers liquidity to a pool that has room for it. Whether the pool takes it is decided by
the debt alone, which comes from the lifetime of fees.
-/

namespace CustodyBridge

/-! ## Offers -/

namespace Ledger

/-- A caller offers an amount to the pool of a mint, and attaches just that. The pool is there and
has room, and the caller's position, new or not, has an account. -/
structure Offers (env : Environment) (l : Ledger) (caller : Caller) (mint : Address)
    (amount : UInt64) (p : Pool) (x : Position) : Prop where
  pool : l.pool? env mint = some p
  pool_mint : p.mint = mint
  account : (positionAddress? env mint caller.sender).isSome = true
  position : (l.position? env mint caller.sender).getD (.opened mint caller.sender) = x
  funds : ∀ m, Funds.sumOf m caller.funds = if m = mint then amount.toNat else 0
  positive : 0 < amount.toNat
  balance : p.balance.toNat + amount.toNat < UInt64.size
  liquidity : p.liquidity.toNat + amount.toNat < UInt64.size

variable {env : Environment} {l : Ledger} {caller : Caller} {mint : Address} {amount : UInt64}
  {p : Pool} {x : Position}

theorem Offers.verify (h : l.Offers env caller mint amount p x) :
    Funds.verify caller.funds [⟨mint, amount⟩] = .ok () := by
  refine Funds.verify_eq_ok.2 fun m => ?_
  rw [h.funds, Funds.sumOf_cons, Funds.sumOf_nil, Nat.add_zero]
  refine ⟨rfl, ?_⟩
  split
  · exact amount.toNat_lt
  · decide

end Ledger

/-! ## One deposit -/

section calls

variable {env : Environment} {l : Ledger} {caller : Caller} {mint : Address} {amount : UInt64}
  {p : Pool} {x : Position}

theorem exec_addLiquidity_of_offers {a : LiquidityAccounts} (readable : l.Readable)
    (ha : LiquidityAccounts.resolve env mint caller.sender = .ok a)
    (offers : l.Offers env caller mint amount p x) :
    (addLiquidity caller a mint amount).exec l = (p.addLiquidity x amount).map fun (q, y) =>
      (.liquidityAdded mint caller.sender amount y.amount,
        (l.put a.pool.address q).put a.position.address y) := by
  obtain ⟨hpool, hposition⟩ := LiquidityAccounts.resolve_eq_ok ha
  have pool_found := offers.pool
  have position := offers.position
  rw [Ledger.pool?_of_account hpool] at pool_found
  rw [Ledger.position?_of_account hpool hposition] at position
  have amount_ne : amount ≠ 0 := by
    rintro rfl
    exact absurd offers.positive (by decide)
  have loaded : (Record.load? Position a.position).exec l =
      .ok (l.record? Position a.position.address, l) :=
    Record.exec_load?_eq_ok.2 ⟨readable.legible, rfl, rfl⟩
  unfold addLiquidity Position.runAdd
  rw [offers.verify, Program.exec_bind_of_ok (Program.exec_ofExcept _ _), if_neg amount_ne,
    Program.exec_bind, Program.exec_bind_of_ok
      (Pool.exec_load_eq_ok.2 ⟨⟨pool_found, rfl⟩, offers.pool_mint⟩),
    Program.exec_bind_of_ok loaded, position, Program.exec_bind, Program.exec_ofOutcome]
  cases p.addLiquidity x amount with
  | ok r => simp
  | error | panic => rfl

namespace Call

theorem operation_addLiquidity {a : LiquidityAccounts}
    (ha : LiquidityAccounts.resolve env mint caller.sender = .ok a) :
    (execute caller (.addLiquidity mint amount)).operation env =
      .ok ⟨a.access, addLiquidity caller a mint amount⟩ := by
  simp only [operation, Command.operation, ha]
  rfl

theorem perform_of_admits (readable : l.Readable) (offers : l.Offers env caller mint amount p x)
    (admits : p.Admits x amount) :
    ∃ r, ((execute caller (.addLiquidity mint amount)).perform env l).outcome = .ok r := by
  obtain ⟨b, hb⟩ := Option.isSome_iff_exists.1 offers.account
  obtain ⟨a, ha⟩ := LiquidityAccounts.exists_resolve hb
  obtain ⟨q, y, hadd⟩ := Pool.exists_addLiquidity offers.balance offers.liquidity admits
  have hexec := exec_addLiquidity_of_offers readable ha offers
  rw [hadd] at hexec
  exact ⟨_, (perform_of_ok (operation_addLiquidity ha) hexec).1⟩

theorem perform_of_not_admits (readable : l.Readable)
    (offers : l.Offers env caller mint amount p x) (refused : ¬ p.Admits x amount) :
    let run := (execute caller (.addLiquidity mint amount)).perform env l
    run.outcome = .error .amountOverflow ∧ run.state = l := by
  obtain ⟨b, hb⟩ := Option.isSome_iff_exists.1 offers.account
  obtain ⟨a, ha⟩ := LiquidityAccounts.exists_resolve hb
  have hop : (execute caller (.addLiquidity mint amount)).operation env = .ok _ :=
    operation_addLiquidity ha
  obtain ⟨houtcome, hstate⟩ := perform_eq (l := l) hop
  have hexec := exec_addLiquidity_of_offers readable ha offers
  rw [Pool.addLiquidity_eq_overflow offers.balance offers.liquidity refused] at hexec
  rw [hexec] at houtcome hstate
  exact ⟨houtcome, hstate⟩

end Call

end calls

/-! ## Deposits behind a run -/

namespace Custody

variable {env : Environment} {named purposes : List Purpose} {c : Custody}

theorem Placed.mono (h : c.Placed env named) (hsub : ∀ p ∈ named, p ∈ purposes) :
    c.Placed env purposes where
  pool := h.pool
  position b x hx := by
    obtain ⟨a, hpool, hposition, is_named, found⟩ := h.position b x hx
    exact ⟨a, hpool, hposition, hsub _ is_named, found⟩

end Custody

namespace Call

variable {env : Environment} {calls : List Call} {caller : Caller} {mint : Address}
  {amount : UInt64} {p : Pool} {x : Position}

theorem exists_book_of_offers
    (offers : (performAll env calls SortedMap.empty).Offers env caller mint amount p x)
    (apart : env.Apart .positions (env.holdings mint caller.sender ++ named env calls)) :
    ∃ moves b account, Book.Reached mint env.bridgeAuthority.address moves b ∧ b.pool = p ∧
      b.position account caller.sender = x := by
  obtain ⟨b, hb⟩ := Option.isSome_iff_exists.1 offers.account
  obtain ⟨a, ha, hposition⟩ := Option.bind_eq_some_iff.1 hb
  have found := offers.pool
  rw [Ledger.pool?, ha, Option.bind_some] at found
  have apart_run : env.Apart .positions (named env calls) := fun q hq q' hq' =>
    apart q (List.mem_append_right _ hq) q' (List.mem_append_right _ hq')
  have placed : (performAll env calls SortedMap.empty).custody.Placed env
      (env.holdings mint caller.sender ++ named env calls) :=
    (placed_history env calls).mono fun _ hp => List.mem_append_right _ hp
  have hget := placed.get?_book apart hposition
    (List.mem_append_left _ (by simp [Environment.holdings, ha])) (Ledger.get?_pools.trans found)
  have reached := (traced_history apart_run).book a p (Ledger.get?_pools.trans found)
  rw [offers.pool_mint] at reached
  refine ⟨_, _, b, reached, rfl, ?_⟩
  have position := offers.position
  rw [Ledger.position?, hb, Option.bind_some] at position
  rw [Book.position, hget, Ledger.get?_positions, ← position]
  exact congrArg _ (by rw [← offers.pool_mint]; rfl)

/-- Behind every run, a pool that has room takes an offer exactly where the position admits it, and
otherwise reports an overflow, and nothing has changed. Where accounts of positions are apart, the
debt alone decides; and nothing done before can make a deposit overflow while what the position then
holds, at the next whole number above the ratio, comes to an amount. -/
theorem deposits_decided
    (offers : (performAll env calls SortedMap.empty).Offers env caller mint amount p x) :
    let l := performAll env calls SortedMap.empty
    let run := (execute caller (.addLiquidity mint amount)).perform env l
    ((∃ r, run.outcome = .ok r) ↔ p.Admits x amount) ∧
    (¬ p.Admits x amount → run.outcome = .error .amountOverflow ∧ run.state = l) ∧
    (env.Apart .positions (env.holdings mint caller.sender ++ named env calls) →
      (p.Admits x amount ↔
        x.debt.toNat + amount.toNat * p.ratio.toNat / Pool.scale < UInt64.size) ∧
      ∀ k, p.ratio.toNat ≤ k * Pool.scale →
        (x.amount.toNat + amount.toNat) * k < UInt64.size → p.Admits x amount) := by
  intro l run
  have readable : l.Readable := (sound_history env calls).readable
  refine ⟨⟨?_, perform_of_admits readable offers⟩, perform_of_not_admits readable offers, ?_⟩
  · rintro ⟨r, hr⟩
    by_contra refused
    rw [(perform_of_not_admits readable offers refused).1] at hr
    cases hr
  · intro apart
    obtain ⟨moves, b, account, reached, rfl, rfl⟩ := exists_book_of_offers offers apart
    refine ⟨⟨fun admits => admits.debt, fun debt => ⟨?_, debt⟩⟩, fun k hratio fits =>
      reached.admits offers.liquidity hratio fits⟩
    have hle := reached.balanced.position_amount_le account caller.sender
    exact Nat.lt_of_le_of_lt (Nat.add_le_add_right hle _) offers.liquidity

end Call

/-! ## A dust position -/

namespace Sample

theorem offers_of_latecomer {l : Ledger} {p : Pool} {n : UInt64}
    (found : l.record? Pool poolAccount.address = some p) (pool_mint : p.mint = mint)
    (none : l.record? Position lateAccount.address = none) (positive : 0 < n.toNat)
    (balance : p.balance.toNat + n.toNat < UInt64.size)
    (liquidity : p.liquidity.toNat + n.toNat < UInt64.size) :
    l.Offers .small (joining n) mint n p (.opened mint latecomer) where
  pool := (Ledger.pool?_of_account account_pool).trans found
  pool_mint := pool_mint
  account := by
    rw [Ledger.positionAddress?, Environment.address?_of_account account_pool, Option.bind_some]
    exact congrArg Option.isSome (Environment.address?_of_account account_late)
  position := by
    have missing : l.position? .small mint (joining n).sender = .none :=
      (Ledger.position?_of_account account_pool account_late).trans none
    rw [missing]
    rfl
  funds m := by rw [joining, Funds.sumOf_cons, Funds.sumOf_nil, Nat.add_zero]
  positive := positive
  balance := balance
  liquidity := liquidity

end Sample

namespace Call

theorem deposits_decided_sample :
    let l := performAll .small Sample.calls SortedMap.empty
    l.Offers .small (Sample.joining 32) Sample.mint 32 Sample.releasedPool
        (.opened Sample.mint Sample.latecomer) ∧
      Environment.small.Apart .positions (Environment.small.holdings Sample.mint Sample.latecomer ++
        named .small Sample.calls) ∧
      ∃ r, ((execute (Sample.joining 32) (.addLiquidity Sample.mint 32)).perform .small
        l).outcome = .ok r := by
  have offers : (performAll .small Sample.calls SortedMap.empty).Offers .small
      (Sample.joining 32) Sample.mint 32 Sample.releasedPool
      (.opened Sample.mint Sample.latecomer) := by
    rw [Sample.run.2]
    exact Sample.offers_of_latecomer Ledger.record?_put_self rfl Sample.released_late (by decide)
      (by decide) (by decide)
  have apart : Environment.small.Apart .positions
      (Environment.small.holdings Sample.mint Sample.latecomer ++ named .small Sample.calls) := by
    unfold Environment.Apart
    decide +kernel
  obtain ⟨hsucceeds, -, -⟩ := deposits_decided offers
  exact ⟨offers, apart, hsucceeds.2 (by decide +kernel)⟩

/-- Two full releases over a liquidity of one leave a pool that has room, and takes nothing. -/
theorem deposit_overflows :
    let l := performAll .small Sample.spreadCalls SortedMap.empty
    let run := (execute (Sample.joining 1) (.addLiquidity Sample.mint 1)).perform .small l
    (∃ p x, l.Offers .small (Sample.joining 1) Sample.mint 1 p x) ∧
      run.outcome = .error .amountOverflow := by
  have readable : Sample.spreadTwice.Readable :=
    Sample.run_spread ▸ (sound_history .small Sample.spreadCalls).readable
  have none : Sample.spreadTwice.record? Position Sample.lateAccount.address = none := by
    have hne : Sample.positionAccount.address ≠ Sample.lateAccount.address := by decide +kernel
    simp [Sample.spreadTwice, Sample.spreadOnce, Sample.keeping, Sample.saved, Sample.opened,
      Sample.initialized, Ledger.record?_put, hne]
    rfl
  have offers : Sample.spreadTwice.Offers .small (Sample.joining 1) Sample.mint 1
      (Sample.spreadPool 158456325028528675178497966080)
      (.opened Sample.mint Sample.latecomer) :=
    Sample.offers_of_latecomer Ledger.record?_put_self rfl none (by decide) (by decide) (by decide)
  simp only [Sample.run_spread]
  exact ⟨⟨_, _, offers⟩, (perform_of_not_admits readable offers (by decide +kernel)).1⟩

end Call

end CustodyBridge
