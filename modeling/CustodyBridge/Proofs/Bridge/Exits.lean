import CustodyBridge.Proofs.Bridge.Integrity
import CustodyBridge.Proofs.Bridge.Providers
import CustodyBridge.Proofs.Pool.Exits

/-!
# Exits of providers

A provider takes liquidity out of a pool. When this succeeds, and what each refusal says.
-/

namespace CustodyBridge

/-! ## Accounts of a provider -/

section accounts

variable {env : Environment} {mint provider : Address}

theorem LiquidityAccounts.exists_resolve {b : Address}
    (h : Ledger.positionAddress? env mint provider = some b) :
    ∃ a, resolve env mint provider = .ok a := by
  obtain ⟨custody, haddress, hposition⟩ := Option.bind_eq_some_iff.1 h
  obtain ⟨pool, hpool, rfl⟩ := Environment.address?_eq_some.1 haddress
  obtain ⟨position, hposition, -⟩ := Environment.address?_eq_some.1 hposition
  refine ⟨⟨pool, position⟩, ?_⟩
  simp only [resolve, except_bind_eq_ok]
  exact ⟨pool, hpool, position, hposition, rfl⟩

end accounts

/-! ## Reasons -/

namespace Ledger

/-- The pool of a mint is there, and the provider has a position in it. -/
structure Provides (env : Environment) (l : Ledger) (mint provider : Address) (p : Pool)
    (x : Position) : Prop where
  pool : l.pool? env mint = some p
  pool_mint : p.mint = mint
  position : l.position? env mint provider = some x

theorem Provides.reward?_eq {env : Environment} {l : Ledger} {mint provider : Address} {p : Pool}
    {x : Position} (h : l.Provides env mint provider p x) :
    l.reward? env mint provider = x.pendingReward? p := by
  rw [reward?, h.pool, Option.bind_some, h.position, Option.bind_some]

/-- Why liquidity is not taken out: without a position, for want of an account, of a pool of the
mint, or of the position itself; and with one, as the pool says. -/
inductive RefusesExit (env : Environment) (l : Ledger) (mint provider : Address)
    (amount : UInt64) : BridgeError → Prop where
  | noAccount {cause : DerivationError} (none : positionAddress? env mint provider = none) :
      RefusesExit env l mint provider amount (.derivation cause)
  | zero (none : amount = 0) : RefusesExit env l mint provider amount .zeroAmount
  | noPool (none : l.pool? env mint = none) :
      RefusesExit env l mint provider amount (.unknownPool mint)
  | otherPool {p : Pool} (found : l.pool? env mint = some p) (other : p.mint ≠ mint) :
      RefusesExit env l mint provider amount (.tokenMintMismatch p.mint mint)
  | noPosition (none : l.position? env mint provider = none) :
      RefusesExit env l mint provider amount (.unknownPosition provider)
  | pool {p : Pool} {x : Position} {e : BridgeError}
      (provides : l.Provides env mint provider p x) (refuses : p.Refuses x amount e) :
      RefusesExit env l mint provider amount e

end Ledger

/-! ## One call -/

section calls

variable {env : Environment} {caller : Caller} {l : Ledger} {mint : Address} {amount : UInt64}
  {e : BridgeError}

theorem refusesExit_of_exec {a : LiquidityAccounts} (readable : l.Readable)
    (ha : LiquidityAccounts.resolve env mint caller.sender = .ok a)
    (h : (removeLiquidity caller a mint amount).exec l = .error e) :
    l.RefusesExit env mint caller.sender amount e := by
  obtain ⟨hpool, hposition⟩ := LiquidityAccounts.resolve_eq_ok ha
  have hp := Ledger.pool?_of_account (l := l) hpool
  have hx := Ledger.position?_of_account (l := l) hpool hposition
  simp [removeLiquidity, Position.runRemove, readable.legible] at h
  obtain ⟨none, rfl⟩ | ⟨-, (⟨missing, rfl⟩ | ⟨p, found, other, rfl⟩) |
    ⟨p, ⟨found, pool_mint⟩, ⟨missing, rfl⟩ | ⟨x, position_found, hremove⟩⟩⟩ := h
  · exact .zero none
  · exact .noPool (hp.trans (Ledger.record?_of_not_holds missing))
  · exact .otherPool (hp.trans found) other
  · exact .noPosition (hx.trans (Ledger.record?_of_not_holds missing))
  · exact .pool ⟨hp.trans found, pool_mint, hx.trans position_found⟩
      (Pool.refuses_of_removeLiquidity hremove)

namespace Call

theorem operation_removeLiquidity {a : LiquidityAccounts}
    (ha : LiquidityAccounts.resolve env mint caller.sender = .ok a) :
    (execute caller (.removeLiquidity mint amount)).operation env =
      .ok ⟨a.access, removeLiquidity caller a mint amount⟩ := by
  simp only [operation, Command.operation, ha]
  rfl

theorem refusesExit_of_perform (readable : l.Readable)
    (h : ((execute caller (.removeLiquidity mint amount)).perform env l).outcome = .error e) :
    l.RefusesExit env mint caller.sender amount e := by
  cases ha : LiquidityAccounts.resolve env mint caller.sender with
  | ok a => exact refusesExit_of_exec readable ha (exec_of_error (operation_removeLiquidity ha) h)
  | error e' =>
    simp only [perform, operation, Command.operation, ha] at h
    cases h
    obtain ⟨cause, rfl⟩ := LiquidityAccounts.resolve_eq_error ha
    refine .noAccount (Option.eq_none_iff_forall_ne_some.2 fun b hb => ?_)
    obtain ⟨a, ha'⟩ := LiquidityAccounts.exists_resolve hb
    rw [ha] at ha'
    cases ha'

theorem perform_removeLiquidity_iff :
    (∃ r, ((execute caller (.removeLiquidity mint amount)).perform env l).outcome = .ok r) ↔
      amount ≠ 0 ∧ ∃ p x, l.Provides env mint caller.sender p x ∧ amount ≤ x.amount ∧
        amount ≤ p.balance ∧ p.Settles x amount := by
  constructor
  · rintro ⟨r, hr⟩
    have heffect := effect_of_perform hr
    generalize ((execute caller (.removeLiquidity mint amount)).perform env l).state = l'
      at heffect
    cases heffect with
    | execute effect =>
      cases effect with
      | removeLiquidity found =>
        obtain ⟨hpool, hposition⟩ := LiquidityAccounts.resolve_eq_ok found.resolved
        refine ⟨found.amount_ne, _, _, ⟨?_, found.pool_mint, ?_⟩,
          Pool.settles_of_removeLiquidity found.removed⟩
        · rw [Ledger.pool?_of_account hpool, found.pool_found]
        · rw [Ledger.position?_of_account hpool hposition, found.position_found]
  · rintro ⟨amount_ne, p, x, ⟨found, pool_mint, position_found⟩, held, balance, settles⟩
    obtain ⟨b, hb, -⟩ := Option.bind_eq_some_iff.1 position_found
    obtain ⟨a, ha⟩ := LiquidityAccounts.exists_resolve hb
    obtain ⟨hpool, hposition⟩ := LiquidityAccounts.resolve_eq_ok ha
    rw [Ledger.pool?_of_account hpool] at found
    rw [Ledger.position?_of_account hpool hposition] at position_found
    obtain ⟨q, y, removed⟩ := Pool.exists_removeLiquidity held balance settles
    have hexec : (removeLiquidity caller a mint amount).exec l =
        .ok (.liquidityRemoved mint caller.sender amount y.amount,
          (l.put a.pool.address q).put a.position.address y) := by
      unfold CustodyBridge.removeLiquidity
      rw [Program.exec_bind_of_ok (Position.exec_runRemove_eq_ok.2
        ⟨amount_ne, p, ⟨found, pool_mint⟩, x, position_found, q, removed, rfl⟩)]
      rfl
    exact ⟨_, (perform_of_ok (operation_removeLiquidity ha) hexec).1⟩

/-- In every run, a provider takes out whatever the position and the pool have, as long as the
reward settles; which it does while the pending reward is less than the greatest amount. Each
refusal tells its reason, and changes nothing. -/
theorem exits_decided (env : Environment) (calls : List Call) (caller : Caller) (mint : Address)
    (amount : UInt64) :
    let l := performAll env calls SortedMap.empty
    let run := (execute caller (.removeLiquidity mint amount)).perform env l
    ((∃ r, run.outcome = .ok r) ↔ amount ≠ 0 ∧ ∃ p x, l.Provides env mint caller.sender p x ∧
      amount ≤ x.amount ∧ amount ≤ p.balance ∧ p.Settles x amount) ∧
    (∀ e, run.outcome = .error e →
      l.RefusesExit env mint caller.sender amount e ∧ run.state = l) ∧
    ∀ p x reward, l.Provides env mint caller.sender p x →
      l.reward? env mint caller.sender = some reward → reward < Amount.max →
        amount ≤ x.amount → p.Settles x amount := by
  intro l run
  have readable : l.Readable := (sound_history env calls).readable
  refine ⟨perform_removeLiquidity_iff, fun e he => ⟨refusesExit_of_perform readable he, ?_⟩, ?_⟩
  · refine state_of_failure fun r hr => ?_
    rw [show run.outcome = .ok r from hr] at he
    cases he
  · intro p x reward provides hreward hless hle
    exact Pool.settles_of_pendingReward (provides.reward?_eq.symm.trans hreward) hless hle

end Call

end calls

/-! ## An exit that overflows -/

namespace Sample

def saver : Caller := ⟨provider.sender, [⟨mint, 1⟩]⟩

/-- A release of the greatest amount. -/
def releaseAll : Call :=
  .execute admin (.releaseCustody chain token mint recipient 18446744073709551615)

/-- The whole of two releases is kept as a fee, for a liquidity of one. -/
def spreadCalls : List Call := calls.take 2 ++ [
  .execute saver (.addLiquidity mint 1), .execute admin (.setPoolFeeRate mint 1000000),
  releaseAll, releaseAll]

def savedPool : Pool := { openedPool with balance := 1, liquidity := 1 }

def savedPosition : Position := { Position.opened mint provider.sender with amount := 1 }

def saved : Ledger :=
  (opened.put poolAccount.address savedPool).put positionAccount.address savedPosition

def keepingPool : Pool := { savedPool with feeRate := 1000000 }

def keeping : Ledger := saved.put poolAccount.address keepingPool

def spreadPool (ratio : Word128) : Pool :=
  { keepingPool with totalReleased := Amount.max, ratio, totalEarns := Amount.max }

def spreadOnce : Ledger :=
  keeping.put poolAccount.address (spreadPool 79228162514264337589248983040)

def spreadTwice : Ledger :=
  spreadOnce.put poolAccount.address (spreadPool 158456325028528675178497966080)

theorem exec_save : (addLiquidity saver ⟨poolAccount, positionAccount⟩ mint 1).exec opened =
    .ok (.liquidityAdded mint provider.sender 1 1, saved) := by
  simp [addLiquidity, opened, initialized, Position.exec_runAdd_eq_ok, mapError_eq_ok]
  exact ⟨⟨(), by decide +kernel⟩, savedPosition,
    ⟨rfl, fun _ => rfl, savedPool, by decide +kernel, rfl⟩, rfl, rfl⟩

theorem exec_keep : (setPoolFeeRate .small admin poolAccount mint 1000000).exec saved =
    .ok (.poolFeeRateSet mint savedPool.feeRate 1000000, keeping) := by
  simp [setPoolFeeRate, saved, opened, initialized]
  exact ⟨by decide, rfl, rfl⟩

theorem exec_release {l : Ledger} {p q : Pool} {amount : Word128} {n : UInt64} {r : Pool.Release}
    (config : l.record? BridgeConfig Environment.small.bridgeConfig.address =
      some ⟨admin.sender, 255⟩)
    (relation : l.record? TokenRelation tokenAccount.address =
      some ⟨chain, token, 6, mint, 6, poolAccount⟩)
    (found : l.record? Pool poolAccount.address = some p) (pool_mint : p.mint = mint)
    (converted : Decimals.convert? amount 6 6 = some n) (n_ne : n ≠ 0)
    (released : p.release n = .ok (q, r)) :
    (releaseCustody .small admin ⟨tokenAccount, poolAccount⟩ chain token mint recipient
      amount).exec l = .ok (.custodyReleased chain mint recipient amount n r,
        l.put poolAccount.address q) := by
  simp [releaseCustody, config, relation, found, pool_mint, converted]
  exact ⟨n_ne, q, released, rfl⟩

theorem exec_releaseAll {l : Ledger} {p q : Pool}
    (config : l.record? BridgeConfig Environment.small.bridgeConfig.address =
      some ⟨admin.sender, 255⟩)
    (relation : l.record? TokenRelation tokenAccount.address =
      some ⟨chain, token, 6, mint, 6, poolAccount⟩)
    (found : l.record? Pool poolAccount.address = some p) (pool_mint : p.mint = mint)
    (released : p.release Amount.max = .ok (q, ⟨0, Amount.max, 1⟩)) :
    (releaseCustody .small admin ⟨tokenAccount, poolAccount⟩ chain token mint recipient
      18446744073709551615).exec l =
        .ok (.custodyReleased chain mint recipient 18446744073709551615 Amount.max
          ⟨0, Amount.max, 1⟩, l.put poolAccount.address q) :=
  exec_release config relation found pool_mint (by decide +kernel) (by decide) released

theorem operation_save : (Call.execute saver (.addLiquidity mint 1)).operation .small =
    .ok ⟨LiquidityAccounts.access ⟨poolAccount, positionAccount⟩,
      addLiquidity saver ⟨poolAccount, positionAccount⟩ mint 1⟩ := by
  simp only [Call.operation, Command.operation, LiquidityAccounts.resolve, except_bind_eq_ok]
  exact ⟨_, ⟨_, account_pool, _, account_position, rfl⟩, rfl⟩

theorem operation_keep : (Call.execute admin (.setPoolFeeRate mint 1000000)).operation .small =
    .ok ⟨poolAccess .small poolAccount,
      setPoolFeeRate .small admin poolAccount mint 1000000⟩ := by
  simp only [Call.operation, Command.operation, except_bind_eq_ok]
  exact ⟨_, account_pool, rfl⟩

theorem resolve_token :
    TokenAccounts.resolve .small chain token mint = .ok ⟨tokenAccount, poolAccount⟩ := by
  simp only [TokenAccounts.resolve, except_bind_eq_ok]
  exact ⟨_, account_token, _, account_pool, rfl⟩

theorem run_spread : Call.performAll .small spreadCalls SortedMap.empty = spreadTwice := by
  have hsecond := exec_releaseAll (l := spreadOnce)
    (by simp [spreadOnce, keeping, saved, opened, initialized])
    (by simp [spreadOnce, keeping, saved, opened]) Ledger.record?_put_self rfl
    (q := spreadPool 158456325028528675178497966080) (by decide +kernel)
  have hfirst := exec_releaseAll (l := keeping)
    (by simp [keeping, saved, opened, initialized]) (by simp [keeping, saved, opened])
    Ledger.record?_put_self rfl
    (q := spreadPool 79228162514264337589248983040) (by decide +kernel)
  have honce := Call.run_cons (Call.operation_release resolve_token) hsecond
    (Call.run_nil .small spreadTwice)
  have hkeeping := Call.run_cons (Call.operation_release resolve_token) hfirst honce
  have hsaved := Call.run_cons operation_keep exec_keep hkeeping
  have hopened := Call.run_cons operation_save exec_save hsaved
  have hinitialized := Call.run_cons operation_setTokenRelation exec_setTokenRelation hopened
  exact (Call.run_cons rfl exec_instantiate hinitialized).2

end Sample

/-- Fees of two full releases, spread over a liquidity of one, are more than an amount: the one unit
that the position and the pool have cannot be taken out. -/
theorem Call.exit_overflows :
    let l := performAll .small Sample.spreadCalls SortedMap.empty
    (∃ p x, l.Provides .small Sample.mint Sample.saver.sender p x ∧
      x.amount = 1 ∧ p.balance = 1) ∧
      ((execute Sample.saver (.removeLiquidity Sample.mint 1)).perform .small l).outcome =
        .error .amountOverflow := by
  intro l
  have hl : l = Sample.spreadTwice := Sample.run_spread
  have pool_found : Sample.spreadTwice.record? Pool Sample.poolAccount.address =
      some (Sample.spreadPool 158456325028528675178497966080) := Ledger.record?_put_self
  have position_found : Sample.spreadTwice.record? Position Sample.positionAccount.address =
      some Sample.savedPosition := by
    simp [Sample.spreadTwice, Sample.spreadOnce, Sample.keeping, Sample.saved]
  rw [hl]
  constructor
  · refine ⟨Sample.spreadPool 158456325028528675178497966080, Sample.savedPosition,
      ⟨?_, rfl, ?_⟩, rfl, rfl⟩
    · exact (Ledger.pool?_of_account Sample.account_pool).trans pool_found
    · exact (Ledger.position?_of_account Sample.account_pool Sample.account_position).trans
        position_found
  · have ha : LiquidityAccounts.resolve .small Sample.mint Sample.saver.sender =
        .ok ⟨Sample.poolAccount, Sample.positionAccount⟩ := by
      simp only [LiquidityAccounts.resolve, except_bind_eq_ok]
      exact ⟨_, Sample.account_pool, _, Sample.account_position, rfl⟩
    have hexec : (CustodyBridge.removeLiquidity Sample.saver
        ⟨Sample.poolAccount, Sample.positionAccount⟩ Sample.mint 1).exec Sample.spreadTwice =
          .error .amountOverflow := by
      simp [CustodyBridge.removeLiquidity, Position.runRemove, pool_found, position_found]
      exact ⟨rfl, by decide +kernel⟩
    rw [(perform_eq (operation_removeLiquidity ha)).1, hexec]
    rfl

end CustodyBridge
