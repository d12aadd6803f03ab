import CustodyBridge.Proofs.Bridge.Exits
import CustodyBridge.Proofs.Pool.Provision

/-!
# Rewards of providers over their own calls

A provider adds liquidity, or takes it out, in any number of calls. Each call moves the reward by at
most one unit, and it can: floored apart, two deposits earn more than one, and so can two parts of a
position. Where the ratio of the pool is whole the reward stays.
-/

namespace CustodyBridge

/-! ## What is owed -/

namespace Ledger

/-- The reward of a provider as a number. A position that is not there is owed nothing. -/
def owed (env : Environment) (l : Ledger) (mint provider : Address) : Nat :=
  (l.pool? env mint).elim 0 fun p =>
    ((l.position? env mint provider).getD (.opened mint provider)).owed p.ratio.toNat

/-- The ratio of a pool, if it is there, has no fraction of a unit. -/
def WholeRatio (env : Environment) (l : Ledger) (mint : Address) : Prop :=
  ∀ p, l.pool? env mint = some p → Pool.scale ∣ p.ratio.toNat

/-- Between two ledgers the ratio of a pool has stayed, and what a provider is owed has moved by no
more than given numbers; not at all, if the ratio is whole. -/
structure Drifts (env : Environment) (mint provider : Address) (lost gained : Nat)
    (l l' : Ledger) : Prop where
  ratio : (l'.pool? env mint).map (·.ratio) = (l.pool? env mint).map (·.ratio)
  le : l'.owed env mint provider ≤ l.owed env mint provider + gained
  ge : l.owed env mint provider ≤ l'.owed env mint provider + lost
  whole : l.WholeRatio env mint → l'.owed env mint provider = l.owed env mint provider

variable {env : Environment} {mint provider : Address} {l l' l'' : Ledger} {p q : Pool}
  {x y : Position} {lost gained lost' gained' : Nat} {reward : UInt64}

theorem owed_of_pool? (hp : l.pool? env mint = some p) :
    l.owed env mint provider =
      ((l.position? env mint provider).getD (.opened mint provider)).owed p.ratio.toNat := by
  rw [owed, hp, Option.elim_some]

theorem owed_of_found (hp : l.pool? env mint = some p)
    (hx : l.position? env mint provider = some x) :
    l.owed env mint provider = x.owed p.ratio.toNat := by
  rw [owed_of_pool? hp, hx, Option.getD_some]

theorem owed_of_reward? (h : l.reward? env mint provider = some reward) :
    l.owed env mint provider = reward.toNat := by
  simp only [reward?, Option.bind_eq_some_iff] at h
  obtain ⟨p, hp, x, hx, hreward⟩ := h
  rw [owed_of_found hp hx, Position.owed_of_pendingReward hreward]

theorem owed_of_no_position (h : l.position? env mint provider = none) :
    l.owed env mint provider = 0 := by
  rw [owed, h, Option.getD_none]
  cases l.pool? env mint with
  | none => rfl
  | some p => exact Position.owed_opened _ _ _

theorem drifts_refl : l.Drifts env mint provider lost gained l where
  ratio := rfl
  le := Nat.le_add_right _ _
  ge := Nat.le_add_right _ _
  whole _ := rfl

theorem Drifts.trans (h : l.Drifts env mint provider lost gained l')
    (h' : l'.Drifts env mint provider lost' gained' l'') :
    l.Drifts env mint provider (lost + lost') (gained + gained') l'' where
  ratio := h'.ratio.trans h.ratio
  le := by
    have := h.le
    have := h'.le
    omega
  ge := by
    have := h.ge
    have := h'.ge
    omega
  whole whole := by
    refine (h'.whole fun q hq => ?_).trans (h.whole whole)
    have hratio := h.ratio
    rw [hq, Option.map_some, eq_comm, Option.map_eq_some_iff] at hratio
    obtain ⟨p, hp, hsame⟩ := hratio
    exact hsame ▸ whole p hp

end Ledger

/-! ## One call -/

section effects

variable {env : Environment} {mint provider : Address} {l l' : Ledger} {caller : Caller}
  {amount : UInt64} {r : Receipt}

theorem added_of_effect (h : Command.Effect env caller l (.addLiquidity mint amount) r l') :
    ∃ p q y, l.pool? env mint = some p ∧ l'.pool? env mint = some q ∧
      l'.position? env mint caller.sender = some y ∧
      p.addLiquidity ((l.position? env mint caller.sender).getD (.opened mint caller.sender))
        amount = .ok (q, y) := by
  cases h with
  | addLiquidity found =>
    obtain ⟨hpool, hposition⟩ := LiquidityAccounts.resolve_eq_ok found.resolved
    simp only [Ledger.pool?_of_account hpool, Ledger.position?_of_account hpool hposition]
    exact ⟨_, _, _, found.pool_found, by simp, by simp, found.added⟩

theorem removed_of_effect (h : Command.Effect env caller l (.removeLiquidity mint amount) r l') :
    ∃ p q x y, l.Provides env mint caller.sender p x ∧ l'.pool? env mint = some q ∧
      l'.position? env mint caller.sender = some y ∧ p.removeLiquidity x amount = .ok (q, y) := by
  cases h with
  | removeLiquidity found =>
    obtain ⟨hpool, hposition⟩ := LiquidityAccounts.resolve_eq_ok found.resolved
    refine ⟨_, _, _, _, ⟨?_, found.pool_mint, ?_⟩, ?_, ?_, found.removed⟩
    · exact (Ledger.pool?_of_account hpool).trans found.pool_found
    · exact (Ledger.position?_of_account hpool hposition).trans found.position_found
    · exact (Ledger.pool?_of_account hpool).trans (by simp)
    · exact (Ledger.position?_of_account hpool hposition).trans (by simp)

theorem drifts_of_add (h : Command.Effect env caller l (.addLiquidity mint amount) r l') :
    l.Drifts env mint caller.sender 0 1 l' := by
  obtain ⟨p, q, y, hp, hq, hy, added⟩ := added_of_effect h
  have hratio : q.ratio = p.ratio := by rw [← Pool.eq_of_addLiquidity added]
  have before : l.owed env mint caller.sender = _ := Ledger.owed_of_pool? hp
  have after := Ledger.owed_of_found hq hy
  have howed := (Position.owed_of_add added).2
  rw [hratio] at after
  constructor
  case ratio => rw [hp, hq, Option.map_some, Option.map_some, hratio]
  case le =>
    rw [after, before, howed]
    split <;> omega
  case ge =>
    rw [after, before, howed]
    omega
  case whole =>
    intro whole
    rw [after, before, Position.owed_of_add_whole added (whole p hp)]

theorem drifts_of_remove (h : Command.Effect env caller l (.removeLiquidity mint amount) r l') :
    l.Drifts env mint caller.sender 1 1 l' := by
  obtain ⟨p, q, x, y, provides, hq, hy, removed⟩ := removed_of_effect h
  have hratio : q.ratio = p.ratio := by rw [← Pool.eq_of_removeLiquidity removed]
  have before := Ledger.owed_of_found provides.pool provides.position
  have after := Ledger.owed_of_found hq hy
  obtain ⟨hgain, hkeep, hloss⟩ := Position.owed_of_remove removed
  rw [hratio] at after
  constructor
  case ratio => rw [provides.pool, hq, Option.map_some, Option.map_some, hratio]
  case le =>
    rw [after, before]
    by_cases short : x.FallsShort p.ratio.toNat amount.toNat
    · exact (hgain short).le
    · exact (hkeep short).trans (Nat.le_succ _)
  case ge =>
    rw [after, before]
    exact hloss
  case whole =>
    intro whole
    rw [after, before, Position.owed_of_remove_whole removed (whole p provides.pool)]

end effects

/-! ## Calls of a provider -/

/-- A call in which a provider makes a command of an amount. -/
def Call.Makes (provider : Address) (command : UInt64 → Command) (c : Call) : Prop :=
  ∃ caller amount, caller.sender = provider ∧ c = .execute caller (command amount)

namespace Call

variable {env : Environment} {mint provider : Address} {command : UInt64 → Command}
  {lost gained : Nat}

theorem performAll_cons (c : Call) (rest : List Call) (l : Ledger) :
    performAll env (c :: rest) l = performAll env rest (c.perform env l).state := rfl

theorem drifts_performAll
    (one : ∀ (caller : Caller) amount (l l' : Ledger) r, caller.sender = provider →
      Command.Effect env caller l (command amount) r l' →
      l.Drifts env mint provider lost gained l')
    {calls : List Call} (makes : ∀ c ∈ calls, c.Makes provider command) (l : Ledger) :
    l.Drifts env mint provider (lost * calls.length) (gained * calls.length)
      (performAll env calls l) := by
  induction calls generalizing l with
  | nil => exact Ledger.drifts_refl
  | cons c rest ih =>
    rw [List.forall_mem_cons] at makes
    obtain ⟨⟨caller, amount, hsender, rfl⟩, hrest⟩ := makes
    -- A call that fails changes nothing, which is within every bound.
    have hone : l.Drifts env mint provider lost gained
        ((execute caller (command amount)).perform env l).state := by
      obtain ⟨r, heffect⟩ | hsame := effect_or_unchanged env (execute caller (command amount)) l
      · cases heffect with
        | execute effect => exact one caller amount l _ r hsender effect
      · rw [hsame]
        exact Ledger.drifts_refl
    rw [List.length_cons, Nat.add_comm, Nat.mul_add, Nat.mul_add, Nat.mul_one, Nat.mul_one]
    exact hone.trans (ih hrest _)

theorem drifts_of_deposits {calls : List Call}
    (makes : ∀ c ∈ calls, c.Makes provider (.addLiquidity mint)) (l : Ledger) :
    l.Drifts env mint provider 0 calls.length (performAll env calls l) := by
  have h : l.Drifts env mint provider (0 * calls.length) (1 * calls.length) _ :=
    drifts_performAll (fun _ _ _ _ _ hsender effect => hsender ▸ drifts_of_add effect) makes l
  rwa [Nat.zero_mul, Nat.one_mul] at h

theorem drifts_of_removals {calls : List Call}
    (makes : ∀ c ∈ calls, c.Makes provider (.removeLiquidity mint)) (l : Ledger) :
    l.Drifts env mint provider calls.length calls.length (performAll env calls l) := by
  have h : l.Drifts env mint provider (1 * calls.length) (1 * calls.length) _ :=
    drifts_performAll (fun _ _ _ _ _ hsender effect => hsender ▸ drifts_of_remove effect) makes l
  rwa [Nat.one_mul] at h

theorem owed_le_of_deposits {calls : List Call} {l : Ledger}
    (makes : ∀ c ∈ calls, c.Makes provider (.addLiquidity mint))
    (none : l.position? env mint provider = none) :
    (performAll env calls l).owed env mint provider ≤ calls.length - 1 := by
  -- Up to the first deposit that succeeds there is no position, and behind it one unit for a call.
  induction calls with
  | nil => exact (Ledger.owed_of_no_position none).le
  | cons c rest ih =>
    rw [List.forall_mem_cons] at makes
    obtain ⟨⟨caller, amount, rfl, rfl⟩, hrest⟩ := makes
    rw [performAll_cons, List.length_cons]
    obtain ⟨r, heffect⟩ | hsame :=
      effect_or_unchanged env (execute caller (.addLiquidity mint amount)) l
    · cases heffect with
      | execute effect =>
        obtain ⟨p, q, y, -, hq, hy, added⟩ := added_of_effect effect
        have hratio : q.ratio = p.ratio := by rw [← Pool.eq_of_addLiquidity added]
        have howed := (Position.owed_of_add added).2
        rw [none, Option.getD_none, Position.owed_opened,
          if_neg (Position.not_completes_opened _ _ _ _), ← hratio,
          ← Ledger.owed_of_found hq hy] at howed
        have drifts : Ledger.Drifts env mint caller.sender 0 rest.length
            ((execute caller (.addLiquidity mint amount)).perform env l).state _ :=
          drifts_of_deposits hrest _
        have hle := drifts.le
        omega
    · rw [hsame]
      have := ih hrest
      omega

/-! ## Deposits -/

/-- On every ledger, a deposit leaves what the position was owed, and one unit more exactly where it
completes one; which is then the reward, if it is an amount. So any number of deposits in a row
lower the reward by nothing and raise it by at most one unit each, the opening one excepted, and not
at all if the ratio is whole. -/
theorem rewards_of_deposits (env : Environment) (mint provider : Address) (l : Ledger) :
    (∀ caller amount r, caller.sender = provider →
      ((execute caller (.addLiquidity mint amount)).perform env l).outcome = .ok r →
      ∃ p x, l.pool? env mint = some p ∧
        (l.position? env mint provider).getD (.opened mint provider) = x ∧
        (∀ reward, l.reward? env mint provider = some reward →
          x.owed p.ratio.toNat = reward.toNat) ∧
        Ledger.reward? env ((execute caller (.addLiquidity mint amount)).perform env l).state mint
            provider =
          if (x.amount.toNat + amount.toNat) * p.ratio.toNat / Pool.scale < UInt64.size then
            Amount.ofNat? (x.owed p.ratio.toNat +
              if x.Completes p.ratio.toNat amount.toNat then 1 else 0)
          else none) ∧
    ∀ calls : List Call, (∀ c ∈ calls, c.Makes provider (.addLiquidity mint)) →
      ∀ reward', (performAll env calls l).reward? env mint provider = some reward' →
        (∀ reward, l.reward? env mint provider = some reward →
          reward ≤ reward' ∧ reward'.toNat ≤ reward.toNat + calls.length ∧
            (l.WholeRatio env mint → reward' = reward)) ∧
        (l.position? env mint provider = none → reward'.toNat ≤ calls.length - 1) := by
  constructor
  · rintro caller amount r rfl hr
    cases effect_of_perform hr with
    | execute effect =>
      obtain ⟨p, q, y, hp, hq, hy, added⟩ := added_of_effect effect
      have hratio : q.ratio = p.ratio := by rw [← Pool.eq_of_addLiquidity added]
      obtain ⟨hheld, howed⟩ := Position.owed_of_add added
      refine ⟨p, _, hp, rfl, fun reward hreward => ?_, ?_⟩
      · rw [← Ledger.owed_of_pool? hp, Ledger.owed_of_reward? hreward]
      · rw [Ledger.reward?, hq, Option.bind_some, hy, Option.bind_some,
          Position.pendingReward?_eq_owed, hratio, hheld, howed]
  · intro calls makes reward' after
    have hafter := Ledger.owed_of_reward? after
    refine ⟨fun reward before => ?_, fun none => hafter ▸ owed_le_of_deposits makes none⟩
    have drifts : l.Drifts env mint provider 0 calls.length _ := drifts_of_deposits makes l
    have hbefore := Ledger.owed_of_reward? before
    refine ⟨?_, hbefore ▸ hafter ▸ drifts.le, fun whole => UInt64.toNat_inj.1 ?_⟩
    · rw [UInt64.le_iff_toNat_le, ← hbefore, ← hafter]
      exact drifts.ge
    · rw [← hbefore, ← hafter, drifts.whole whole]

/-! ## Removals -/

/-- On every ledger, a removal raises the reward exactly where the rest of the position falls short
of its debt, by one unit, and lowers it by at most one. It leaves the reward where the position is
taken out whole. So any number of removals in a row move it by at most one unit each, and not at all
if the ratio is whole. -/
theorem rewards_of_removals (env : Environment) (mint provider : Address) (l : Ledger) :
    (∀ caller amount r, caller.sender = provider →
      ((execute caller (.removeLiquidity mint amount)).perform env l).outcome = .ok r →
      ∃ p x, l.Provides env mint provider p x ∧
        ∀ reward reward', l.reward? env mint provider = some reward →
          Ledger.reward? env ((execute caller (.removeLiquidity mint amount)).perform env l).state
            mint provider = some reward' →
          (x.FallsShort p.ratio.toNat amount.toNat → reward'.toNat = reward.toNat + 1) ∧
          (¬ x.FallsShort p.ratio.toNat amount.toNat → reward' ≤ reward) ∧
          (amount = x.amount → reward' = reward)) ∧
    ∀ calls : List Call, (∀ c ∈ calls, c.Makes provider (.removeLiquidity mint)) →
      ∀ reward reward', l.reward? env mint provider = some reward →
        (performAll env calls l).reward? env mint provider = some reward' →
        reward'.toNat ≤ reward.toNat + calls.length ∧
          reward.toNat ≤ reward'.toNat + calls.length ∧
          (l.WholeRatio env mint → reward' = reward) := by
  constructor
  · rintro caller amount r rfl hr
    cases effect_of_perform hr with
    | execute effect =>
      obtain ⟨p, q, x, y, provides, hq, hy, removed⟩ := removed_of_effect effect
      refine ⟨p, x, provides, fun reward reward' before after => ?_⟩
      have hratio : q.ratio = p.ratio := by rw [← Pool.eq_of_removeLiquidity removed]
      have hbefore := Ledger.owed_of_reward? before
      have hafter := Ledger.owed_of_reward? after
      rw [Ledger.owed_of_found provides.pool provides.position] at hbefore
      rw [Ledger.owed_of_found hq hy, hratio] at hafter
      obtain ⟨hgain, hkeep, -⟩ := Position.owed_of_remove removed
      rw [hbefore, hafter] at hgain hkeep
      refine ⟨hgain, fun kept => UInt64.le_iff_toNat_le.2 (hkeep kept), ?_⟩
      rintro rfl
      apply UInt64.toNat_inj.1
      rw [← hbefore, ← hafter, Position.owed_of_remove_all removed]
  · intro calls makes reward reward' before after
    have drifts : l.Drifts env mint provider calls.length calls.length _ :=
      drifts_of_removals makes l
    have hbefore := Ledger.owed_of_reward? before
    have hafter := Ledger.owed_of_reward? after
    refine ⟨hbefore ▸ hafter ▸ drifts.le, hbefore ▸ hafter ▸ drifts.ge,
      fun whole => UInt64.toNat_inj.1 ?_⟩
    rw [← hbefore, ← hafter, drifts.whole whole]

end Call

/-! ## Fractions that add up -/

namespace Sample

def latecomer : Address := ⟨Bytes.ofNat 32 29, by simp⟩

/-- The provider joins behind the release, at a ratio of a 64th. -/
def joining (amount : UInt64) : Caller := ⟨latecomer, [⟨mint, amount⟩]⟩

def lateAccount : Account := ⟨⟨Bytes.ofNat 32
  385659806585260717846276691557766565514717760301055360223540564367775819804, by simp⟩, 255⟩

def late (amount debt remaining : UInt64) : Position :=
  { Position.opened mint latecomer with amount, debt, remaining }

def joinedPool (amount : UInt64) : Pool :=
  { releasedPool with balance := 65 + amount, liquidity := 64 + amount }

/-- A ledger with late liquidity in the pool. -/
def joined (l : Ledger) (amount debt remaining : UInt64) : Ledger :=
  (l.put poolAccount.address (joinedPool amount)).put lateAccount.address
    (late amount debt remaining)

theorem account_late :
    Environment.small.account (.position poolAccount.address latecomer) = .ok lateAccount := by
  decide +kernel

theorem resolve_late :
    LiquidityAccounts.resolve .small mint latecomer = .ok ⟨poolAccount, lateAccount⟩ := by
  simp only [LiquidityAccounts.resolve, except_bind_eq_ok]
  exact ⟨_, account_pool, _, account_late, rfl⟩

theorem joined_pool (l : Ledger) (amount debt remaining : UInt64) :
    (joined l amount debt remaining).record? Pool poolAccount.address =
      some (joinedPool amount) := by
  simp [joined]

theorem joined_late (l : Ledger) (amount debt remaining : UInt64) :
    (joined l amount debt remaining).record? Position lateAccount.address =
      some (late amount debt remaining) :=
  Ledger.record?_put_self

theorem reward_joined (l : Ledger) (amount debt remaining : UInt64) :
    (joined l amount debt remaining).reward? .small mint latecomer =
      (late amount debt remaining).pendingReward? (joinedPool amount) := by
  rw [Ledger.reward?, Ledger.pool?_of_account account_pool, joined_pool, Option.bind_some,
    Ledger.position?_of_account account_pool account_late, joined_late, Option.bind_some]

theorem exec_join {l : Ledger} {p : Pool} {x : Position} {n amount debt remaining : UInt64}
    (found : l.record? Pool poolAccount.address = some p) (pool_mint : p.mint = mint)
    (readable : l.Readable)
    (position : (l.record? Position lateAccount.address).getD (.opened mint latecomer) = x)
    (funds : Funds.verify [⟨mint, n⟩] [⟨mint, n⟩] = .ok ()) (n_ne : n ≠ 0)
    (adds : p.addLiquidity x n = .ok (joinedPool amount, late amount debt remaining)) :
    (addLiquidity (joining n) ⟨poolAccount, lateAccount⟩ mint n).exec l =
      .ok (.liquidityAdded mint latecomer n amount, joined l amount debt remaining) := by
  simp [addLiquidity, Position.exec_runAdd_eq_ok, mapError_eq_ok]
  exact ⟨⟨(), funds⟩, _, ⟨n_ne, p, ⟨found, pool_mint⟩, readable.legible, _, position ▸ adds, rfl⟩,
    rfl, rfl⟩

theorem operation_join (n : UInt64) :
    (Call.execute (joining n) (.addLiquidity mint n)).operation .small =
      .ok ⟨LiquidityAccounts.access ⟨poolAccount, lateAccount⟩,
        addLiquidity (joining n) ⟨poolAccount, lateAccount⟩ mint n⟩ := by
  simp only [Call.operation, Command.operation, joining, resolve_late]
  rfl

theorem released_late : released.record? Position lateAccount.address = none := by
  have hne : positionAccount.address ≠ lateAccount.address := by decide +kernel
  simp [released, rated, proposed, related, added, opened, initialized, Ledger.record?_put, hne]
  rfl

theorem run_join {n debt : UInt64} (funds : Funds.verify [⟨mint, n⟩] [⟨mint, n⟩] = .ok ())
    (n_ne : n ≠ 0)
    (adds : releasedPool.addLiquidity (.opened mint latecomer) n =
      .ok (joinedPool n, late n debt 0)) :
    Call.performAll .small (calls ++ [.execute (joining n) (.addLiquidity mint n)])
      SortedMap.empty = joined released n debt 0 := by
  have pool_found : released.record? Pool poolAccount.address = some releasedPool :=
    Ledger.record?_put_self
  have readable : released.Readable := run.2 ▸ (Call.sound_history .small calls).readable
  have hjoin := exec_join pool_found rfl readable (by rw [released_late]; rfl) funds n_ne adds
  rw [Call.performAll_append, run.2]
  exact (Call.run_cons (operation_join n) hjoin (Call.run_nil _ _)).2

/-- The debt of 32 is 32 / 64, floored to 0; what 64 earn is 1. -/
theorem perform_join_again (readable : (joined released 32 0 0).Readable) :
    let run := (Call.execute (joining 32) (.addLiquidity mint 32)).perform .small
      (joined released 32 0 0)
    run.outcome = .ok (.liquidityAdded mint latecomer 32 64) ∧
      run.state = joined (joined released 32 0 0) 64 0 0 := by
  have hexec : (addLiquidity (joining 32) ⟨poolAccount, lateAccount⟩ mint 32).exec
      (joined released 32 0 0) = .ok (.liquidityAdded mint latecomer 32 64,
        joined (joined released 32 0 0) 64 0 0) :=
    exec_join (joined_pool released 32 0 0) rfl readable (by rw [joined_late]) (by decide +kernel)
      (by decide) (by decide +kernel)
  exact Call.perform_of_ok (operation_join 32) hexec

/-- The debt of 96 is 96 / 64, floored to 1. Of it, 64 take nothing with what they have earned. -/
theorem perform_leave :
    let run := (Call.execute (joining 96) (.removeLiquidity mint 64)).perform .small
      (joined released 96 1 0)
    run.outcome = .ok (.liquidityRemoved mint latecomer 64 32) ∧
      run.state = joined (joined released 96 1 0) 32 1 1 := by
  have hop : (Call.execute (joining 96) (.removeLiquidity mint 64)).operation .small =
      .ok _ := Call.operation_removeLiquidity resolve_late
  have hexec : (removeLiquidity (joining 96) ⟨poolAccount, lateAccount⟩ mint 64).exec
      (joined released 96 1 0) = .ok (.liquidityRemoved mint latecomer 64 32,
        joined (joined released 96 1 0) 32 1 1) := by
    simp [removeLiquidity]
    exact ⟨late 32 1 1, ⟨_, ⟨joined_pool released 96 1 0, rfl⟩, _, joined_late released 96 1 0,
      joinedPool 32, by decide +kernel, rfl⟩, rfl, rfl⟩
  exact Call.perform_of_ok hop hexec

end Sample

/-- Floored apart, the debts of two late deposits are less than what both earn. -/
theorem Call.deposit_earns :
    let join : Call := .execute (Sample.joining 32) (.addLiquidity Sample.mint 32)
    let l := performAll .small (Sample.calls ++ [join]) SortedMap.empty
    let run := join.perform .small l
    (∃ r, run.outcome = .ok r) ∧
      l.reward? .small Sample.mint Sample.latecomer = some 0 ∧
      Ledger.reward? .small run.state Sample.mint Sample.latecomer = some 1 := by
  have hrun : _ = Sample.joined Sample.released 32 0 0 :=
    Sample.run_join (by decide +kernel) (by decide) (by decide +kernel)
  have readable : (Sample.joined Sample.released 32 0 0).Readable :=
    hrun ▸ (sound_history .small _).readable
  obtain ⟨houtcome, hstate⟩ := Sample.perform_join_again readable
  simp only [hrun, houtcome, hstate, Sample.reward_joined]
  exact ⟨⟨_, rfl⟩, by decide +kernel, by decide +kernel⟩

/-- Floored apart, the parts of a late position are more than the whole. -/
theorem Call.removal_earns :
    let join : Call := .execute (Sample.joining 96) (.addLiquidity Sample.mint 96)
    let l := performAll .small (Sample.calls ++ [join]) SortedMap.empty
    let run := (Call.execute (Sample.joining 96) (.removeLiquidity Sample.mint 64)).perform .small l
    (∃ r, run.outcome = .ok r) ∧
      l.reward? .small Sample.mint Sample.latecomer = some 0 ∧
      Ledger.reward? .small run.state Sample.mint Sample.latecomer = some 1 := by
  have hrun : _ = Sample.joined Sample.released 96 1 0 :=
    Sample.run_join (by decide +kernel) (by decide) (by decide +kernel)
  obtain ⟨houtcome, hstate⟩ := Sample.perform_leave
  simp only [hrun, houtcome, hstate, Sample.reward_joined]
  exact ⟨⟨_, rfl⟩, by decide +kernel, by decide +kernel⟩

end CustodyBridge
