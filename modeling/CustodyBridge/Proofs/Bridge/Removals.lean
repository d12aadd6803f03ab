import CustodyBridge.Proofs.Bridge.Books
import CustodyBridge.Proofs.Bridge.Exits
import CustodyBridge.Proofs.Bridge.Founding
import CustodyBridge.Proofs.Bridge.Proposals

/-!
# Removals of relations

A relation may go when the pool of its mint has nothing outstanding, which is told by two lifetime
totals that stop at the greatest amount. So the guard is exact until that much has been released;
from then on it sees nothing of what is locked.
-/

namespace CustodyBridge

open Movement

/-! ## What is outstanding -/

theorem Pool.Counts.outstanding {p : Pool} {moves : List Movement} (h : p.Counts moves) :
    p.outstanding.toNat = Amount.cap (total locked moves) - Amount.cap (total released moves) := by
  rw [Pool.outstanding, Amount.toNat_subCapped, h.totalLocked, h.totalReleased]

namespace Ledger

/-- What the pool of a mint has outstanding, by its totals. -/
def outstanding (env : Environment) (l : Ledger) (mint : Address) : UInt64 :=
  (l.pool? env mint).elim 0 fun p => if p.mint = mint then p.outstanding else 0

variable {env : Environment} {l : Ledger} {mint a : Address} {p : Pool}

theorem outstanding_of_found (account : env.address? (.pool mint) = some a)
    (found : l.record? Pool a = some p) (pool_mint : p.mint = mint) :
    l.outstanding env mint = p.outstanding := by
  rw [outstanding, pool?, account, Option.bind_some, found, Option.elim_some, if_pos pool_mint]

theorem outstanding_of_none (none : ∀ a p, l.record? Pool a = some p → p.mint ≠ mint) :
    l.outstanding env mint = 0 := by
  rw [outstanding]
  cases hpool : l.pool? env mint with
  | none => rfl
  | some p =>
    obtain ⟨a, -, found⟩ := Option.bind_eq_some_iff.1 hpool
    rw [Option.elim_some, if_neg (none a p found)]

end Ledger

/-- In every run, what is outstanding is the difference of what was locked and what was released,
each up to the greatest amount. -/
theorem Call.toNat_outstanding {env : Environment} {calls : List Call}
    (apart : env.Apart .positions (named env calls)) (mint : Address) :
    let moves := Step.movements env mint (history env calls SortedMap.empty)
    ((performAll env calls SortedMap.empty).outstanding env mint).toNat =
      Amount.cap (total locked moves) - Amount.cap (total released moves) := by
  intro moves
  have traced := traced_history apart
  by_cases opened : ∃ a p, (performAll env calls SortedMap.empty).record? Pool a = some p ∧
      p.mint = mint
  · obtain ⟨a, p, found, rfl⟩ := opened
    have account : env.address? (.pool p.mint) = some a :=
      traced.placed.pool a p (Ledger.get?_pools.trans found)
    rw [Ledger.outstanding_of_found account found rfl]
    exact (traced.book a p (Ledger.get?_pools.trans found)).balanced.pool.outstanding
  · have none : ∀ a p, (performAll env calls SortedMap.empty).record? Pool a = some p →
        p.mint ≠ mint := fun a p found hmint => opened ⟨a, p, found, hmint⟩
    have unmoved : moves = [] :=
      traced.unopened mint fun a p found => none a p (Ledger.get?_pools.symm.trans found)
    rw [Ledger.outstanding_of_none none, unmoved]
    rfl

/-! ## One removal -/

/-- The admin asks for the removal of a relation, and names the mint that it maps to. -/
structure Ledger.Unmaps (env : Environment) (l : Ledger) (sender : Address) (chain : Chain)
    (token mint : Address) : Prop where
  admin : l.holder? env .admin = some sender
  relation : ∃ t, l.relation? env chain token = some t ∧ t.localMint = mint

section calls

variable {env : Environment} {caller : Caller} {l l' : Ledger} {chain : Chain}
  {token mint : Address} {purposes : List Purpose} {r : Receipt}

theorem unmaps_of_effect
    (h : Command.Effect env caller l (.removeTokenRelation chain token mint) r l') :
    l.Unmaps env caller.sender chain token mint ∧ l.outstanding env mint = 0 := by
  cases h with
  | removeTokenRelation found =>
    obtain ⟨htoken, hpool⟩ := TokenAccounts.resolve_eq_ok found.resolved
    refine ⟨⟨?_, found.relation, ?_, found.relation_mint⟩, ?_⟩
    · rw [Ledger.holder?, found.config_found, Option.map_some, found.admin]
    · rw [Ledger.relation?_of_account htoken, found.relation_found]
    · rw [Ledger.outstanding, Ledger.pool?_of_account hpool, found.settled]

namespace Call

theorem operation_removeTokenRelation {a : TokenAccounts}
    (ha : TokenAccounts.resolve env chain token mint = .ok a) :
    (execute caller (.removeTokenRelation chain token mint)).operation env =
      .ok ⟨a.removeAccess env, removeTokenRelation env caller a chain token mint⟩ := by
  simp only [operation, Command.operation, ha]
  rfl

theorem perform_of_unmaps (sound : l.Sound env purposes)
    (unmaps : l.Unmaps env caller.sender chain token mint) :
    ((execute caller (.removeTokenRelation chain token mint)).perform env l).outcome =
      if 0 < l.outstanding env mint then .error (.relationInUse mint (l.outstanding env mint))
      else .ok (.tokenRelationRemoved chain token mint) := by
  obtain ⟨config, config_found, admin⟩ := Option.map_eq_some_iff.1 unmaps.admin
  obtain ⟨t, found, rfl⟩ := unmaps.relation
  obtain ⟨b, hb, relation_found⟩ := Option.bind_eq_some_iff.1 found
  obtain ⟨relation, htoken, rfl⟩ := Environment.address?_eq_some.1 hb
  -- A relation keeps the account of its mint's pool, so the guard reads that pool.
  have hpool := (sound.linked _ t relation_found).account
  have accounts : TokenAccounts.resolve env chain token t.localMint = .ok ⟨relation, t.pool⟩ := by
    simp only [TokenAccounts.resolve, except_bind_eq_ok]
    exact ⟨_, htoken, _, hpool, rfl⟩
  have outstanding : (Pool.runOutstanding t.pool t.localMint).exec l =
      .ok (l.outstanding env t.localMint, l) := by
    refine Pool.exec_runOutstanding_eq_ok.2 ⟨sound.readable.legible, ?_, rfl⟩
    rw [Ledger.outstanding, Ledger.pool?_of_account hpool]
  have hexec : (CustodyBridge.removeTokenRelation env caller ⟨relation, t.pool⟩ chain token
      t.localMint).exec l = if 0 < l.outstanding env t.localMint
        then .error (.relationInUse t.localMint (l.outstanding env t.localMint))
        else .ok (.tokenRelationRemoved chain token t.localMint,
          l.erase TokenRelation relation.address) := by
    unfold CustodyBridge.removeTokenRelation
    rw [Program.exec_bind_of_ok
        (BridgeConfig.exec_authorize_eq_ok.2 ⟨config_found, admin.symm, rfl⟩),
      Program.exec_bind_of_ok (TokenRelation.exec_loadFor_eq_ok.2 ⟨⟨relation_found, rfl⟩, rfl⟩),
      Program.exec_bind_of_ok outstanding, Program.exec_ite, Program.exec_fail,
      Program.exec_bind_of_ok (TokenRelation.exec_runRemove_eq_ok.2 ⟨relation_found, rfl⟩),
      Program.exec_pure]
  rw [(perform_eq (operation_removeTokenRelation accounts)).1, hexec]
  split <;> rfl

/-- Behind every run, a relation is removed exactly where the admin asks for it, for the mint that
it maps to, and the guard sees nothing outstanding: where no more was locked than released, or where
the greatest amount has been released. Otherwise what is outstanding is told, and nothing has
changed. -/
theorem removal_decided {calls : List Call} (apart : env.Apart .positions (named env calls))
    (caller : Caller) (chain : Chain) (token mint : Address) :
    let l := performAll env calls SortedMap.empty
    let moves := Step.movements env mint (history env calls SortedMap.empty)
    let run := (execute caller (.removeTokenRelation chain token mint)).perform env l
    (l.outstanding env mint).toNat =
      Amount.cap (total locked moves) - Amount.cap (total released moves) ∧
    (0 < l.outstanding env mint ↔ total released moves < total locked moves ∧
      total released moves < Amount.max.toNat) ∧
    ((∃ r, run.outcome = .ok r) ↔ l.Unmaps env caller.sender chain token mint ∧
      (total locked moves ≤ total released moves ∨ Amount.max.toNat ≤ total released moves)) ∧
    (l.Unmaps env caller.sender chain token mint → 0 < l.outstanding env mint →
      run.outcome = .error (.relationInUse mint (l.outstanding env mint))) ∧
    ((∀ r, run.outcome ≠ .ok r) → run.state = l) := by
  intro l moves run
  have sound : l.Sound env (named env calls) := sound_history env calls
  have htotals : (l.outstanding env mint).toNat =
      Amount.cap (total locked moves) - Amount.cap (total released moves) :=
    toNat_outstanding apart mint
  have hpositive : 0 < l.outstanding env mint ↔ total released moves < total locked moves ∧
      total released moves < Amount.max.toNat := by
    rw [← Amount.cap_lt_cap_iff, UInt64.lt_iff_toNat_lt, htotals]
    exact Nat.sub_pos_iff_lt
  refine ⟨htotals, hpositive, ⟨?_, ?_⟩, fun unmaps positive => ?_, state_of_failure⟩
  · rintro ⟨r, hr⟩
    cases effect_of_perform hr with
    | execute effect =>
      obtain ⟨unmaps, none⟩ := unmaps_of_effect effect
      refine ⟨unmaps, ?_⟩
      rw [← Nat.not_lt, ← Nat.not_lt, ← not_and_or, ← hpositive, none]
      exact UInt64.lt_irrefl 0
  · rintro ⟨unmaps, settled⟩
    rw [← Nat.not_lt, ← Nat.not_lt, ← not_and_or, ← hpositive] at settled
    exact ⟨_, (perform_of_unmaps sound unmaps).trans (if_neg settled)⟩
  · exact (perform_of_unmaps sound unmaps).trans (if_pos positive)

end Call

end calls

namespace Sample

theorem unmaps_of_found {l : Ledger}
    (config : l.record? BridgeConfig Environment.small.bridgeConfig.address =
      some ⟨admin.sender, 255⟩)
    (relation : l.record? TokenRelation tokenAccount.address =
      some ⟨chain, token, 6, mint, 6, poolAccount⟩) :
    l.Unmaps .small admin.sender chain token mint := by
  constructor
  case admin => rw [Ledger.holder?, config, Option.map_some]
  case relation => exact ⟨_, (Ledger.relation?_of_account account_token).trans relation, rfl⟩

end Sample

namespace Call

theorem removal_decided_sample :
    Environment.small.Apart .positions (named .small Sample.calls) ∧
      Sample.released.Unmaps .small Sample.admin.sender Sample.chain Sample.token Sample.mint ∧
      ∃ r, ((execute Sample.admin (.removeTokenRelation Sample.chain Sample.token
        Sample.mint)).perform .small Sample.released).outcome = .ok r := by
  have hdecided := removal_decided Sample.apart_positions Sample.admin Sample.chain Sample.token
    Sample.mint
  have outstanding : Sample.released.outstanding .small Sample.mint = 0 :=
    (Ledger.outstanding_of_found (Environment.address?_of_account Sample.account_pool)
      Ledger.record?_put_self rfl).trans (by decide +kernel)
  rw [Sample.run.2] at hdecided
  obtain ⟨-, hpositive, hsucceeds, -, -⟩ := hdecided
  have unmaps : Sample.released.Unmaps .small Sample.admin.sender Sample.chain Sample.token
      Sample.mint := by
    apply Sample.unmaps_of_found <;>
      simp [Sample.released, Sample.rated, Sample.proposed, Sample.related, Sample.added,
        Sample.opened, Sample.initialized]
  have settled : ¬ 0 < Sample.released.outstanding .small Sample.mint := by
    rw [outstanding]
    exact UInt64.lt_irrefl 0
  rw [hpositive, not_and_or, Nat.not_lt, Nat.not_lt] at settled
  exact ⟨Sample.apart_positions, unmaps, hsucceeds.2 ⟨unmaps, settled⟩⟩

end Call

/-! ## A guard that sees nothing -/

theorem Call.movements_cons {env : Environment} {c : Call} {rest : List Call} {l l' left : Ledger}
    {mint : Address} {r : Receipt} {moves : List Movement}
    (houtcome : (c.perform env l).outcome = .ok r) (hstate : (c.perform env l).state = l')
    (hrest : Step.movements env mint (history env rest l') = moves ∧
      performAll env rest l' = left) :
    Step.movements env mint (history env (c :: rest) l) =
        (c.movement? mint (l.shares env mint) r).toList ++ moves ∧
      performAll env (c :: rest) l = left := by
  obtain ⟨hhistory, hleft⟩ := history_cons rest hstate
  have hmove : (c.toStep env l).movement? env mint = c.movement? mint (l.shares env mint) r := by
    rw [Step.movement?, Step.receipt?_toStep_eq_some.2 houtcome]
    rfl
  refine ⟨?_, hleft.trans hrest.2⟩
  rw [hhistory, Step.movements, List.filterMap_cons, hmove, ← hrest.1]
  cases c.movement? mint (l.shares env mint) r <;> rfl

namespace Sample

def locker (n : UInt64) : Caller :=
  ⟨sender.sender, [⟨mint, n⟩, ⟨Environment.small.nativeMint, 5⟩]⟩

def lockRequest (n : UInt64) : ProposalRequest := ⟨chain, token, recipient, mint, n, 0⟩

def lockCall (n : UInt64) : Call := .propose (locker n) (lockRequest n)

def releaseCall (n : Word128) : Call :=
  .execute admin (.releaseCustody chain token mint recipient n)

/-- All that the pool can hold beside its liquidity is locked and released, and then a little
more. -/
def drainCalls : List Call := [
  lockCall 18446744073709551551, releaseCall 18446744073709551551, lockCall 100, releaseCall 64]

def filledPool : Pool :=
  { addedPool with balance := 18446744073709551615, totalLocked := 18446744073709551551 }

def drainedPool : Pool :=
  { filledPool with
    balance := 55340232221128718
    totalReleased := 18446744073709551551
    ratio := 3713820117856140767789056
    totalEarns := 55340232221128654 }

/-- Here 36 more are locked than the total tells. -/
def refilledPool : Pool :=
  { drainedPool with balance := 55340232221128818, totalLocked := 18446744073709551615 }

def spentPool : Pool :=
  { refilledPool with balance := 55340232221128754, totalReleased := 18446744073709551615 }

def ready_to_lock {n sum : UInt64} (n_ne : n ≠ 0) (sum_fits : Amount.add? n 5 = some sum)
    (funds : Funds.verify (locker n).funds [⟨mint, n⟩, ⟨Environment.small.nativeMint, 5⟩] =
      .ok ()) :
    (lockRequest n).Ready .small (locker n)
      ⟨chainAccount, tokenAccount, poolAccount, counterAccount⟩ 5 related :=
  ready_related rfl n_ne rfl sum_fits funds

theorem succeeds_fill : (lockCall 18446744073709551551).Succeeds .small related
    (moved filledPool ⟨5, 5, 0⟩ ⟨chain, 1⟩) := by
  have pool_found : related.record? Pool poolAccount.address = some addedPool := by
    simp [related, added]
  have vault_found : related.record? FeeVault Environment.small.feeVault.address =
      some FeeVault.empty := by
    simp [related, added, opened, initialized]
  have counter_missing : related.record? NonceCounter counterAccount.address = none := by
    simp [related, added, opened, initialized]
    rfl
  have legible : related.Legible NonceCounter counterAccount.address := by
    simp [related, added, opened, initialized]
    exact fun _ => rfl
  let staging : ProposalRequest.Staging _ .small _ _ 5 related := {
    ready_to_lock (n := 18446744073709551551) (by decide) rfl (by decide +kernel) with
    pool := addedPool, pool' := filledPool, vault := .empty, vault' := ⟨5, 5, 0⟩, pool_found
    pool_mint := rfl, locked := by decide +kernel, vault_found, credited := by decide +kernel }
  refine succeeds_of_goes ⟨resolve_proposal, staging.toReady, .of_staging staging legible ?_⟩
  rw [counter_missing]
  decide +kernel

theorem succeeds_refill : (lockCall 100).Succeeds .small
    (moved drainedPool ⟨5, 5, 0⟩ ⟨chain, 1⟩) (moved refilledPool ⟨10, 10, 0⟩ ⟨chain, 2⟩) := by
  let ready := ready_to_lock (n := 100) (by decide) rfl (by decide +kernel)
  have locked : drainedPool.lock 100 = .ok refilledPool := by decide +kernel
  have credited : FeeVault.credit ⟨5, 5, 0⟩ 5 = .ok ⟨10, 10, 0⟩ := by decide +kernel
  have advanced : NonceCounter.advance ⟨chain, 1⟩ = .ok ⟨chain, 2⟩ := by decide +kernel
  exact succeeds_moved rfl rfl rfl ready rfl locked credited advanced

theorem perform_release {p q : Pool} {n : UInt64} {r : Pool.Release} (v : FeeVault)
    (c : NonceCounter) (amount : Word128) (pool_mint : p.mint = mint)
    (converted : Decimals.convert? amount 6 6 = some n) (n_ne : n ≠ 0)
    (released : p.release n = .ok (q, r)) :
    ((releaseCall amount).perform .small (moved p v c)).outcome =
        .ok (.custodyReleased chain mint recipient amount n r) ∧
      ((releaseCall amount).perform .small (moved p v c)).state = moved q v c := by
  have hexec := exec_release (l := moved p v c)
    (by simp [moved, related, added, opened, initialized]) (by simp [moved, related, added, opened])
    (by simp [moved]) pool_mint converted n_ne released
  rw [moved_put_pool] at hexec
  exact Call.perform_of_ok (Call.operation_release resolve_token) hexec

theorem movements_from_related {rest : List Call} {moves : List Movement} {left : Ledger}
    (hrest : Step.movements .small mint (Call.history .small rest related) = moves ∧
      Call.performAll .small rest related = left) :
    Step.movements .small mint (Call.history .small (calls.take 4 ++ rest) SortedMap.empty) =
        .add provider.sender 64 :: moves ∧
      Call.performAll .small (calls.take 4 ++ rest) SortedMap.empty = left := by
  obtain ⟨hrelate, hrelated⟩ := Call.perform_of_ok operation_setChainRelation exec_setChainRelation
  obtain ⟨hadd, hadded⟩ := Call.perform_of_ok operation_addLiquidity exec_addLiquidity
  obtain ⟨hopen, hopened⟩ := Call.perform_of_ok operation_setTokenRelation exec_setTokenRelation
  obtain ⟨hstart, hstarted⟩ :=
    Call.perform_of_ok (c := .instantiate admin ⟨255, none, none⟩) rfl exec_instantiate
  exact Call.movements_cons hstart hstarted <| Call.movements_cons hopen hopened <|
    Call.movements_cons hadd hadded <| Call.movements_cons hrelate hrelated hrest

theorem movements_drain : ∃ shared shared',
    Step.movements .small mint
        (Call.history .small (calls.take 4 ++ drainCalls) SortedMap.empty) =
      [.add provider.sender 64, .lock 18446744073709551551,
        .release ⟨18391403841488422897, 55340232221128654, 55340232221128718⟩ shared,
        .lock 100, .release ⟨64, 0, 55340232221128754⟩ shared'] ∧
    Call.performAll .small (calls.take 4 ++ drainCalls) SortedMap.empty =
      moved spentPool ⟨10, 10, 0⟩ ⟨chain, 2⟩ := by
  obtain ⟨⟨r, hfill⟩, hfilled⟩ := succeeds_fill
  obtain ⟨⟨r', hrefill⟩, hrefilled⟩ := succeeds_refill
  have drained : filledPool.release 18446744073709551551 = .ok (drainedPool,
      ⟨18391403841488422897, 55340232221128654, 55340232221128718⟩) := by decide +kernel
  have spent : refilledPool.release 64 = .ok (spentPool, ⟨64, 0, 55340232221128754⟩) := by
    decide +kernel
  obtain ⟨hdrain, hdrained⟩ := perform_release ⟨5, 5, 0⟩ ⟨chain, 1⟩ 18446744073709551551 rfl
    (by decide +kernel) (by decide) drained
  obtain ⟨hspend, hspent⟩ := perform_release ⟨10, 10, 0⟩ ⟨chain, 2⟩ 64 rfl (by decide +kernel)
    (by decide) spent
  exact ⟨_, _, movements_from_related <| Call.movements_cons hfill hfilled <|
    Call.movements_cons hdrain hdrained <| Call.movements_cons hrefill hrefilled <|
    Call.movements_cons hspend hspent ⟨rfl, rfl⟩⟩

theorem unmaps_moved (p : Pool) (v : FeeVault) (c : NonceCounter) :
    (moved p v c).Unmaps .small admin.sender chain token mint :=
  unmaps_of_found (by simp [moved, related, added, opened, initialized])
    (by simp [moved, related, added, opened])

end Sample

/-- Of a mint, 36 more are locked than released. Its totals tell the same, and its relation is
removed. -/
theorem Call.removal_saturates :
    let calls := Sample.calls.take 4 ++ Sample.drainCalls
    let l := performAll .small calls SortedMap.empty
    let moves := Step.movements .small Sample.mint (history .small calls SortedMap.empty)
    (∀ table, Environment.small.Apart table (named .small calls)) ∧
      total locked moves = total released moves + 36 ∧ l.outstanding .small Sample.mint = 0 ∧
      ∃ r, ((execute Sample.admin (.removeTokenRelation Sample.chain Sample.token
        Sample.mint)).perform .small l).outcome = .ok r := by
  intro calls l moves
  obtain ⟨shared, shared', hmoves, hl⟩ := Sample.movements_drain
  have outstanding : (Sample.moved Sample.spentPool ⟨10, 10, 0⟩ ⟨Sample.chain, 2⟩).outstanding
      .small Sample.mint = 0 :=
    (Ledger.outstanding_of_found (p := Sample.spentPool)
      (Environment.address?_of_account Sample.account_pool) (by simp [Sample.moved])
      rfl).trans (by decide +kernel)
  have apart : ∀ table, Environment.small.Apart table (named .small calls) := by
    intro table
    unfold Environment.Apart
    cases table <;> decide +kernel
  have sound : l.Sound .small (named .small calls) := sound_history .small calls
  rw [show moves = _ from hmoves]
  rw [show l = _ from hl] at sound ⊢
  refine ⟨apart, by simp [total, locked, released], outstanding, _, (perform_of_unmaps sound
    (Sample.unmaps_moved _ _ _)).trans (if_neg ?_)⟩
  rw [outstanding]
  exact UInt64.lt_irrefl 0

end CustodyBridge
