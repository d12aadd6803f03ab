import CustodyBridge.Proofs.Bridge.Founding
import CustodyBridge.Proofs.Decimals
import CustodyBridge.Proofs.Pool.Releases

/-!
# Releases of custody

When the admin can release custody of a foreign amount, and what is left of it: the pool has paid
out, less the fee that it keeps for its providers, and everything else is as it was.
-/

namespace CustodyBridge

/-! ## What a release needs -/

namespace Ledger

/-- A sender may release a foreign amount through a relation, it comes to an amount of the local
token, and the pool of the relation covers it. -/
structure Grants (env : Environment) (l : Ledger) (sender : Address) (chain : Chain)
    (token mint : Address) (amount : Word128) (t : TokenRelation) (p : Pool) (n : Nat) :
    Prop where
  admin : l.holder? env .admin = some sender
  relation : l.relation? env chain token = some t
  relation_mint : t.localMint = mint
  gap_le : Decimals.gap t.foreignDecimals t.localDecimals ≤ 38
  converted : amount.toNat * 10 ^ t.localDecimals.toNat / 10 ^ t.foreignDecimals.toNat = n
  positive : 1 ≤ n
  fits : n < UInt64.size
  pool : l.pool? env mint = some p
  covers : p.Covers n

/-- What a release answers, and leaves: its pool, paid out. -/
inductive PaysOut (env : Environment) (l : Ledger) (chain : Chain) (mint recipient : Address)
    (amount : Word128) (p : Pool) (n : Nat) : Receipt → Ledger → Prop where
  | intro {a : Address} {q : Pool} {localAmount : UInt64} {release : Pool.Release}
      (account : env.address? (.pool mint) = some a) (releases : p.Releases q n)
      (local_amount : localAmount.toNat = n) (payout : release.payout.toNat = p.payoutOf n)
      (fee : release.fee.toNat = p.feeOf n) (balance : release.balance = q.balance) :
      PaysOut env l chain mint recipient amount p n
        (.custodyReleased chain mint recipient amount localAmount release) (l.put a q)

end Ledger

/-! ## One release -/

section calls

variable {env : Environment} {caller : Caller} {l l' : Ledger} {chain : Chain}
  {token mint recipient : Address} {amount : Word128} {t : TokenRelation} {p : Pool} {n : Nat}
  {r : Receipt}

theorem grants_of_effect (rated : l.Rated)
    (h : Command.Effect env caller l (.releaseCustody chain token mint recipient amount) r l') :
    ∃ t p n, l.Grants env caller.sender chain token mint amount t p n := by
  cases h with
  | releaseCustody found =>
    obtain ⟨htoken, hpool⟩ := TokenAccounts.resolve_eq_ok found.resolved
    obtain ⟨gap_le, hconverted⟩ := Decimals.convert?_eq_some.1 found.converted
    refine ⟨found.relation, found.pool, found.localAmount.toNat, ?_⟩
    constructor
    case admin => rw [Ledger.holder?, found.config_found, Option.map_some, found.admin]
    case relation => rw [Ledger.relation?_of_account htoken, found.relation_found]
    case relation_mint => exact found.relation_mint
    case gap_le => exact gap_le
    case converted => exact hconverted
    case positive =>
      exact Nat.pos_of_ne_zero fun hzero => found.amount_ne (UInt64.toNat_inj.1 hzero)
    case fits => exact found.localAmount.toNat_lt
    case pool => rw [Ledger.pool?_of_account hpool, found.pool_found]
    case covers => exact Pool.covers_of_release (rated _ _ found.pool_found) found.released

theorem paysOut_of_effect (rated : l.Rated)
    (h : Command.Effect env caller l (.releaseCustody chain token mint recipient amount) r l')
    (grants : l.Grants env caller.sender chain token mint amount t p n) :
    l.PaysOut env chain mint recipient amount p n r l' := by
  cases h with
  | releaseCustody found =>
    obtain ⟨htoken, hpool⟩ := TokenAccounts.resolve_eq_ok found.resolved
    obtain rfl : found.relation = t := by
      have hrelation := grants.relation
      rw [Ledger.relation?_of_account htoken, found.relation_found] at hrelation
      exact Option.some.inj hrelation
    obtain rfl : found.pool = p := by
      have hp := grants.pool
      rw [Ledger.pool?_of_account hpool, found.pool_found] at hp
      exact Option.some.inj hp
    obtain rfl : found.localAmount.toNat = n := by
      rw [← grants.converted, (Decimals.convert?_eq_some.1 found.converted).2]
    obtain ⟨releases, payout, fee, balance⟩ :=
      Pool.releases_of_release (rated _ _ found.pool_found) found.released
    exact .intro (Environment.address?_of_account hpool) releases rfl payout fee balance

namespace Call

theorem exists_perform_release (intact : l.Intact env) (rated : l.Rated)
    (grants : l.Grants env caller.sender chain token mint amount t p n) :
    ∃ r, ((execute caller (.releaseCustody chain token mint recipient amount)).perform env
      l).outcome = .ok r := by
  obtain ⟨config, config_found, admin⟩ := Option.map_eq_some_iff.1 grants.admin
  obtain ⟨b, hb, relation_found⟩ := Option.bind_eq_some_iff.1 grants.relation
  obtain ⟨relation, htoken, rfl⟩ := Environment.address?_eq_some.1 hb
  obtain ⟨-, hpool, p', pool_found, pool_mint⟩ := intact.tokenRelation _ t relation_found
  rw [grants.relation_mint] at hpool pool_mint
  obtain rfl : p' = p := by
    have found := grants.pool
    rw [Ledger.pool?_of_account hpool, pool_found] at found
    exact Option.some.inj found
  -- What the amount comes to is a word, and not zero.
  obtain ⟨x, rfl⟩ : ∃ x : UInt64, x.toNat = n :=
    ⟨UInt64.ofNat n, UInt64.toNat_ofNat_of_lt grants.fits⟩
  have converted := Decimals.convert?_eq_some.2 ⟨grants.gap_le, grants.converted⟩
  have amount_ne : x ≠ 0 := by
    rintro rfl
    exact absurd grants.positive (by decide)
  obtain ⟨q, release, released⟩ := Pool.exists_release (rated _ _ pool_found) grants.covers
  have accounts : TokenAccounts.resolve env chain token mint = .ok ⟨relation, t.pool⟩ := by
    simp only [TokenAccounts.resolve, except_bind_eq_ok]
    exact ⟨_, htoken, _, hpool, rfl⟩
  have hexec : (CustodyBridge.releaseCustody env caller ⟨relation, t.pool⟩ chain token mint
      recipient amount).exec l = .ok (.custodyReleased chain mint recipient amount x release,
        l.put t.pool.address q) := by
    unfold CustodyBridge.releaseCustody
    rw [Program.exec_bind_of_ok
        (BridgeConfig.exec_authorize_eq_ok.2 ⟨config_found, admin.symm, rfl⟩),
      Program.exec_bind_of_ok
        (TokenRelation.exec_loadFor_eq_ok.2 ⟨⟨relation_found, rfl⟩, grants.relation_mint⟩),
      converted, Program.exec_bind_of_ok (Program.exec_require _ _ _), if_neg amount_ne,
      Program.exec_bind_of_ok
        (Pool.exec_runRelease_eq_ok.2 ⟨p', ⟨pool_found, pool_mint⟩, q, released, rfl⟩)]
    rfl
  exact ⟨_, (perform_of_ok (operation_release accounts) hexec).1⟩

/-- Behind every run, a release succeeds exactly where its sender is the admin, its relation maps to
the mint, the amount converts to a local one that is not zero, and the pool of the relation covers
it. Then the pool has paid out, and nothing else has changed. Otherwise nothing has. -/
theorem release_decided {calls : List Call} (apart : env.Apart .pools (named env calls))
    (caller : Caller) (chain : Chain) (token mint recipient : Address) (amount : Word128) :
    let l := performAll env calls SortedMap.empty
    let run := (execute caller (.releaseCustody chain token mint recipient amount)).perform env l
    ((∃ r, run.outcome = .ok r) ↔
      ∃ t p n, l.Grants env caller.sender chain token mint amount t p n) ∧
    (∀ t p n, l.Grants env caller.sender chain token mint amount t p n →
      ∃ r, run.outcome = .ok r ∧ l.PaysOut env chain mint recipient amount p n r run.state) ∧
    ((∀ r, run.outcome ≠ .ok r) → (∃ e, run.outcome = .error e) ∧ run.state = l) ∧
    ∀ t, l.relation? env chain token = some t →
      ∃ p, l.pool? env t.localMint = some p ∧ p.mint = t.localMint := by
  intro l run
  have intact : l.Intact env := intact_history apart
  have rated : l.Rated := rated_performAll env calls
  have heffect : ∀ r, run.outcome = .ok r → Command.Effect env caller l
      (.releaseCustody chain token mint recipient amount) r run.state := by
    intro r hr
    cases effect_of_perform hr with
    | execute effect => exact effect
  refine ⟨⟨?_, ?_⟩, ?_, ?_, fun t found => intact.pool?_of_relation? found⟩
  · rintro ⟨r, hr⟩
    exact grants_of_effect rated (heffect r hr)
  · rintro ⟨t, p, n, grants⟩
    exact exists_perform_release intact rated grants
  · intro t p n grants
    obtain ⟨r, hr⟩ : ∃ r, run.outcome = .ok r := exists_perform_release intact rated grants
    exact ⟨r, hr, paysOut_of_effect rated (heffect r hr) grants⟩
  · intro hfails
    refine ⟨?_, state_of_failure hfails⟩
    obtain ⟨r, hr⟩ | hrefused := succeeds_or_refuses _ rated
    · exact absurd hr (hfails r)
    · exact hrefused

end Call

end calls

/-- In a small run, the last call grants a release of 10, which keeps a fee of 1. -/
theorem Call.release_decided_sample :
    Environment.small.Apart .pools (named .small (Sample.calls.take 6)) ∧
      Sample.rated.Grants .small Sample.admin.sender Sample.chain Sample.token Sample.mint 10
        ⟨Sample.chain, Sample.token, 6, Sample.mint, 6, Sample.poolAccount⟩ Sample.ratedPool 10 ∧
      Sample.ratedPool.feeOf 10 = 1 ∧
      ∃ r left, Sample.rated.PaysOut .small Sample.chain Sample.mint Sample.recipient 10
        Sample.ratedPool 10 r left := by
  have apart : Environment.small.Apart .pools (named .small (Sample.calls.take 6)) := by
    unfold Environment.Apart
    decide +kernel
  have hrated : performAll .small (Sample.calls.take 6) SortedMap.empty = Sample.rated :=
    (Sample.run_from_proposed (run_cons Sample.operation_setPoolFeeRate Sample.exec_setPoolFeeRate
      (run_nil .small _))).2
  have relation_found : Sample.rated.record? TokenRelation Sample.tokenAccount.address =
      some ⟨Sample.chain, Sample.token, 6, Sample.mint, 6, Sample.poolAccount⟩ := by
    simp [Sample.rated, Sample.proposed, Sample.related, Sample.added, Sample.opened]
  have grants : Sample.rated.Grants .small Sample.admin.sender Sample.chain Sample.token
      Sample.mint 10 ⟨Sample.chain, Sample.token, 6, Sample.mint, 6, Sample.poolAccount⟩
      Sample.ratedPool 10 := by
    constructor
    case admin =>
      simp [Ledger.holder?, Sample.rated, Sample.proposed, Sample.related, Sample.added,
        Sample.opened, Sample.initialized]
    case relation => rw [Ledger.relation?_of_account Sample.account_token, relation_found]
    case relation_mint => rfl
    case gap_le => decide
    case converted => decide
    case positive => decide
    case fits => decide
    case pool => exact (Ledger.pool?_of_account Sample.account_pool).trans Ledger.record?_put_self
    case covers => exact ⟨by decide +kernel, fun _ => by decide +kernel⟩
  have hdecided := release_decided apart Sample.admin Sample.chain Sample.token Sample.mint
    Sample.recipient 10
  rw [hrated] at hdecided
  obtain ⟨r, -, hpays⟩ := hdecided.2.1 _ _ _ grants
  exact ⟨apart, grants, by decide +kernel, r, _, hpays⟩

end CustodyBridge
