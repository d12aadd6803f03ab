import CustodyBridge.Proofs.Bridge.Footprint
import CustodyBridge.Proofs.Bridge.Frames
import CustodyBridge.Proofs.Ledger.LockTable

/-!
# Calls that commute

Calls that do not conflict may run in either order. What each declares decides what it does, and the
other leaves that alone.
-/

namespace CustodyBridge

namespace Call

variable {env : Environment} {c d : Call} {l l' : Ledger}

/-! ## Changes -/

/-- The changes that a call makes: what it has staged if it succeeds, and nothing otherwise. -/
def changes (env : Environment) (c : Call) (l : Ledger) : SortedMap Bytes (Option String) :=
  match (c.perform env l).outcome with
  | .ok _ => c.staged env l
  | _ => SortedMap.empty

theorem state_eq_changes (env : Environment) (c : Call) (l : Ledger) :
    (c.perform env l).state = Transaction.applyAll l (c.changes env l).entries := by
  unfold changes
  cases hr : (c.perform env l).outcome with
  | ok r => exact state_eq_applyAll hr
  | error | panic =>
    refine state_of_failure fun r h => ?_
    rw [hr] at h
    cases h

theorem changes_agree (agree : (c.access env).Agree l l') :
    c.changes env l' = c.changes env l := by
  obtain ⟨houtcome, -, hstaged⟩ := perform_agree agree
  rw [changes, houtcome, hstaged, changes]

theorem changes_confined {key : Bytes} {change : Option String}
    (h : (c.changes env l).get? key = some change) :
    ∃ (t : Table) (a : Address), (c.access env).Writes a ∧ t.key a = key := by
  unfold changes at h
  split at h
  · exact staged_confined h
  · cases h

/-! ## Either order -/

theorem agree_of_compatible (h : (c.access env).Compatible (d.access env)) (l : Ledger) :
    (d.access env).Agree l (c.perform env l).state :=
  fun _ a ha => (get?_of_not_writes fun hwrites => (h a).1 hwrites ha).symm

/-- Two calls leave the same ledger in either order, and each ends and reports the same. -/
structure Commute (env : Environment) (c d : Call) (l : Ledger) : Prop where
  ledger : performAll env [c, d] l = performAll env [d, c] l
  first : (c.perform env (d.perform env l).state).outcome = (c.perform env l).outcome ∧
    (c.perform env (d.perform env l).state).events = (c.perform env l).events
  second : (d.perform env (c.perform env l).state).outcome = (d.perform env l).outcome ∧
    (d.perform env (c.perform env l).state).events = (d.perform env l).events

theorem commute_of_compatible (h : (c.access env).Compatible (d.access env)) (l : Ledger) :
    Commute env c d l := by
  have hleft := agree_of_compatible h l
  have hright := agree_of_compatible h.symm l
  obtain ⟨houtcome, hevents, -⟩ := perform_agree hright
  obtain ⟨houtcome', hevents', -⟩ := perform_agree hleft
  refine ⟨?_, ⟨houtcome, hevents⟩, ⟨houtcome', hevents'⟩⟩
  change (d.perform env (c.perform env l).state).state =
    (c.perform env (d.perform env l).state).state
  rw [state_eq_changes env d, changes_agree hleft, state_eq_changes env c l,
    state_eq_changes env c, changes_agree hright, state_eq_changes env d l]
  apply SortedMap.ext_get?
  intro key
  simp only [Transaction.get?_applyAll]
  -- No key is changed by both: each belongs to one account.
  cases hc : (c.changes env l).get? key with
  | none => rfl
  | some change =>
    cases hd : (d.changes env l).get? key with
    | none => rfl
    | some change' =>
      obtain ⟨t, a, ha, hkey⟩ := changes_confined hc
      obtain ⟨u, b, hb, rfl⟩ := changes_confined hd
      obtain rfl := (Table.key_inj.1 hkey).2
      exact absurd hb.declares ((h a).1 ha)

/-! ## Calls of different kinds -/

/-- The mint whose liquidity a call provides, removes or is rewarded for. -/
def liquidity? (c : Call) : Option Address :=
  match c.command? with
  | some (.addLiquidity mint _) | some (.removeLiquidity mint _)
  | some (.withdrawReward mint _) => some mint
  | _ => none

end Call

/-- Among given purposes, no two have accounts of one address, and none has that of the
configuration. -/
structure Environment.Collisionless (env : Environment) (purposes : List Purpose) : Prop where
  apart : ∀ p ∈ purposes, ∀ q ∈ purposes, (env.address? p).isSome = true →
    env.address? p = env.address? q → p = q
  config : ∀ p ∈ purposes, env.address? p ≠ some env.bridgeConfig.address

namespace Call

variable {env : Environment} {c d : Call}

theorem access_of_liquidity (env : Environment) {mint : Address} (h : c.liquidity? = some mint) :
    c.access env = (match LiquidityAccounts.resolve env mint c.caller.sender with
      | .ok a => a.access
      | .error _ => .empty) ∧
    ∀ p ∈ (Command.addLiquidity mint 0).purposes env c.caller.sender, p ∈ c.purposes env := by
  cases c with
  | instantiate | propose => cases h
  | execute caller command =>
    cases command with
    | addLiquidity | removeLiquidity | withdrawReward =>
      cases h
      refine ⟨?_, fun p hp => hp⟩
      simp only [access, operation, Command.operation, Call.caller]
      cases LiquidityAccounts.resolve env mint caller.sender <;> rfl
    | _ => cases h

theorem declared_of_liquidity {mint a : Address} (h : c.liquidity? = some mint)
    (ha : (c.access env).Declares a) :
    ∃ pool, env.address? (.pool mint) = some pool ∧ .pool mint ∈ c.purposes env ∧
      (pool = a ∨ env.address? (.position pool c.caller.sender) = some a ∧
        .position pool c.caller.sender ∈ c.purposes env) := by
  obtain ⟨haccess, hpurposes⟩ := access_of_liquidity env h
  rw [haccess] at ha
  cases hresolve : LiquidityAccounts.resolve env mint c.caller.sender with
  | error e =>
    rw [hresolve] at ha
    exact absurd ha (AccessSet.declares_empty a)
  | ok accounts =>
    rw [hresolve] at ha
    obtain ⟨hpool, hposition⟩ := LiquidityAccounts.resolve_eq_ok hresolve
    have hpool := Environment.address?_of_account hpool
    have hposition := Environment.address?_of_account hposition
    refine ⟨_, hpool, hpurposes _ List.mem_cons_self, ?_⟩
    simp only [LiquidityAccounts.access, AccessSet.declares_write, AccessSet.declares_empty,
      or_false] at ha
    obtain rfl | rfl := ha
    · refine .inr ⟨hposition, hpurposes _ ?_⟩
      simp [Command.purposes, hpool]
    · exact .inl rfl

theorem declared_of_setChainRelation {chain : Chain} {update : ChainRelationUpdate} {a : Address}
    (h : c.command? = some (.setChainRelation chain update)) (ha : (c.access env).Declares a) :
    a = env.bridgeConfig.address ∨
      env.address? (.chainRelation chain) = some a ∧ .chainRelation chain ∈ c.purposes env := by
  cases c with
  | instantiate | propose => cases h
  | execute caller command =>
    cases h
    cases haccount : env.account (.chainRelation chain) with
    | error e => simp [access, operation, Command.operation, haccount] at ha
    | ok account =>
      simp [access, operation, Command.operation, haccount, chainRelationAccess] at ha
      obtain rfl | rfl := ha
      · exact .inr ⟨Environment.address?_of_account haccount, List.mem_cons_self⟩
      · exact .inl rfl

section distinct

variable (distinct : env.Collisionless (named env [c, d]))

include distinct

theorem disjoint_of_setChainRelation {chain : Chain} {update : ChainRelationUpdate}
    {mint a : Address} (hc : c.command? = some (.setChainRelation chain update))
    (hd : d.liquidity? = some mint) (ha : (c.access env).Declares a) :
    ¬ (d.access env).Declares a := by
  intro hb
  have hmem : ∀ p ∈ d.purposes env, p ∈ named env [c, d] := fun p hp => mem_named (by simp) hp
  obtain ⟨pool, hpool, hin, hplace⟩ := declared_of_liquidity hd hb
  obtain rfl | ⟨hchain, hin'⟩ := declared_of_setChainRelation hc ha
  · obtain rfl | ⟨hposition, hin⟩ := hplace
    · exact distinct.config _ (hmem _ hin) hpool
    · exact distinct.config _ (hmem _ hin) hposition
  · have hapart := distinct.apart _ (mem_named (by simp) hin')
    rw [hchain] at hapart
    obtain rfl | ⟨hposition, hin⟩ := hplace
    · cases hapart _ (hmem _ hin) rfl hpool.symm
    · cases hapart _ (hmem _ hin) rfl hposition.symm

theorem disjoint_of_mints {m n a : Address} (hc : c.liquidity? = some m)
    (hd : d.liquidity? = some n) (hne : m ≠ n) (ha : (c.access env).Declares a) :
    ¬ (d.access env).Declares a := by
  intro hb
  obtain ⟨pool, hpool, hin, hplace⟩ := declared_of_liquidity hc ha
  obtain ⟨pool', hpool', hin', hplace'⟩ := declared_of_liquidity hd hb
  have hsame : ∀ p ∈ c.purposes env, ∀ q ∈ d.purposes env, ∀ b, env.address? p = some b →
      env.address? q = some b → p = q := fun p hp q hq b hpb hqb =>
    distinct.apart p (mem_named (by simp) hp) q (mem_named (by simp) hq) (by rw [hpb]; rfl)
      (hpb.trans hqb.symm)
  have hpools : pool ≠ pool' := by
    rintro rfl
    exact hne (Purpose.pool.inj (hsame _ hin _ hin' _ hpool hpool'))
  obtain rfl | ⟨hposition, hin⟩ := hplace
  · obtain rfl | ⟨hposition', hin'⟩ := hplace'
    · exact hpools rfl
    · cases hsame _ hin _ hin' _ hpool hposition'
  · obtain rfl | ⟨hposition', hin'⟩ := hplace'
    · cases hsame _ hin _ hin' _ hposition hpool'
    · exact hpools (Purpose.position.inj (hsame _ hin _ hin' _ hposition hposition')).1

end distinct

/-- Calls that do not conflict commute on every ledger. Where no addresses collide, so do an update
of a chain relation and a liquidity call, and two liquidity calls for different mints. -/
theorem commutes (env : Environment) (c d : Call) (l : Ledger) :
    ((c.access env).Compatible (d.access env) → Commute env c d l) ∧
    (env.Collisionless (named env [c, d]) →
      (∀ chain update mint, c.command? = some (.setChainRelation chain update) →
        d.liquidity? = some mint → Commute env c d l) ∧
      ∀ m n, c.liquidity? = some m → d.liquidity? = some n → m ≠ n → Commute env c d l) := by
  refine ⟨fun h => commute_of_compatible h l, fun distinct => ⟨?_, ?_⟩⟩
  · intro chain update mint hc hd
    exact commute_of_compatible (AccessSet.compatible_of_disjoint fun _ ha =>
      disjoint_of_setChainRelation distinct hc hd ha) l
  · intro m n hc hd hne
    exact commute_of_compatible (AccessSet.compatible_of_disjoint fun _ ha =>
      disjoint_of_mints distinct hc hd hne ha) l

/-- The admin may activate the chain before or after the provider adds liquidity. -/
theorem commutes_sample :
    let c : Call := .execute Sample.admin
      (.setChainRelation Sample.chain ⟨some Sample.executor, none, none⟩)
    let d : Call := .execute Sample.provider (.addLiquidity Sample.mint 64)
    Environment.small.Collisionless (named .small [c, d]) ∧
      performAll .small [d, c] Sample.opened = Sample.related ∧
      performAll .small [c, d] Sample.opened = Sample.related := by
  intro c d
  have distinct : Environment.small.Collisionless (named .small [c, d]) :=
    ⟨by decide +kernel, by decide +kernel⟩
  have hcommute := ((commutes .small c d Sample.opened).2 distinct).1 _ _ _ rfl rfl
  have hrun : performAll .small [d, c] Sample.opened = Sample.related :=
    (run_cons Sample.operation_addLiquidity Sample.exec_addLiquidity
      (run_cons Sample.operation_setChainRelation Sample.exec_setChainRelation (run_nil _ _))).2
  exact ⟨distinct, hrun, hcommute.ledger.trans hrun⟩

end Call

end CustodyBridge
