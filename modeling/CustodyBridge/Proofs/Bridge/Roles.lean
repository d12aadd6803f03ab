import CustodyBridge.Proofs.Bridge.Custody
import CustodyBridge.Proofs.Bridge.Founding

/-!
# Roles

Commands of a role succeed for its holder alone, and so does whatever changes the records that the
role governs. Before the bridge is instantiated there are no roles, and nothing else succeeds.
-/

namespace CustodyBridge

/-! ## Commands of a role -/

def Command.role? : Command → Option Role
  | setChainRelation _ _ | setTokenRelation _ _ _ _ _ | removeTokenRelation _ _ _
  | releaseCustody _ _ _ _ _ | setPoolFeeRate _ _ | changeAdmin _ => some .admin
  | withdrawFee _ | setBridgeFee _ | changeSuperAdmin _ => some .superAdmin
  | propose _ | addLiquidity _ _ | removeLiquidity _ _ | withdrawReward _ _ => none

def Call.role? (c : Call) : Option Role := c.command?.bind Command.role?

/-- Whether an address holds a role, as the stored configurations have it. -/
def Ledger.HasRole (env : Environment) (l : Ledger) : Role → Address → Prop
  | .admin, a => ∃ config, l.record? BridgeConfig env.bridgeConfig.address = some config ∧
      a = config.admin
  | .superAdmin, a => ∃ core, l.record? CoreConfig env.coreConfig.address = some core ∧
      a = core.superAdmin

section commands

variable {env : Environment} {caller : Caller} {l l' : Ledger} {r : Receipt} {role : Role}

theorem role_of_command {c : Command} (h : Command.Effect env caller l c r l')
    (hrole : c.role? = some role) : l.HasRole env role caller.sender := by
  cases h with
  | setChainRelation found | setTokenRelation found | openPool found | removeTokenRelation found
  | releaseCustody found | setPoolFeeRate found | changeAdmin found =>
    cases hrole
    exact ⟨_, found.config_found, found.admin⟩
  | withdrawFee found | setBridgeFee found | changeSuperAdmin found =>
    cases hrole
    exact ⟨_, found.core_found, found.super_admin⟩
  | propose | addLiquidity | removeLiquidity | withdrawReward => cases hrole

theorem role_of_call {c : Call} (h : Call.Effect env l c r l') (hrole : c.role? = some role) :
    l.HasRole env role c.caller.sender := by
  cases h with
  | instantiate => cases hrole
  | propose effect => exact role_of_command effect hrole
  | execute effect => exact role_of_command effect hrole

end commands

/-! ## Tables of a role -/

/-- The role whose commands alone write to a table, apart from the instantiation. -/
def Table.role? : Table → Option Role
  | bridgeConfigs | chainRelations | tokenRelations => some .admin
  | coreConfigs => some .superAdmin
  | bridgeAuthorities | pools | positions | nonceCounters | feeVaults => none

theorem Command.role?_of_mem_tables (c : Command) :
    ∀ t ∈ c.tables, t.role? = none ∨ t.role? = c.role? := by
  cases c <;> simp [tables, Table.role?, role?]

/-- Whether a table has at an address what it did not have before. -/
def Ledger.Changed (t : Table) (a : Address) (l l' : Ledger) : Prop :=
  SortedMap.get? l' (t.key a) ≠ SortedMap.get? l (t.key a)

theorem role_of_changed {env : Environment} {caller : Caller} {l l' : Ledger} {r : Receipt}
    {c : Command} {t : Table} {a : Address} {role : Role} (h : Command.Effect env caller l c r l')
    (changed : l.Changed t a l') (hrole : t.role? = some role) :
    l.HasRole env role caller.sender := by
  have hmem : t ∈ c.tables := by
    by_contra hnot
    exact changed (Ledger.get?_of_command h hnot a)
  obtain hnone | hsame := c.role?_of_mem_tables t hmem
  · rw [hrole] at hnone
    cases hnone
  · exact role_of_command h (hsame.symm.trans hrole)

/-! ## Pools and the vault -/

/-- What the admin alone decides of a pool, apart from its existence. -/
def Pool.governed (p : Pool) : UInt64 × UInt64 × Word128 := (p.feeRate, p.totalReleased, p.ratio)

theorem Pool.Turn.governed {authority : Address} {c : Command} {p? : Option Pool} {q : Pool}
    (h : Turn authority c p? q) :
    c.role? = some .admin ∨ some q.governed = p?.map Pool.governed := by
  cases h with
  | opened | released | rated => exact .inl rfl
  | same => exact .inr rfl
  | @locked _ p _ locked =>
    rw [← eq_of_lock locked]
    exact .inr rfl
  | @added _ _ p _ _ _ added =>
    rw [← eq_of_addLiquidity added]
    exact .inr rfl
  | @removed _ _ p _ _ _ removed =>
    rw [← eq_of_removeLiquidity removed]
    exact .inr rfl
  | @withdrawn _ _ p _ _ _ withdrawn =>
    rw [← eq_of_withdrawReward withdrawn]
    exact .inr rfl

namespace Ledger

/-- What a vault holds; nothing if it is not there. -/
def vaultBalance (l : Ledger) (a : Address) : UInt64 := (l.record? FeeVault a).elim 0 (·.balance)

variable {env : Environment} {caller : Caller} {l l' : Ledger} {r : Receipt} {a : Address}

theorem vaultBalance_put {b : Address} {v : FeeVault} :
    (l.put b v).vaultBalance a = if b = a then v.balance else l.vaultBalance a := by
  rw [vaultBalance, record?_put]
  split <;> rfl

theorem vaultBalance_put_of_ne {ρ : Type} [Record ρ] {b : Address} {r : ρ}
    (h : Record.table ρ ≠ .feeVaults) : (l.put b r).vaultBalance a = l.vaultBalance a := by
  rw [vaultBalance, record?_put_of_ne h, vaultBalance]

theorem admin_of_pool {c : Command} (h : Command.Effect env caller l c r l')
    (changed : (l'.record? Pool a).map Pool.governed ≠ (l.record? Pool a).map Pool.governed) :
    l.HasRole env .admin caller.sender := by
  cases hq : l'.record? Pool a with
  | none =>
    cases hp : l.record? Pool a with
    | none => exact absurd (by rw [hp, hq]) changed
    | some p =>
      obtain ⟨q, hq'⟩ := pool_of_command h hp
      rw [hq] at hq'
      cases hq'
  | some q =>
    obtain hrole | hsame := (poolTurn_of_command h hq).governed
    · exact role_of_command h hrole
    · rw [hq, Option.map_some] at changed
      exact absurd hsame changed

theorem superAdmin_of_vault {c : Command} (h : Command.Effect env caller l c r l')
    (less : l'.vaultBalance a < l.vaultBalance a) : l.HasRole env .superAdmin caller.sender := by
  by_cases hvault : .feeVaults ∈ c.tables
  · cases h with
    | withdrawFee found => exact ⟨_, found.core_found, found.super_admin⟩
    | propose found =>
      obtain ⟨balance, hbalance, hcredit⟩ := FeeVault.credit_eq_ok.1 found.credited
      refine absurd less (UInt64.not_lt.2 ?_)
      rw [vaultBalance_put_of_ne (by decide), vaultBalance_put, vaultBalance_put_of_ne (by decide)]
      split
      · rename_i ha
        rw [vaultBalance, ← ha, found.vault_found, Option.elim_some, ← hcredit,
          UInt64.le_iff_toNat_le]
        exact hbalance ▸ Nat.le_add_right _ _
      · exact UInt64.le_refl _
    | _ => simp [Command.tables] at hvault
  · have hsame : l'.record? FeeVault a = l.record? FeeVault a :=
      record?_congr (get?_of_command h hvault a)
    rw [vaultBalance, hsame] at less
    exact absurd less (UInt64.lt_irrefl _)

end Ledger

/-! ## Positions -/

section positions

variable {env : Environment} {caller : Caller} {l l' : Ledger} {r : Receipt} {b : Address}

theorem Ledger.address_of_changed {a : Address} {c : Address} {p : Pool} {y : Position}
    (changed : l.Changed .positions b ((l.put a p).put c y)) : c = b := by
  by_contra hne
  refine changed ?_
  rw [← table_position, get?_put, if_neg hne, get?_put_of_ne (by decide)]

section provided

variable {mint : Address} {amount : UInt64} (found : Findings.Provided env caller l mint amount)

theorem Findings.Provided.legible : l.Legible Position found.accounts.position.address := by
  intro hnone
  rw [found.position_found] at hnone
  cases hnone

theorem Findings.Provided.provider_eq {y : Position}
    (kept : y.provider = found.position.provider) :
    y.provider = ((l.record? Position found.accounts.position.address).getD
      (.opened mint caller.sender)).provider := by
  rw [found.position_found, Option.getD_some, kept]

end provided

/-- Where a command changes a position, it is at the account of the caller, and keeps its owner. -/
theorem position_of_command {c : Command} (h : Command.Effect env caller l c r l')
    (changed : l.Changed .positions b l') :
    ∃ mint a y, env.address? (.position a caller.sender) = some b ∧
      .position a caller.sender ∈ c.purposes env caller.sender ∧ l.Legible Position b ∧
      l'.record? Position b = some y ∧
      y.provider = ((l.record? Position b).getD (.opened mint caller.sender)).provider := by
  by_cases hpositions : .positions ∈ c.tables
  · cases h with
    | @addLiquidity mint _ found =>
      obtain ⟨-, hposition, hnamed⟩ := Ledger.named_of_resolve found.resolved
      have hy := Pool.position_eq_of_addLiquidity found.added
      obtain rfl := Ledger.address_of_changed changed
      refine ⟨mint, _, _, hposition, hnamed, found.position_legible, Ledger.record?_put_self, ?_⟩
      rw [← hy]
    | @removeLiquidity mint _ found =>
      obtain ⟨-, hposition, hnamed⟩ := Ledger.named_of_resolve found.resolved
      have hy := Pool.position_eq_of_removeLiquidity found.removed
      obtain rfl := Ledger.address_of_changed changed
      exact ⟨mint, _, _, hposition, hnamed, found.legible, Ledger.record?_put_self,
        found.provider_eq (by rw [← hy])⟩
    | @withdrawReward mint _ found =>
      obtain ⟨-, hposition, hnamed⟩ := Ledger.named_of_resolve found.resolved
      have hy := Pool.position_eq_of_withdrawReward found.withdrawn
      obtain rfl := Ledger.address_of_changed changed
      exact ⟨mint, _, _, hposition, hnamed, found.legible, Ledger.record?_put_self,
        found.provider_eq (by rw [← hy])⟩
    | _ => simp [Command.tables] at hpositions
  · exact absurd (Ledger.get?_of_command h hpositions b) changed

end positions

/-! ## The founding -/

namespace Call

/-- A call founds the bridge if it instantiates it, and no call has succeeded before. -/
def Founds (env : Environment) (calls : List Call) (c : Call) : Prop :=
  c.command? = none ∧ Step.receipts (history env calls SortedMap.empty) = []

end Call

/-! ## Separation -/

/-- What a call may have changed, and what each change says about who called. -/
structure Ledger.Separated (env : Environment) (sender : Address) (founding : Prop)
    (l l' : Ledger) : Prop where
  config : ∀ a, l.Changed .bridgeConfigs a l' → founding ∨ l.HasRole env .admin sender
  core : ∀ a, l.Changed .coreConfigs a l' → founding ∨ l.HasRole env .superAdmin sender
  relation : ∀ a, l.Changed .chainRelations a l' ∨ l.Changed .tokenRelations a l' →
    l.HasRole env .admin sender
  pool : ∀ a, (l'.record? Pool a).map Pool.governed ≠ (l.record? Pool a).map Pool.governed →
    l.HasRole env .admin sender
  vault : ∀ a, l'.vaultBalance a < l.vaultBalance a → l.HasRole env .superAdmin sender
  position : ∀ b, l.Changed .positions b l' →
    (∃ y, l'.record? Position b = some y ∧ y.provider = sender) ∧
      (l.holds Position b = true → ∃ x, l.record? Position b = some x ∧ x.provider = sender)

section separated

variable {env : Environment} {caller : Caller} {l l' : Ledger} {r : Receipt} {founding : Prop}
  {purposes named : List Purpose}

theorem Ledger.separated_refl {sender : Address} : l.Separated env sender founding l where
  config _ changed := absurd rfl changed
  core _ changed := absurd rfl changed
  relation _ changed := changed.elim (absurd rfl) (absurd rfl)
  pool _ changed := absurd rfl changed
  vault _ less := absurd less (UInt64.lt_irrefl _)
  position _ changed := absurd rfl changed

theorem separated_of_command {c : Command} (h : Command.Effect env caller l c r l')
    (placed : l.custody.Placed env purposes) (apart : env.Apart .positions named)
    (hpurposes : ∀ p ∈ purposes, p ∈ named)
    (hnamed : ∀ p ∈ c.purposes env caller.sender, p ∈ named) :
    l.Separated env caller.sender founding l' where
  config _ changed := .inr (role_of_changed h changed rfl)
  core _ changed := .inr (role_of_changed h changed rfl)
  relation _ changed :=
    changed.elim (fun changed => role_of_changed h changed rfl)
      fun changed => role_of_changed h changed rfl
  pool _ changed := Ledger.admin_of_pool h changed
  vault _ less := Ledger.superAdmin_of_vault h less
  position b changed := by
    obtain ⟨mint, a, y, account, is_named, legible, hy, howner⟩ := position_of_command h changed
    -- Another owner of the position would have an account of its own.
    have hold : ∀ x, l.record? Position b = some x → x.provider = caller.sender := by
      intro x hx
      obtain ⟨a', -, account', is_named', -⟩ := placed.position b x (Ledger.get?_positions.trans hx)
      have hsame := apart _ (hpurposes _ is_named') _ (hnamed _ is_named) rfl rfl
        (by rw [account']; rfl) (account'.trans account.symm)
      exact (Purpose.position.inj hsame).2
    cases hx : l.record? Position b with
    | none =>
      rw [hx] at howner
      refine ⟨⟨y, hy, howner⟩, fun there => ?_⟩
      rw [legible hx] at there
      cases there
    | some x =>
      rw [hx] at howner
      exact ⟨⟨y, hy, howner.trans (hold x hx)⟩, fun _ => ⟨x, rfl, hold x hx⟩⟩

theorem separated_of_instantiate {i : Instantiation} (holds : founding)
    (h : Call.Effect env SortedMap.empty (.instantiate caller i) r l') :
    Ledger.Separated env caller.sender founding SortedMap.empty l' := by
  have hsame : ∀ t, t ∉ [.bridgeConfigs, .coreConfigs, .bridgeAuthorities, Table.feeVaults] →
      ∀ a, SortedMap.get? l' (t.key a) = SortedMap.get? SortedMap.empty (t.key a) :=
    fun t ht a => Ledger.get?_of_call h ht a
  constructor
  case config | core => exact fun _ _ => .inl holds
  case relation =>
    rintro a (changed | changed)
    · exact absurd (hsame .chainRelations (by decide) a) changed
    · exact absurd (hsame .tokenRelations (by decide) a) changed
  case pool =>
    intro a changed
    have hpool : l'.record? Pool a = Ledger.record? Pool SortedMap.empty a :=
      Ledger.record?_congr (hsame .pools (by decide) a)
    exact absurd (congrArg _ hpool) changed
  case vault =>
    intro a less
    rw [show Ledger.vaultBalance SortedMap.empty a = 0 from rfl] at less
    exact absurd less UInt64.not_lt_zero
  case position => exact fun b changed => absurd (hsame .positions (by decide) b) changed

end separated

namespace Call

variable {env : Environment} {calls : List Call} {c : Call}

theorem separated_of_perform (apart : env.Apart .positions (named env (calls ++ [c]))) :
    let l := performAll env calls SortedMap.empty
    l.Separated env c.caller.sender (c.Founds env calls) (c.perform env l).state := by
  intro l
  have placed := placed_history env calls
  have hpurposes : ∀ p ∈ named env calls, p ∈ named env (calls ++ [c]) := fun p hp => by
    rw [named, List.flatMap_append]
    exact List.mem_append_left _ hp
  have hnamed : ∀ p ∈ c.purposes env, p ∈ named env (calls ++ [c]) := fun p hp =>
    mem_named (List.mem_append_right _ List.mem_cons_self) hp
  obtain ⟨r, heffect⟩ | hsame := effect_or_unchanged env c l
  · generalize (c.perform env l).state = l' at heffect ⊢
    cases c with
    | propose =>
      cases heffect with
      | propose effect => exact separated_of_command effect placed apart hpurposes hnamed
    | execute =>
      cases heffect with
      | execute effect => exact separated_of_command effect placed apart hpurposes hnamed
    | instantiate =>
      obtain ⟨hnone, hempty⟩ | there := founded_history env calls
      · rw [show l = SortedMap.empty from hempty] at heffect ⊢
        exact separated_of_instantiate ⟨rfl, hnone⟩ heffect
      · cases heffect with
        | instantiate missing =>
          rw [missing] at there
          cases there
  · rw [hsame]
    exact Ledger.separated_refl

/-- In every run, what a role governs changes by calls of its holder, apart from the instantiation,
which is the first success. A position changes by calls of its provider. Commands of a role fail for
everybody else, and change nothing. -/
theorem privileges_separated (apart : env.Apart .positions (named env (calls ++ [c]))) :
    let l := performAll env calls SortedMap.empty
    let l' := (c.perform env l).state
    l.Separated env c.caller.sender (c.Founds env calls) l' ∧
      ∀ role, c.role? = some role → ¬ l.HasRole env role c.caller.sender →
        (∃ e, (c.perform env l).outcome = .error e) ∧ l' = l := by
  intro l l'
  refine ⟨separated_of_perform apart, fun role hrole hnot => ?_⟩
  have hfails : ∀ r, (c.perform env l).outcome ≠ .ok r := fun r hr =>
    hnot (role_of_call (effect_of_perform hr) hrole)
  refine ⟨?_, state_of_failure hfails⟩
  cases hr : (c.perform env l).outcome with
  | ok r => exact absurd hr (hfails r)
  | error e => exact ⟨e, rfl⟩
  | panic cause => exact absurd hr (c.perform_ne_panic (rated_performAll env calls) cause)

theorem privileges_separated_sample :
    let c : Call := .execute Sample.provider (.changeAdmin Sample.provider.sender)
    Environment.small.Apart .positions (named .small (Sample.calls ++ [c])) ∧
      ¬ Sample.released.HasRole .small .admin Sample.provider.sender ∧
      (∃ e, (c.perform .small Sample.released).outcome = .error e) ∧
      (c.perform .small Sample.released).state = Sample.released := by
  intro c
  have apart : Environment.small.Apart .positions (named .small (Sample.calls ++ [c])) :=
    Sample.apart_positions
  have hnot : ¬ Sample.released.HasRole .small .admin Sample.provider.sender := by
    simp [Ledger.HasRole, Sample.released, Sample.rated, Sample.proposed, Sample.related,
      Sample.added, Sample.opened, Sample.initialized]
    decide
  have hseparated := (privileges_separated apart).2 .admin rfl
  rw [Sample.run.2] at hseparated
  exact ⟨apart, hnot, hseparated hnot⟩

end Call

end CustodyBridge
