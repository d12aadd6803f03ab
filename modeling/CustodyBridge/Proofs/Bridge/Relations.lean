import CustodyBridge.Proofs.Bridge.Custody
import CustodyBridge.Proofs.Bridge.Frames
import CustodyBridge.Proofs.Record.Readable

/-!
# Relations of custody

Custody is released through a token relation of its mint. A relation is not removed while the pool
of its mint has custody outstanding, but it may be given another mint.
-/

namespace CustodyBridge

namespace Ledger

/-- Some token relation maps to a mint. -/
def Backed (l : Ledger) (mint : Address) : Prop :=
  ∃ b t, l.record? TokenRelation b = some t ∧ t.localMint = mint

/-- Where custody was locked and not yet released, a relation is there to release it through. -/
def Releasable (l : Ledger) : Prop :=
  ∀ a p, l.record? Pool a = some p → p.totalReleased < p.totalLocked → l.Backed p.mint

/-- A token relation is at the account of its chain and token, where a release looks for it. -/
def RelationsPlaced (env : Environment) (l : Ledger) : Prop :=
  ∀ b t, l.record? TokenRelation b = some t →
    env.address? (.tokenRelation t.chain t.foreignToken) = some b

end Ledger

/-- A call strands custody if it gives the only relation of a mint to another mint, while the pool
of the first has custody outstanding. -/
inductive Call.Strands (env : Environment) (l : Ledger) : Call → Prop where
  | intro {caller : Caller} {chain : Chain} {token mint : Address}
      {foreignDecimals localDecimals : UInt8} {b a : Address} {old : TokenRelation} {p : Pool}
      (account : env.address? (.tokenRelation chain token) = some b)
      (found : l.record? TokenRelation b = some old) (other : old.localMint ≠ mint)
      (only : ∀ b' t, l.record? TokenRelation b' = some t → t.localMint = old.localMint → b' = b)
      (pool_found : l.record? Pool a = some p) (pool_mint : p.mint = old.localMint)
      (outstanding : p.totalReleased < p.totalLocked) :
      Strands env l
        (.execute caller (.setTokenRelation chain token foreignDecimals mint localDecimals))

/-! ## One call -/

namespace Ledger

variable {env : Environment} {caller : Caller} {l l' : Ledger} {r : Receipt} {a b : Address}
  {q q' : Pool} {mint : Address}

theorem backed_of_put (releasable : l.Releasable) (hq : (l.put b q).record? Pool a = some q')
    (outstanding : q'.totalReleased < q'.totalLocked)
    (backed : q.totalReleased < q.totalLocked → l.Backed q.mint) : l.Backed q'.mint := by
  rw [record?_put] at hq
  split at hq
  · cases hq
    exact backed outstanding
  · exact releasable a q' hq outstanding

theorem backed_of_found {p : Pool} (releasable : l.Releasable) (found : l.record? Pool b = some p)
    (same : (q.mint, q.totalLocked, q.totalReleased) = (p.mint, p.totalLocked, p.totalReleased))
    (outstanding : q.totalReleased < q.totalLocked) : l.Backed q.mint := by
  simp only [Prod.mk.injEq] at same
  obtain ⟨hmint, hlocked, hreleased⟩ := same
  rw [hlocked, hreleased] at outstanding
  exact hmint ▸ releasable b p found outstanding

/-- Whatever has custody outstanding behind a command had a relation before it. -/
theorem backed_of_command {c : Command} (h : Command.Effect env caller l c r l')
    (releasable : l.Releasable) (hq : l'.record? Pool a = some q)
    (outstanding : q.totalReleased < q.totalLocked) : l.Backed q.mint := by
  cases h with
  | propose found =>
    refine backed_of_put releasable (by simpa using hq) outstanding
      fun _ => ⟨_, _, found.token_found, ?_⟩
    rw [← Pool.eq_of_lock found.locked]
    exact found.token_mint.trans found.pool_mint.symm
  | openPool =>
    refine backed_of_put releasable (by simpa using hq) outstanding fun h => ?_
    exact absurd h (UInt64.lt_irrefl _)
  | releaseCustody found =>
    refine backed_of_put releasable hq outstanding fun _ => ⟨_, _, found.relation_found, ?_⟩
    rw [← Pool.eq_of_release found.released]
    exact found.relation_mint.trans found.pool_mint.symm
  | setPoolFeeRate found =>
    exact backed_of_put releasable hq outstanding (backed_of_found releasable found.pool_found rfl)
  | addLiquidity found =>
    refine backed_of_put releasable (by simpa using hq) outstanding
      (backed_of_found releasable found.pool_found ?_)
    rw [← Pool.eq_of_addLiquidity found.added]
  | removeLiquidity found =>
    refine backed_of_put releasable (by simpa using hq) outstanding
      (backed_of_found releasable found.pool_found ?_)
    rw [← Pool.eq_of_removeLiquidity found.removed]
  | withdrawReward found =>
    refine backed_of_put releasable (by simpa using hq) outstanding
      (backed_of_found releasable found.pool_found ?_)
    rw [← Pool.eq_of_withdrawReward found.withdrawn]
  | _ => exact releasable a q (by simpa using hq) outstanding

theorem backed_put {new : TokenRelation} (backed : l.Backed mint)
    (kept : ∀ old, l.record? TokenRelation b = some old → old.localMint = mint →
      new.localMint = mint ∨
        ∃ b' t, l.record? TokenRelation b' = some t ∧ t.localMint = mint ∧ b' ≠ b) :
    (l.put b new).Backed mint := by
  obtain ⟨b₀, t₀, found, hmint⟩ := backed
  by_cases hb : b₀ = b
  · subst hb
    obtain hnew | ⟨b', t, found', hmint', hne⟩ := kept t₀ found hmint
    · exact ⟨b₀, new, record?_put_self, hnew⟩
    · exact ⟨b', t, by rw [record?_put, if_neg (Ne.symm hne), found'], hmint'⟩
  · exact ⟨b₀, t₀, by rw [record?_put, if_neg (Ne.symm hb), found], hmint⟩

theorem kept_of_not_strands {chain : Chain} {token : Address}
    {foreignDecimals localDecimals : UInt8} {p : Pool}
    (account : env.address? (.tokenRelation chain token) = some b)
    (found : l.record? Pool a = some p) (outstanding : p.totalReleased < p.totalLocked)
    (keeps : ¬ Call.Strands env l
      (.execute caller (.setTokenRelation chain token foreignDecimals mint localDecimals))) :
    ∀ old, l.record? TokenRelation b = some old → old.localMint = p.mint → mint = p.mint ∨
      ∃ b' t, l.record? TokenRelation b' = some t ∧ t.localMint = p.mint ∧ b' ≠ b := by
  intro old hold hmint
  by_contra hnot
  rw [not_or, not_exists] at hnot
  refine keeps (.intro account hold (fun heq => hnot.1 (heq.symm.trans hmint)) ?_ found hmint.symm
    outstanding)
  intro b' t ht hsame
  by_contra hne
  exact hnot.2 b' ⟨t, ht, hsame.trans hmint, hne⟩

theorem mint_ne_of_settled {chain : Chain} {token : Address} {ta : TokenAccounts} {p : Pool}
    (accounts : TokenAccounts.resolve env chain token mint = .ok ta)
    (settled : ((l.record? Pool ta.pool.address).elim 0 fun p =>
      if p.mint = mint then p.outstanding else 0) = 0)
    (placed : Custody.PoolAt env a p) (found : l.record? Pool a = some p)
    (outstanding : p.totalReleased < p.totalLocked) : p.mint ≠ mint := by
  rintro rfl
  obtain ⟨-, hpool⟩ := TokenAccounts.resolve_eq_ok accounts
  obtain rfl := Option.some.inj ((Environment.address?_of_account hpool).symm.trans placed)
  rw [found, Option.elim_some, if_pos rfl] at settled
  have hnone := congrArg UInt64.toNat settled
  rw [Pool.outstanding, Amount.toNat_subCapped] at hnone
  rw [UInt64.lt_iff_toNat_lt] at outstanding
  exact absurd hnone (Nat.sub_ne_zero_of_lt outstanding)

theorem releasable_of_command {c : Command} (h : Command.Effect env caller l c r l')
    (releasable : l.Releasable) (placed : ∀ a p, l.record? Pool a = some p → Custody.PoolAt env a p)
    (keeps : ¬ Call.Strands env l (.execute caller c)) : l'.Releasable := by
  intro a q hq outstanding
  have backed := backed_of_command h releasable hq outstanding
  by_cases hrelations : .tokenRelations ∈ c.tables
  · cases h with
    | setTokenRelation found =>
      obtain ⟨haccount, -⟩ := TokenAccounts.resolve_eq_ok found.resolved
      have hq : l.record? Pool a = some q := by simpa using hq
      refine backed_put backed ?_
      exact kept_of_not_strands (Environment.address?_of_account haccount) hq outstanding keeps
    | openPool found =>
      obtain ⟨haccount, -⟩ := TokenAccounts.resolve_eq_ok found.resolved
      -- The pool that is opened has nothing outstanding, so this is one that was there.
      rw [record?_put_of_ne (by decide), record?_put] at hq
      split at hq
      · cases hq
        exact absurd outstanding (UInt64.lt_irrefl _)
      · have kept := kept_of_not_strands (Environment.address?_of_account haccount) hq outstanding
          keeps
        refine backed_put (by simpa [Backed] using backed) ?_
        simpa using kept
    | removeTokenRelation found =>
      have hq : l.record? Pool a = some q := by simpa using hq
      have hne := mint_ne_of_settled found.resolved found.settled (placed a q hq) hq outstanding
      obtain ⟨b, t, ht, hmint⟩ := backed
      refine ⟨b, t, ?_, hmint⟩
      rw [record?_erase, if_neg, ht]
      rintro rfl
      obtain rfl : found.relation = t := Option.some.inj (found.relation_found.symm.trans ht)
      exact hne (hmint.symm.trans found.relation_mint)
    | _ => simp [Command.tables] at hrelations
  · obtain ⟨b, t, found, hmint⟩ := backed
    have hsame : l'.record? TokenRelation b = l.record? TokenRelation b :=
      record?_congr (get?_of_command h hrelations b)
    exact ⟨b, t, hsame.trans found, hmint⟩

/-! ### Places -/

theorem relationsPlaced_of_command {c : Command} (h : Command.Effect env caller l c r l')
    (placed : l.RelationsPlaced env) : l'.RelationsPlaced env := by
  have home : l.AtHome env fun t : TokenRelation => .tokenRelation t.chain t.foreignToken := placed
  by_cases hrelations : .tokenRelations ∈ c.tables
  · cases h with
    | setTokenRelation found =>
      obtain ⟨haccount, -⟩ := TokenAccounts.resolve_eq_ok found.resolved
      exact home.put (Environment.address?_of_account haccount)
    | openPool found =>
      obtain ⟨haccount, -⟩ := TokenAccounts.resolve_eq_ok found.resolved
      exact (home.put_of_ne (by decide)).put (Environment.address?_of_account haccount)
    | removeTokenRelation =>
      intro b t found
      rw [record?_erase] at found
      split at found
      · cases found
      · exact placed b t found
    | _ => simp [Command.tables] at hrelations
  · exact home.congr fun a => get?_of_command h hrelations a

end Ledger

/-! ## Runs -/

namespace Call

variable {env : Environment}

theorem releasable_of_step {l : Ledger} (c : Call) (releasable : l.Releasable)
    (placed : ∀ a p, l.record? Pool a = some p → Custody.PoolAt env a p)
    (keeps : c.Strands env l → (c.toStep env l).receipt? = none) :
    (c.toStep env l).after.Releasable := by
  cases hr : (c.toStep env l).receipt? with
  | none => rwa [Step.after_of_receipt?_eq_none hr]
  | some r =>
    have heffect := Step.effect_of_receipt? hr
    have hkeeps : ¬ c.Strands env l := fun h => by
      rw [keeps h] at hr
      cases hr
    generalize (c.toStep env l).after = l' at heffect ⊢
    cases heffect with
    | instantiate =>
      intro a p found outstanding
      obtain ⟨b, t, ht, hmint⟩ := releasable a p (by simpa using found) outstanding
      exact ⟨b, t, by simpa using ht, hmint⟩
    | propose effect => exact Ledger.releasable_of_command effect releasable placed nofun
    | execute effect => exact Ledger.releasable_of_command effect releasable placed hkeeps

theorem relationsPlaced_history (env : Environment) (calls : List Call) :
    (performAll env calls SortedMap.empty).RelationsPlaced env := by
  refine history_induction (P := fun _ l => l.RelationsPlaced env) nofun ?_
  intro c _ _ l placed
  change (c.perform env l).state.RelationsPlaced env
  obtain ⟨r, heffect⟩ | hsame := effect_or_unchanged env c l
  · generalize (c.perform env l).state = l' at heffect ⊢
    cases heffect with
    | instantiate => exact fun b t found => placed b t (by simpa using found)
    | propose effect => exact Ledger.relationsPlaced_of_command effect placed
    | execute effect => exact Ledger.relationsPlaced_of_command effect placed
  · rwa [hsame]

/-- In every run, wherever custody is outstanding there is a relation to release it through, as long
as no call has given the only relation of such a mint to another one. -/
theorem releasable_history {calls : List Call}
    (keeps : ∀ s ∈ history env calls SortedMap.empty, s.call.Strands env s.before →
      s.receipt? = none) :
    (performAll env calls SortedMap.empty).Releasable ∧
      (performAll env calls SortedMap.empty).RelationsPlaced env := by
  refine ⟨?_, relationsPlaced_history env calls⟩
  suffices h : (performAll env calls SortedMap.empty).custody.Placed env (named env calls) ∧
      ((∀ s ∈ history env calls SortedMap.empty, s.call.Strands env s.before → s.receipt? = none) →
        (performAll env calls SortedMap.empty).Releasable) from h.2 keeps
  refine history_induction (P := fun steps l => l.custody.Placed env (named env calls) ∧
    ((∀ s ∈ steps, s.call.Strands env s.before → s.receipt? = none) → l.Releasable))
    ⟨Custody.placed_empty, fun _ => nofun⟩ ?_
  rintro c hc steps l ⟨placed, releasable⟩
  refine ⟨placed.turn (Ledger.turn_of_step c) fun _ hp => mem_named hc hp, fun keeps => ?_⟩
  exact releasable_of_step c (releasable fun s hs => keeps s (List.mem_append_left _ hs))
    (fun a p hp => placed.pool a p (Ledger.get?_pools.trans hp))
    (keeps (c.toStep env l) (List.mem_append_right _ List.mem_cons_self))

end Call

theorem Call.releasable_history_sample :
    (∀ s ∈ history .small Sample.calls SortedMap.empty, s.call.Strands .small s.before →
      s.receipt? = none) ∧ Sample.released.Releasable := by
  have hfirst : (Call.perform .small (.instantiate Sample.admin ⟨255, none, none⟩)
      SortedMap.empty).state = Sample.initialized := by
    rw [(perform_eq rfl).2]
    exact congrArg (·.stateOr SortedMap.empty) Sample.exec_instantiate
  have keeps : ∀ s ∈ history .small Sample.calls SortedMap.empty, s.call.Strands .small s.before →
      s.receipt? = none := by
    -- Only the second call sets a relation, and there is none before it.
    simp only [Sample.calls, history, List.mem_cons, List.not_mem_nil, or_false]
    rintro s (rfl | rfl | rfl | rfl | rfl | rfl | rfl) strands
    case inr.inl =>
      cases strands with
      | intro _ found =>
        simp [toStep, Step.after, hfirst, Sample.initialized] at found
        cases found
    all_goals cases strands
  refine ⟨keeps, ?_⟩
  have releasable := (releasable_history keeps).1
  rwa [Sample.run.2] at releasable

/-! ## A relation given another mint -/

namespace Sample

def otherMint : Address := ⟨Bytes.ofNat 32 27, by simp⟩

def otherAccount : Account := ⟨⟨Bytes.ofNat 32
  428937627906145592773613826684282836880704657313800872549520077683, by simp⟩, 255⟩

/-- The token whose mint has ten units locked is given another mint. -/
def remap : Call := .execute admin (.setTokenRelation chain token 6 otherMint 6)

def remapped : Ledger :=
  (proposed.put otherAccount.address
    (Pool.opened otherMint Environment.small.bridgeAuthority.address)).put tokenAccount.address
    (⟨chain, token, 6, otherMint, 6, otherAccount⟩ : TokenRelation)

theorem operation_remap : remap.operation .small =
    .ok ⟨TokenAccounts.setAccess .small ⟨tokenAccount, otherAccount⟩,
      setTokenRelation .small admin ⟨tokenAccount, otherAccount⟩ chain token 6 otherMint 6⟩ := by
  have hother : Environment.small.account (.pool otherMint) = .ok otherAccount := by
    decide +kernel
  simp only [remap, Call.operation, Command.operation, TokenAccounts.resolve, except_bind_eq_ok]
  exact ⟨_, ⟨_, account_token, _, hother, rfl⟩, rfl⟩

theorem exec_remap :
    (setTokenRelation .small admin ⟨tokenAccount, otherAccount⟩ chain token 6 otherMint 6).exec
      proposed =
        .ok (.tokenRelationSet chain token otherMint otherAccount.address true, remapped) := by
  simp [setTokenRelation, TokenRelation.runSet, proposed, related, added, opened, initialized]
  exact ⟨rfl, rfl⟩

theorem run_remap : Call.performAll .small (calls.take 5 ++ [remap]) SortedMap.empty = remapped :=
  (run_from_proposed (Call.run_cons operation_remap exec_remap (Call.run_nil _ _))).2

end Sample

/-- A relation of outstanding custody can be given another mint, and then there is none. -/
theorem Call.not_releasable_remap :
    Environment.small.Apart .tokenRelations (named .small (Sample.calls.take 5 ++ [Sample.remap])) ∧
      ¬ (performAll .small (Sample.calls.take 5 ++ [Sample.remap]) SortedMap.empty).Releasable := by
  constructor
  · unfold Environment.Apart
    decide +kernel
  · rw [Sample.run_remap]
    intro releasable
    have hpool : Sample.remapped.record? Pool Sample.poolAccount.address =
        some Sample.lockedPool := by
      have hne : Sample.otherAccount.address ≠ Sample.poolAccount.address := by decide
      simp [Sample.remapped, Sample.proposed, Ledger.record?_put, hne]
    obtain ⟨b, t, found, hmint⟩ := releasable _ _ hpool (by decide)
    simp [Sample.remapped, Sample.proposed, Sample.related, Sample.added, Sample.opened,
      Sample.initialized, Ledger.record?_put] at found
    split at found
    · cases found
      exact absurd hmint (by decide)
    · cases found

end CustodyBridge
