import CustodyBridge.Proofs.Bridge.Proposing

/-!
# Destinations in a run

The relation of a chain is opened by the first update that succeeds, and each of its fields holds
what it was given last, whatever other calls come in between. A proposal to the chain is refused by
what the relation then says.
-/

namespace CustodyBridge

/-! ## Updates one after another -/

/-- The value that updates give to a field last, if any of them sets it. -/
def ChainRelationUpdate.last? {α : Type} (field : ChainRelationUpdate → Option α)
    (updates : List ChainRelationUpdate) : Option α :=
  (updates.filterMap field).getLast?

theorem ChainRelationUpdate.last?_append_singleton {α : Type}
    (field : ChainRelationUpdate → Option α) (updates : List ChainRelationUpdate)
    (u : ChainRelationUpdate) :
    last? field (updates ++ [u]) = (field u).or (last? field updates) := by
  rw [last?, List.filterMap_append, List.getLast?_append, last?]
  cases h : field u <;> simp [h]

namespace ChainRelation

open ChainRelationUpdate (last?)

/-- A relation of a chain in which each field has the value that it was given last. A field that no
update sets has the value that a relation opens with. -/
structure SetBy (r : ChainRelation) (chain : Chain) (updates : List ChainRelationUpdate) :
    Prop where
  chain : r.chain = chain
  executor : r.executor = (last? (·.executor?) updates).getD Address.zero
  feeToken : r.feeToken = (last? (·.feeToken?) updates).getD Address.zero
  active : r.active = (last? (·.active?) updates).getD true

variable {r : ChainRelation} {chain : Chain} {updates : List ChainRelationUpdate}

theorem setBy_opened (chain : Chain) : (opened chain).SetBy chain [] := ⟨rfl, rfl, rfl, rfl⟩

theorem SetBy.update (h : r.SetBy chain updates) (u : ChainRelationUpdate) :
    (r.update u).SetBy chain (updates ++ [u]) := by
  refine ⟨h.chain, ?_, ?_, ?_⟩
  · rw [ChainRelationUpdate.last?_append_singleton, Option.getD_or, ← h.executor]
    rfl
  · rw [ChainRelationUpdate.last?_append_singleton, Option.getD_or, ← h.feeToken]
    rfl
  · rw [ChainRelationUpdate.last?_append_singleton, Option.getD_or, ← h.active]
    rfl

end ChainRelation

/-! ## Updates of a run -/

/-- What a call sets in the relation of a chain, if it is for that. -/
def Call.update? (chain : Chain) : Call → Option ChainRelationUpdate
  | execute _ (.setChainRelation other update) => if other = chain then some update else none
  | _ => none

namespace Step

/-- What a call of a run has set in the relation of a chain. A call that failed has set nothing. -/
def update? (chain : Chain) (s : Step) : Option ChainRelationUpdate :=
  s.receipt?.bind fun _ => s.call.update? chain

def updates (chain : Chain) (steps : List Step) : List ChainRelationUpdate :=
  steps.filterMap (update? chain)

theorem updates_append_singleton (chain : Chain) (steps : List Step) (s : Step) :
    updates chain (steps ++ [s]) = updates chain steps ++ (s.update? chain).toList := by
  rw [updates, List.filterMap_append, List.filterMap_cons, List.filterMap_nil]
  cases s.update? chain <;> rfl

theorem updates_cons {env : Environment} {c : Call} {rest : List Call} {op : Operation Receipt}
    {l l' left : Ledger} {chain : Chain} {r : Receipt} {updates : List ChainRelationUpdate}
    (hop : c.operation env = .ok op) (h : op.program.exec l = .ok (r, l'))
    (hrest : Step.updates chain (Call.history env rest l') = updates ∧
      Call.performAll env rest l' = left) :
    Step.updates chain (Call.history env (c :: rest) l) = (c.update? chain).toList ++ updates ∧
      Call.performAll env (c :: rest) l = left := by
  obtain ⟨houtcome, hstate⟩ := Call.perform_of_ok hop h
  obtain ⟨hhistory, hleft⟩ := Call.history_cons rest hstate
  have hupdate : (c.toStep env l).update? chain = c.update? chain := by
    rw [update?, receipt?_toStep_eq_some.2 houtcome]
    rfl
  refine ⟨?_, hleft.trans hrest.2⟩
  rw [hhistory, Step.updates, List.filterMap_cons, hupdate, ← hrest.1]
  cases c.update? chain <;> rfl

end Step

/-! ## One call -/

section call

variable {env : Environment} {c : Call} {l l' : Ledger} {chain : Chain} {named : List Purpose}
  {r : Receipt} {u : ChainRelationUpdate}

theorem Call.update?_eq_some (h : c.update? chain = some u) :
    ∃ caller, c = .execute caller (.setChainRelation chain u) := by
  unfold update? at h
  split at h
  · rename_i caller other update
    obtain ⟨rfl, hupdate⟩ := Option.ite_none_right_eq_some.1 h
    cases hupdate
    exact ⟨caller, rfl⟩
  · cases h

theorem Call.eq_of_chainRelations_mem (h : .chainRelations ∈ c.tables) :
    ∃ caller other update, c = .execute caller (.setChainRelation other update) := by
  cases c with
  | instantiate => simp [tables, command?] at h
  | propose => simp [tables, command?, Command.tables] at h
  | execute caller command =>
    cases command with
    | setChainRelation other update => exact ⟨caller, other, update, rfl⟩
    | _ => simp [tables, command?, Command.tables] at h

namespace Ledger

theorem chainRelation?_of_update (effect : Call.Effect env l c r l')
    (h : c.update? chain = some u) : l'.chainRelation? env chain =
      some (((l.chainRelation? env chain).getD (.opened chain)).update u) := by
  obtain ⟨caller, rfl⟩ := Call.update?_eq_some h
  cases effect with
  | execute effect =>
    cases effect with
    | setChainRelation found =>
      rw [chainRelation?_of_account found.resolved, chainRelation?_of_account found.resolved,
        record?_put_self, found.updated]

/-- All other calls leave it, those for other chains too: their relations have other accounts. -/
theorem chainRelation?_of_other (effect : Call.Effect env l c r l')
    (apart : env.Apart .chainRelations (.chainRelation chain :: named))
    (hnamed : ∀ q ∈ c.purposes env, q ∈ named) (h : c.update? chain = none) :
    l'.chainRelation? env chain = l.chainRelation? env chain := by
  cases ha : env.address? (.chainRelation chain) with
  | none => simp only [chainRelation?, ha, Option.bind_none]
  | some a =>
    simp only [chainRelation?, ha, Option.bind_some]
    by_cases hwrites : .chainRelations ∈ c.tables
    · obtain ⟨caller, other, update, rfl⟩ := Call.eq_of_chainRelations_mem hwrites
      have hother : other ≠ chain := fun same => by simp [Call.update?, same] at h
      cases effect with
      | execute effect =>
        cases effect with
        | setChainRelation found =>
          have haccount := Environment.address?_of_account found.resolved
          rw [record?_put, if_neg]
          rintro rfl
          have heq := apart _ (List.mem_cons_of_mem _ (hnamed _ List.mem_cons_self)) _
            List.mem_cons_self rfl rfl (by rw [haccount]; rfl) (haccount.trans ha.symm)
          exact hother (Purpose.chainRelation.inj heq)
    · exact record?_congr (get?_of_call effect hwrites a)

end Ledger

end call

/-! ## Runs -/

/-- The relation of a chain is there once there were updates, and has what they gave to it. -/
structure Ledger.Destined (env : Environment) (l : Ledger) (chain : Chain)
    (updates : List ChainRelationUpdate) : Prop where
  known : (∃ r, l.chainRelation? env chain = some r) ↔ updates ≠ []
  setBy : ∀ r, l.chainRelation? env chain = some r → r.SetBy chain updates

section runs

variable {env : Environment} {l l' : Ledger} {chain : Chain} {updates : List ChainRelationUpdate}

namespace Ledger.Destined

theorem empty (env : Environment) (chain : Chain) : Destined env SortedMap.empty chain [] := by
  have hnone : chainRelation? env SortedMap.empty chain = none := by
    cases ha : env.address? (.chainRelation chain) with
    | none => simp only [chainRelation?, ha, Option.bind_none]
    | some a =>
      simp only [chainRelation?, ha, Option.bind_some]
      rfl
  exact ⟨by simp [hnone], by simp [hnone]⟩

theorem congr (h : l.Destined env chain updates)
    (hsame : l'.chainRelation? env chain = l.chainRelation? env chain) :
    l'.Destined env chain updates := by
  refine ⟨?_, ?_⟩
  · rw [hsame]
    exact h.known
  · rw [hsame]
    exact h.setBy

theorem update (h : l.Destined env chain updates) {u : ChainRelationUpdate}
    (hupdated : l'.chainRelation? env chain =
      some (((l.chainRelation? env chain).getD (.opened chain)).update u)) :
    l'.Destined env chain (updates ++ [u]) := by
  have hbefore : ((l.chainRelation? env chain).getD (.opened chain)).SetBy chain updates := by
    cases hr : l.chainRelation? env chain with
    | some r => exact h.setBy r hr
    | none =>
      have hnil : updates = [] := by
        by_contra hne
        obtain ⟨r, hr'⟩ := h.known.2 hne
        cases hr.symm.trans hr'
      rw [hnil]
      exact ChainRelation.setBy_opened chain
  refine ⟨⟨fun _ => by simp, fun _ => ⟨_, hupdated⟩⟩, fun r hr => ?_⟩
  cases hupdated.symm.trans hr
  exact hbefore.update u

end Ledger.Destined

theorem Call.destined_history {calls : List Call}
    (apart : env.Apart .chainRelations (.chainRelation chain :: named env calls)) :
    (performAll env calls SortedMap.empty).Destined env chain
      (Step.updates chain (history env calls SortedMap.empty)) := by
  refine history_induction (P := fun steps l => l.Destined env chain (Step.updates chain steps))
    (.empty env chain) ?_
  intro c hc steps l h
  rw [Step.updates_append_singleton]
  cases hr : (c.toStep env l).receipt? with
  | none =>
    rw [Step.update?, hr, Option.bind_none, Option.toList_none, List.append_nil,
      Step.after_of_receipt?_eq_none hr]
    exact h
  | some r =>
    have effect := Step.effect_of_receipt? hr
    rw [Step.update?, hr, Option.bind_some]
    change (c.toStep env l).after.Destined env chain (_ ++ (c.update? chain).toList)
    cases hu : c.update? chain with
    | some u => exact h.update (Ledger.chainRelation?_of_update effect hu)
    | none =>
      rw [Option.toList_none, List.append_nil]
      exact h.congr (Ledger.chainRelation?_of_other effect apart (fun q hq => mem_named hc hq) hu)

end runs

/-! ## Proposals -/

namespace ProposalRequest

variable {env : Environment} {l : Ledger} {request : ProposalRequest} {a : ProposalAccounts}
  {funds : List Funds} {e : BridgeError} {chain : Chain}

theorem firstUnmet_of_unknown (initialized : l.Initialized env)
    (missing : l.chainRelation? env request.toChain = none) :
    Need.FirstUnmet (request.checks env l funds) e ↔ e = .unknownChainRelation request.toChain := by
  simp [checks, ChainRelation.needs, initialized, missing]

theorem firstUnmet_of_inactive {r : ChainRelation} (initialized : l.Initialized env)
    (found : l.chainRelation? env request.toChain = some r) (inactive : r.active = false) :
    Need.FirstUnmet (request.checks env l funds) e ↔ e = .chainInactive request.toChain := by
  simp [checks, ChainRelation.needs, initialized, found, inactive]

theorem ne_of_stage {fee : UInt64} (h : (request.stage env a fee).exec l = .error e) :
    e ≠ .unknownChainRelation chain ∧ e ≠ .chainInactive chain := by
  constructor
  all_goals
    rintro rfl
    simp [stage, Pool.runLock, Pool.lock, FeeVault.runCredit, FeeVault.credit,
      NonceCounter.runIssue, NonceCounter.advance] at h

theorem ne_of_active {r : ChainRelation} (initialized : l.Initialized env)
    (found : l.chainRelation? env request.toChain = some r) (active : r.active = true)
    (h : Need.FirstUnmet (request.checks env l funds ++ [request.stageNeed env a l]) e) :
    e ≠ .unknownChainRelation chain ∧ e ≠ .chainInactive chain := by
  obtain first | ⟨-, staged⟩ := Need.firstUnmet_append.1 h
  · constructor
    all_goals
      rintro rfl
      simp [checks, ChainRelation.needs, TokenRelation.needs, fundsNeeds, initialized, found,
        active] at first
  · obtain ⟨-, fee, -, failed⟩ | ⟨-, behind⟩ := Need.firstUnmet_cons.1 staged
    · exact ne_of_stage failed
    · cases behind

end ProposalRequest

namespace Call

section proposals

variable {env : Environment} {l : Ledger} {request : ProposalRequest} {a : ProposalAccounts}
  {c : Call} {e : BridgeError} (readable : l.Readable) (singles : l.HasSingles env)
  (hc : c.command? = some (.propose request))
  (accounts : ProposalAccounts.resolve env request.toChain request.toToken request.mint = .ok a)

include readable singles hc accounts

theorem firstUnmet_of_outcome (h : (c.perform env l).outcome = .error e) :
    Need.FirstUnmet (request.checks env l c.caller.funds ++ [request.stageNeed env a l]) e :=
  ProposalRequest.firstUnmet_of_exec readable (fun _ => singles) accounts
    (exec_of_outcome hc accounts h)

/-- Where a check tells one error alone, the proposal fails with it. -/
theorem outcome_of_firstUnmet (rated : l.Rated)
    (only : ∀ e', Need.FirstUnmet (request.checks env l c.caller.funds) e' ↔ e' = e) :
    (c.perform env l).outcome = .error e := by
  have unmet := ((only e).2 rfl).not_all_met
  have hends : (∃ r, (c.perform env l).outcome = .ok r) ∨ _ := c.succeeds_or_refuses rated
  obtain ⟨r, hr⟩ | ⟨e', he⟩ := hends
  · have met := ProposalRequest.all_met_of_effect ((effect_of_perform hr).of_command? hc)
    rw [ProposalRequest.needs_eq] at met
    exact absurd (fun n hn => met n (List.mem_append_left _ hn)) unmet
  · obtain first | ⟨met, -⟩ :=
      Need.firstUnmet_append.1 (firstUnmet_of_outcome readable singles hc accounts he)
    · rw [he, (only e').1 first]
    · exact absurd met unmet

theorem refuses_destination_iff (rated : l.Rated) (other : Chain) :
    ((c.perform env l).outcome = .error (.unknownChainRelation other) ↔
      other = request.toChain ∧ l.chainRelation? env request.toChain = none) ∧
    ((c.perform env l).outcome = .error (.chainInactive other) ↔
      other = request.toChain ∧
        ∃ r, l.chainRelation? env request.toChain = some r ∧ r.active = false) := by
  have initialized : l.Initialized env := singles.config
  cases hrelation : l.chainRelation? env request.toChain with
  | none =>
    have houtcome := outcome_of_firstUnmet readable singles hc accounts rated
      fun _ => ProposalRequest.firstUnmet_of_unknown initialized hrelation
    simp [houtcome, eq_comm (a := other)]
  | some r =>
    cases hactive : r.active with
    | false =>
      have houtcome := outcome_of_firstUnmet readable singles hc accounts rated
        fun _ => ProposalRequest.firstUnmet_of_inactive initialized hrelation hactive
      simp [houtcome, hactive, eq_comm (a := other)]
    | true =>
      have hne : ∀ e, (c.perform env l).outcome = .error e →
          e ≠ .unknownChainRelation other ∧ e ≠ .chainInactive other := fun e he =>
        ProposalRequest.ne_of_active initialized hrelation hactive
          (firstUnmet_of_outcome readable singles hc accounts he)
      refine ⟨⟨fun he => absurd rfl (hne _ he).1, by simp⟩,
        ⟨fun he => absurd rfl (hne _ he).2, ?_⟩⟩
      simp [hactive]

end proposals

end Call

/-! ## Destinations -/

namespace Call

/-- Behind every run, a chain has a relation exactly if an update for it succeeded. Each field of
the relation has the value that it was given last, or else the one that it opened with. A proposal
to the chain is refused as one to an unknown chain exactly where the relation is missing, and as one
to an inactive chain exactly where its flag is off. -/
theorem destinations_decided {env : Environment} {calls : List Call} {chain : Chain}
    (apart : env.Apart .chainRelations (.chainRelation chain :: named env calls)) :
    let l := performAll env calls SortedMap.empty
    let updates := Step.updates chain (history env calls SortedMap.empty)
    ((∃ r, l.chainRelation? env chain = some r) ↔ updates ≠ []) ∧
    (∀ r, l.chainRelation? env chain = some r → r.SetBy chain updates) ∧
    ∀ (c : Call) (request : ProposalRequest) (a : ProposalAccounts), l.Initialized env →
      c.command? = some (.propose request) → request.toChain = chain →
      ProposalAccounts.resolve env chain request.toToken request.mint = .ok a →
      ∀ other,
        ((c.perform env l).outcome = .error (.unknownChainRelation other) ↔
          other = chain ∧ l.chainRelation? env chain = none) ∧
        ((c.perform env l).outcome = .error (.chainInactive other) ↔
          other = chain ∧ ∃ r, l.chainRelation? env chain = some r ∧ r.active = false) := by
  intro l updates
  have destined : l.Destined env chain updates := destined_history apart
  refine ⟨destined.known, destined.setBy, ?_⟩
  rintro c request a initialized hc rfl accounts other
  have readable : l.Readable := (sound_history env calls).readable
  have singles : l.HasSingles env := singles_of_initialized initialized
  exact refuses_destination_iff readable singles hc accounts (rated_performAll env calls) other

end Call

namespace Sample

def closing : ChainRelationUpdate := ⟨none, some token, some false⟩

def closedRelation : ChainRelation := ⟨chain, executor, token, false⟩

/-- A chain is opened with its executor, and later closed. -/
def settings : List Call := [
  .instantiate admin ⟨255, none, none⟩,
  .execute admin (.setChainRelation chain ⟨some executor, none, none⟩),
  .execute admin (.setChainRelation chain closing)]

def closed : Ledger :=
  (initialized.put chainAccount.address chainRelation).put chainAccount.address closedRelation

theorem exec_opening :
    (setChainRelation .small admin chainAccount chain ⟨some executor, none, none⟩).exec
      initialized = .ok (.chainRelationSet chain chainRelation,
        initialized.put chainAccount.address chainRelation) := by
  simp [setChainRelation, initialized]
  exact ⟨fun _ => rfl, rfl⟩

theorem exec_closing :
    (setChainRelation .small admin chainAccount chain closing).exec
      (initialized.put chainAccount.address chainRelation) =
        .ok (.chainRelationSet chain closedRelation, closed) := by
  simp [setChainRelation, initialized]
  exact ⟨Ledger.legible_of_found Ledger.record?_put_self, rfl, rfl⟩

theorem operation_closing :
    (Call.execute admin (.setChainRelation chain closing)).operation .small =
      .ok ⟨chainRelationAccess .small chainAccount,
        setChainRelation .small admin chainAccount chain closing⟩ := by
  simp only [Call.operation, Command.operation, except_bind_eq_ok]
  exact ⟨_, account_chain, rfl⟩

theorem updates_settings :
    Step.updates chain (Call.history .small settings SortedMap.empty) =
        [⟨some executor, none, none⟩, closing] ∧
      Call.performAll .small settings SortedMap.empty = closed := by
  refine Step.updates_cons rfl exec_instantiate
    (Step.updates_cons operation_setChainRelation exec_opening ?_)
  exact Step.updates_cons operation_closing exec_closing ⟨rfl, rfl⟩

end Sample

/-- The executor given first is kept by the update that closes the chain. -/
theorem Call.destinations_decided_sample :
    Environment.small.Apart .chainRelations
        (.chainRelation Sample.chain :: named .small Sample.settings) ∧
      Sample.closedRelation.SetBy Sample.chain
        [⟨some Sample.executor, none, none⟩, Sample.closing] ∧
      ((Call.propose Sample.sender Sample.request).perform .small Sample.closed).outcome =
        .error (.chainInactive Sample.chain) := by
  have apart : Environment.small.Apart .chainRelations
      (.chainRelation Sample.chain :: named .small Sample.settings) := by
    unfold Environment.Apart
    decide +kernel
  have hdecided := destinations_decided apart
  rw [Sample.updates_settings.1, Sample.updates_settings.2] at hdecided
  obtain ⟨-, hset, hrefuses⟩ := hdecided
  have found : Sample.closed.chainRelation? .small Sample.chain = some Sample.closedRelation := by
    rw [Ledger.chainRelation?_of_account Sample.account_chain, Sample.closed,
      Ledger.record?_put_self]
  have initialized : Sample.closed.Initialized .small := by
    simp [Ledger.Initialized, Sample.closed, Sample.initialized]
  have inactive := hrefuses (.propose Sample.sender Sample.request) Sample.request _ initialized rfl
    rfl Sample.resolve_proposal Sample.chain
  exact ⟨apart, hset _ found, inactive.2.2 ⟨rfl, _, found, rfl⟩⟩

end CustodyBridge
