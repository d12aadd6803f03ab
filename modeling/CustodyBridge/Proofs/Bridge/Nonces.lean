import CustodyBridge.Bridge.Answering
import CustodyBridge.Proofs.Bridge.Frames
import CustodyBridge.Proofs.FeeVault
import CustodyBridge.Proofs.Message

/-!
# Nonces

A proposal takes its nonce from the counter of its destination and advances that counter alone. So
the proposals of a run are numbered, and no two of them are the same message.
-/

namespace CustodyBridge

/-! ## Proposals of a run -/

def Receipt.proposal? : Receipt → Option Proposal
  | proposed p => some p
  | _ => none

def Call.destination? : Call → Option Chain
  | propose _ request | execute _ (.propose request) => some request.toChain
  | _ => none

namespace Step

/-- The proposal that a call made, if it did and succeeded. -/
def proposal? (s : Step) : Option Proposal := s.receipt?.bind Receipt.proposal?

/-- The proposals of a run, in the order in which they succeeded. -/
def proposals (steps : List Step) : List Proposal := (receipts steps).filterMap Receipt.proposal?

def proposalsTo (chain : Chain) (steps : List Step) : List Proposal :=
  (proposals steps).filter (·.destinationChain = chain)

theorem proposals_append_singleton (steps : List Step) (s : Step) :
    proposals (steps ++ [s]) = proposals steps ++ s.proposal?.toList := by
  rw [proposals, receipts, List.filterMap_append, List.filterMap_append, proposal?]
  cases hr : s.receipt? with
  | none => simp [proposals, receipts, hr]
  | some r => cases hp : r.proposal? <;> simp [proposals, receipts, hr, hp]

theorem proposalsTo_append_singleton (chain : Chain) (steps : List Step) (s : Step) :
    proposalsTo chain (steps ++ [s]) = proposalsTo chain steps ++
      (s.proposal?.filter (·.destinationChain = chain)).toList := by
  rw [proposalsTo, proposals_append_singleton, List.filter_append, proposalsTo]
  cases s.proposal? with
  | none => rfl
  | some p => by_cases hp : p.destinationChain = chain <;> simp [Option.filter, hp]

end Step

/-! ## One call -/

/-- A proposal is the next one of its destination, whose counter it advances. -/
inductive Proposal.Issued (env : Environment) (l l' : Ledger) (p : Proposal) : Prop where
  | intro {a : Account} {counter counter' : NonceCounter}
      (account : env.account (.nonceCounter p.destinationChain) = .ok a)
      (legible : l.Legible NonceCounter a.address)
      (found : (l.record? NonceCounter a.address).getD (.opened p.destinationChain) = counter)
      (nonce : p.nonce = counter.next)
      (advanced : counter.advance = .ok counter')
      (left : ∀ b, SortedMap.get? l' (Table.nonceCounters.key b) =
        if a.address = b then some (JsonForm.write counter')
        else SortedMap.get? l (Table.nonceCounters.key b))
      (id : p.id = keccak256 p.wire)

theorem Ledger.record?_of_counters {l l' : Ledger} {a : Address} {counter : NonceCounter}
    (h : ∀ b, SortedMap.get? l' (Table.nonceCounters.key b) =
      if a = b then some (JsonForm.write counter)
      else SortedMap.get? l (Table.nonceCounters.key b)) (b : Address) :
    l'.record? NonceCounter b = if a = b then some counter else l.record? NonceCounter b := by
  rw [record?, table_nonceCounter, h]
  split
  · rw [Option.bind_some, read?_write]
  · rfl

section calls

variable {env : Environment} {l l' : Ledger} {r : Receipt} {p : Proposal}

theorem issued_of_command {caller : Caller} {c : Command}
    (h : Command.Effect env caller l c (.proposed p) l') :
    p.Issued env l l' ∧ .nonceCounter p.destinationChain ∈ c.purposes env caller.sender := by
  cases h with
  | propose found =>
    obtain ⟨-, -, -, hcounter⟩ := ProposalAccounts.resolve_eq_ok found.resolved
    refine ⟨.intro hcounter found.counter_legible found.counter_found rfl found.advanced
      (fun b => ?_) (Proposal.id_sealed _), ?_⟩
    · rw [← table_nonceCounter, Ledger.get?_put]
      simp
    · simp only [Command.purposes, List.mem_cons]
      exact .inr (.inr (.inr (.inl rfl)))

theorem counters_of_command {caller : Caller} {c : Command}
    (h : Command.Effect env caller l c r l') (hr : r.proposal? = none) (b : Address) :
    SortedMap.get? l' (Table.nonceCounters.key b) =
      SortedMap.get? l (Table.nonceCounters.key b) := by
  refine Ledger.get?_of_command h ?_ b
  cases h with
  | propose => cases hr
  | _ => simp [Command.tables]

theorem issued_of_call {c : Call} (h : Call.Effect env l c (.proposed p) l') :
    p.Issued env l l' ∧ .nonceCounter p.destinationChain ∈ c.purposes env := by
  cases h with
  | propose effect => exact issued_of_command effect
  | execute effect => exact issued_of_command effect

theorem counters_of_call {c : Call} (h : Call.Effect env l c r l') (hr : r.proposal? = none)
    (b : Address) : SortedMap.get? l' (Table.nonceCounters.key b) =
      SortedMap.get? l (Table.nonceCounters.key b) := by
  cases h with
  | instantiate => simp
  | propose effect => exact counters_of_command effect hr b
  | execute effect => exact counters_of_command effect hr b

variable {c : Call}

theorem Step.issued_of_proposal? (h : (c.toStep env l).proposal? = some p) :
    p.Issued env l (c.toStep env l).after ∧ .nonceCounter p.destinationChain ∈ c.purposes env := by
  obtain ⟨r, hr, hp⟩ := Option.bind_eq_some_iff.1 h
  cases r with
  | proposed q =>
    cases hp
    exact issued_of_call (effect_of_receipt? hr)
  | _ => cases hp

theorem Step.counters_of_proposal? (h : (c.toStep env l).proposal? = none) (b : Address) :
    SortedMap.get? (c.toStep env l).after (Table.nonceCounters.key b) =
      SortedMap.get? l (Table.nonceCounters.key b) := by
  cases hr : (c.toStep env l).receipt? with
  | none => rw [after_of_receipt?_eq_none hr]
  | some r =>
    rw [proposal?, hr, Option.bind_some] at h
    exact counters_of_call (effect_of_receipt? hr) h b

end calls

/-! ## Numbers of a chain -/

/-- The counter at an address has counted the proposals, which are numbered from zero. -/
structure Ledger.Numbered (l : Ledger) (chain : Chain) (a : Address) (ps : List Proposal) :
    Prop where
  legible : l.Legible NonceCounter a
  next : ((l.record? NonceCounter a).getD (.opened chain)).next.toNat = ps.length
  nonces : ps.map (·.nonce.toNat) = List.range ps.length

section numbered

variable {env : Environment} {l l' : Ledger} {chain : Chain} {a : Address} {ps : List Proposal}
  {p : Proposal}

namespace Ledger

theorem numbered_empty : Ledger.Numbered SortedMap.empty chain a [] := ⟨fun _ => rfl, rfl, rfl⟩

theorem Numbered.congr (h : l.Numbered chain a ps)
    (hget : SortedMap.get? l' (Table.nonceCounters.key a) =
      SortedMap.get? l (Table.nonceCounters.key a)) : l'.Numbered chain a ps := by
  rw [← table_nonceCounter] at hget
  refine ⟨(legible_congr hget).2 h.legible, ?_, h.nonces⟩
  rw [record?_congr hget]
  exact h.next

theorem Numbered.issued (h : l.Numbered p.destinationChain a ps) (hissued : p.Issued env l l')
    (account : env.address? (.nonceCounter p.destinationChain) = some a) :
    l'.Numbered p.destinationChain a (ps ++ [p]) := by
  obtain @⟨b, counter, counter', account', -, found, nonce, advanced, left, -⟩ := hissued
  obtain rfl : b.address = a :=
    Option.some.inj ((Environment.address?_of_account account').symm.trans account)
  obtain ⟨-, hnext, hnonces⟩ := h
  rw [found] at hnext
  have hput : l'.record? NonceCounter b.address = some counter' := by
    rw [record?_of_counters left, if_pos rfl]
  rw [NonceCounter.advance_eq_ok] at advanced
  refine ⟨fun hnone => ?_, ?_, ?_⟩
  · rw [hput] at hnone
    cases hnone
  · rw [hput, Option.getD_some, List.length_append, List.length_singleton, ← hnext, advanced.1]
  · rw [List.map_append, hnonces, List.length_append, List.length_singleton, List.range_succ,
      List.map_singleton, nonce, hnext]

end Ledger

theorem Step.counter_of_proposal? {named : List Purpose} {c : Call}
    (apart : env.Apart .nonceCounters (.nonceCounter chain :: named))
    (hnamed : ∀ q ∈ c.purposes env, q ∈ named)
    (account : env.address? (.nonceCounter chain) = some a)
    (h : ∀ p, (c.toStep env l).proposal? = some p → p.destinationChain ≠ chain) :
    SortedMap.get? (c.toStep env l).after (Table.nonceCounters.key a) =
      SortedMap.get? l (Table.nonceCounters.key a) := by
  cases hp : (c.toStep env l).proposal? with
  | none => exact counters_of_proposal? hp a
  | some p =>
    obtain ⟨⟨account', -, -, -, -, left, -⟩, hmem⟩ := issued_of_proposal? hp
    rw [left, if_neg]
    rintro rfl
    have heq := apart _ (List.mem_cons_of_mem _ (hnamed _ hmem)) _ List.mem_cons_self rfl rfl
      (by rw [Environment.address?_of_account account']; rfl)
      ((Environment.address?_of_account account').trans account.symm)
    exact h p hp (Purpose.nonceCounter.inj heq)

theorem Call.numbered_history {calls : List Call}
    (apart : env.Apart .nonceCounters (.nonceCounter chain :: named env calls))
    (account : env.address? (.nonceCounter chain) = some a) :
    (performAll env calls SortedMap.empty).Numbered chain a
      (Step.proposalsTo chain (history env calls SortedMap.empty)) := by
  refine history_induction (P := fun steps l => l.Numbered chain a (Step.proposalsTo chain steps))
    Ledger.numbered_empty ?_
  intro c hc steps l h
  rw [Step.proposalsTo_append_singleton]
  -- Only a proposal to the chain itself reaches its counter: others have counters elsewhere.
  by_cases hto : ∃ p, (c.toStep env l).proposal? = some p ∧ p.destinationChain = chain
  · obtain ⟨p, hp, rfl⟩ := hto
    rw [hp, Option.filter_some_pos (by simp)]
    exact h.issued (Step.issued_of_proposal? hp).1 account
  · have hother : ∀ p, (c.toStep env l).proposal? = some p → p.destinationChain ≠ chain :=
      fun p hp hchain => hto ⟨p, hp, hchain⟩
    rw [Option.filter_eq_none_iff.2 (by simpa using hother), Option.toList_none, List.append_nil]
    exact h.congr (Step.counter_of_proposal? apart (fun q hq => mem_named hc hq) account hother)

theorem Call.proposalsTo_eq_nil {calls : List Call}
    (account : env.address? (.nonceCounter chain) = none) :
    Step.proposalsTo chain (history env calls SortedMap.empty) = [] := by
  refine history_induction (P := fun steps _ => Step.proposalsTo chain steps = []) rfl ?_
  intro c _ steps l h
  rw [Step.proposalsTo_append_singleton, h, List.nil_append, Option.toList_eq_nil_iff,
    Option.filter_eq_none_iff]
  intro p hp hchain
  obtain ⟨⟨account', -, -, -, -, -, -⟩, -⟩ := Step.issued_of_proposal? hp
  rw [of_decide_eq_true hchain] at account'
  rw [Environment.address?_of_account account'] at account
  cases account

theorem Ledger.Numbered.query {b : Account} (h : l.Numbered chain b.address ps)
    (account : env.account (.nonceCounter chain) = .ok b) :
    ∃ n : UInt64, n.toNat = ps.length ∧
      (Query.currentNonce chain).perform env l = .ok (.nonce n) := by
  refine ⟨_, h.next, ?_⟩
  rw [Query.perform, Program.query_eq]
  simp only [Query.answer, Query.account, account, NonceCounter.runCurrent, Except.mapError,
    Program.exec_bind, Program.exec_ofExcept, Outcome.ofExcept, Outcome.ok_map, Outcome.ok_bind,
    Record.exec_load?_eq_ok.2 ⟨h.legible, rfl, rfl⟩]
  cases l.record? NonceCounter b.address <;> rfl

end numbered

/-! ## Exhausted counters -/

section exhausted

variable {env : Environment} {l l₀ : Ledger}

theorem NonceCounter.exec_runIssue_of_exhausted {a : Account} {chain : Chain} {c : NonceCounter}
    (found : l.record? NonceCounter a.address = some c) (exhausted : c.next = Amount.max) :
    (runIssue a chain).exec l = .error .amountOverflow := by
  unfold runIssue
  rw [Program.exec_bind_of_ok (Record.exec_load?_eq_ok_some.2 ⟨found, rfl⟩)]
  dsimp only [Option.getD_some]
  rw [advance_eq_error exhausted]
  rfl

theorem exec_propose_of_exhausted {caller : Caller} {request : ProposalRequest} {receipt : Receipt}
    {left : Ledger} {a : ProposalAccounts} {counter : NonceCounter}
    (hsuccess : Command.Effect env caller l₀ (.propose request) receipt left)
    (accounts : ProposalAccounts.resolve env request.toChain request.toToken request.mint = .ok a)
    (same : ∀ key, key ≠ Table.nonceCounters.key a.nonceCounter.address →
      SortedMap.get? l key = SortedMap.get? l₀ key)
    (found : l.record? NonceCounter a.nonceCounter.address = some counter)
    (exhausted : counter.next = Amount.max) :
    (propose env caller a request).exec l = .error .amountOverflow := by
  have hsame : ∀ (ρ : Type) [Record ρ] (b : Address), Record.table ρ ≠ .nonceCounters →
      l.record? ρ b = l₀.record? ρ b := fun ρ _ b hρ =>
    Ledger.record?_congr (same _ fun hk => hρ (Table.key_inj.1 hk).1)
  cases hsuccess with
  | @propose _ a' _ found₀ =>
    obtain rfl : a = a' := Except.ok.inj (accounts.symm.trans found₀.resolved)
    let staging : request.Staging env caller a _ l := {
      found₀.toStaging with
      config_found := (hsame _ _ (by decide)).trans found₀.config_found
      core_found := (hsame _ _ (by decide)).trans found₀.core_found
      relation_found := (hsame _ _ (by decide)).trans found₀.relation_found
      token_found := (hsame _ _ (by decide)).trans found₀.token_found
      pool_found := (hsame _ _ (by decide)).trans found₀.pool_found
      vault_found := (hsame _ _ (by decide)).trans found₀.vault_found }
    rw [staging.exec_propose,
      NonceCounter.exec_runIssue_of_exhausted (by simpa using found) exhausted]
    rfl

theorem Call.perform_of_destination? {c : Call} {chain : Chain} (h : c.destination? = some chain) :
    ∃ caller request, request.toChain = chain ∧
      ∀ env l, c.perform env l = (Call.propose caller request).perform env l := by
  cases c with
  | instantiate => cases h
  | propose caller request => exact ⟨caller, request, Option.some.inj h, fun _ _ => rfl⟩
  | execute caller command =>
    cases command with
    | propose request => exact ⟨caller, request, Option.some.inj h, fun _ _ => rfl⟩
    | _ => cases h

theorem Call.operation_propose {caller : Caller} {request : ProposalRequest} {a : ProposalAccounts}
    (h : ProposalAccounts.resolve env request.toChain request.toToken request.mint = .ok a) :
    (Call.propose caller request).operation env = .ok (Operation.map Receipt.proposed
      ⟨a.access env, CustodyBridge.propose env caller a request⟩) := by
  simp only [operation, Command.operation, proposeOperation, h]
  rfl

theorem Call.accounts_of_propose {caller : Caller} {request : ProposalRequest} {r : Receipt}
    (h : ((propose caller request).perform env l).outcome = .ok r) :
    ∃ left a counter, Command.Effect env caller l (.propose request) r left ∧
      ProposalAccounts.resolve env request.toChain request.toToken request.mint = .ok a ∧
      ((l.record? NonceCounter a.nonceCounter.address).getD (.opened request.toChain)).advance =
        .ok counter := by
  have heffect := effect_of_perform h
  generalize ((propose caller request).perform env l).state = left at heffect
  cases heffect with
  | propose effect =>
    have hsame := effect
    cases effect with
    | propose found =>
      exact ⟨_, _, _, hsame, found.resolved, found.counter_found ▸ found.advanced⟩

theorem Call.perform_of_exhausted {c : Call} {chain : Chain} {a : Address}
    {counter : NonceCounter} (h : c.destination? = some chain)
    (account : env.address? (.nonceCounter chain) = some a)
    (found : l.record? NonceCounter a = some counter) (exhausted : counter.next = Amount.max) :
    (∀ r, (c.perform env l).outcome ≠ .ok r) ∧ (c.perform env l).state = l ∧
      ∀ l₀ r, (∀ key, key ≠ Table.nonceCounters.key a →
          SortedMap.get? l key = SortedMap.get? l₀ key) →
        (c.perform env l₀).outcome = .ok r →
          (c.perform env l).outcome = .error .amountOverflow := by
  obtain ⟨caller, request, rfl, hperform⟩ := perform_of_destination? h
  simp only [hperform]
  have hfails : ∀ r, ((propose caller request).perform env l).outcome ≠ .ok r := by
    intro r hr
    obtain ⟨-, accounts, _, -, haccounts, advanced⟩ := accounts_of_propose hr
    obtain ⟨-, -, -, hcounter⟩ := ProposalAccounts.resolve_eq_ok haccounts
    rw [Environment.address?_of_account hcounter] at account
    obtain rfl := Option.some.inj account
    rw [found, Option.getD_some, NonceCounter.advance_eq_error exhausted] at advanced
    cases advanced
  refine ⟨hfails, state_of_failure hfails, fun l₀ r same hr => ?_⟩
  obtain ⟨_, accounts, _, effect, haccounts, -⟩ := accounts_of_propose hr
  obtain ⟨-, -, -, hcounter⟩ := ProposalAccounts.resolve_eq_ok haccounts
  rw [Environment.address?_of_account hcounter] at account
  obtain rfl := Option.some.inj account
  rw [(perform_eq (operation_propose haccounts)).1]
  simp only [Operation.map, Program.exec_bind]
  rw [exec_propose_of_exhausted effect haccounts same found exhausted]
  rfl

end exhausted

/-! ## Nonces of every run -/

theorem Call.exists_of_mem_history {env : Environment} {calls : List Call} {s : Step}
    (h : s ∈ history env calls SortedMap.empty) : ∃ c ∈ calls, ∃ l, s = c.toStep env l := by
  refine history_induction (P := fun steps _ => ∀ s ∈ steps, ∃ c ∈ calls, ∃ l, s = c.toStep env l)
    (fun _ hs => nomatch hs) ?_ s h
  intro c hc steps l h s hs
  rcases List.mem_append.1 hs with hs | hs
  · exact h s hs
  · exact ⟨c, hc, l, List.mem_singleton.1 hs⟩

/-- In every run, the proposals to a chain are numbered from zero without a gap. No other call, and
none that fails, changes the chain's counter. The query for the nonce of the chain answers how many
proposals there were, and a counter at its end lets none succeed. -/
theorem Call.nonces_sequential {env : Environment} {calls : List Call} {chain : Chain}
    (apart : env.Apart .nonceCounters (.nonceCounter chain :: named env calls)) :
    let steps := history env calls SortedMap.empty
    let proposals := Step.proposalsTo chain steps
    proposals.map (·.nonce.toNat) = List.range proposals.length ∧
    (∀ a, env.address? (.nonceCounter chain) = some a → ∀ s ∈ steps,
      (∀ p, s.proposal? = some p → p.destinationChain ≠ chain) →
        SortedMap.get? s.after (Table.nonceCounters.key a) =
          SortedMap.get? s.before (Table.nonceCounters.key a)) ∧
    (∀ a, env.account (.nonceCounter chain) = .ok a → ∃ n : UInt64, n.toNat = proposals.length ∧
      (Query.currentNonce chain).perform env (performAll env calls SortedMap.empty) =
        .ok (.nonce n)) ∧
    (∀ (l : Ledger) (c : Call) (a : Address) (counter : NonceCounter),
      c.destination? = some chain → env.address? (.nonceCounter chain) = some a →
      l.record? NonceCounter a = some counter → counter.next = Amount.max →
        (∀ r, (c.perform env l).outcome ≠ .ok r) ∧ (c.perform env l).state = l ∧
        ∀ l₀ r, (∀ key, key ≠ Table.nonceCounters.key a →
            SortedMap.get? l key = SortedMap.get? l₀ key) →
          (c.perform env l₀).outcome = .ok r →
            (c.perform env l).outcome = .error .amountOverflow) := by
  refine ⟨?_, ?_, ?_, ?_⟩
  · cases account : env.address? (.nonceCounter chain) with
    | none =>
      rw [proposalsTo_eq_nil account]
      rfl
    | some a => exact (numbered_history apart account).nonces
  · intro a account s hs hother
    obtain ⟨c, hc, l, rfl⟩ := exists_of_mem_history hs
    exact Step.counter_of_proposal? apart (fun p hp => mem_named hc hp) account hother
  · intro a account
    exact (numbered_history apart (Environment.address?_of_account account)).query account
  · intro l c a counter hc account found exhausted
    exact perform_of_exhausted hc account found exhausted

theorem Call.nonces_sequential_sample :
    Step.proposalsTo Sample.chain (history .small Sample.calls SortedMap.empty) =
        [Sample.proposal] ∧
      (Query.currentNonce Sample.chain).perform .small Sample.released = .ok (.nonce 1) ∧
      ((propose Sample.sender Sample.request).perform .small (Sample.related.put
        Sample.counterAccount.address (⟨Sample.chain, Amount.max⟩ : NonceCounter))).outcome =
          .error .amountOverflow := by
  have hproposals : Step.proposalsTo Sample.chain (history .small Sample.calls SortedMap.empty) =
      [Sample.proposal] := by
    rw [Step.proposalsTo, Step.proposals, Sample.run.1]
    rfl
  have apart : Environment.small.Apart .nonceCounters
      (.nonceCounter Sample.chain :: named .small Sample.calls) := by
    unfold Environment.Apart
    decide +kernel
  obtain ⟨-, -, hquery, hexhausted⟩ := nonces_sequential apart
  obtain ⟨n, hn, hanswer⟩ := hquery _ Sample.account_counter
  rw [hproposals, List.length_singleton] at hn
  rw [Sample.run.2] at hanswer
  obtain rfl : n = 1 := UInt64.toNat_inj.1 hn
  have hsuccess : ((propose Sample.sender Sample.request).perform .small Sample.related).outcome =
      .ok (.proposed Sample.proposal) := by
    rw [(perform_eq Sample.operation_propose).1, Sample.exec_proposing]
    rfl
  obtain ⟨-, -, hfails⟩ := hexhausted _ (.propose Sample.sender Sample.request) _
    ⟨Sample.chain, Amount.max⟩ rfl (Environment.address?_of_account Sample.account_counter)
    Ledger.record?_put_self rfl
  exact ⟨hproposals, hanswer, hfails _ _
    (fun _ hkey => SortedMap.get?_insert_of_ne _ _ (Ne.symm hkey)) hsuccess⟩

/-! ## Messages of every run -/

/-- Proposals to one chain have ascending nonces, which the counter of the chain has passed. Nothing
is said of chains whose counters might be one. -/
structure Ledger.Spent (env : Environment) (l : Ledger) (ps : List Proposal) : Prop where
  ascend : ps.Pairwise fun p q => p.destinationChain = q.destinationChain → p.nonce < q.nonce
  passed : ∀ p ∈ ps, ∃ a counter, env.address? (.nonceCounter p.destinationChain) = some a ∧
    l.record? NonceCounter a = some counter ∧ p.nonce < counter.next
  id : ∀ p ∈ ps, p.id = keccak256 p.wire

section messages

variable {env : Environment} {l l' : Ledger} {ps : List Proposal} {p : Proposal}

theorem Ledger.Spent.congr (h : l.Spent env ps)
    (hget : ∀ b, SortedMap.get? l' (Table.nonceCounters.key b) =
      SortedMap.get? l (Table.nonceCounters.key b)) : l'.Spent env ps := by
  rw [← table_nonceCounter] at hget
  refine ⟨h.ascend, fun p hp => ?_, h.id⟩
  obtain ⟨a, counter, account, found, hlt⟩ := h.passed p hp
  exact ⟨a, counter, account, (record?_congr (hget a)).trans found, hlt⟩

theorem Ledger.Spent.issued (h : l.Spent env ps) (hissued : p.Issued env l l') :
    l'.Spent env (ps ++ [p]) := by
  obtain @⟨a, counter, counter', account, -, found, nonce, advanced, left, hid⟩ := hissued
  have account := Environment.address?_of_account account
  have hput := record?_of_counters left
  have hnext : counter.next < counter'.next := by
    rw [NonceCounter.advance_eq_ok] at advanced
    rw [UInt64.lt_iff_toNat_lt]
    omega
  refine ⟨?_, ?_, ?_⟩
  · rw [List.pairwise_append]
    refine ⟨h.ascend, List.pairwise_singleton _ _, fun q hq p' hp' hchain => ?_⟩
    -- The counter that gives the new nonce has passed every earlier one of the same chain.
    obtain rfl := List.mem_singleton.1 hp'
    obtain ⟨b, old, hb, hold, hlt⟩ := h.passed q hq
    rw [hchain, account] at hb
    cases hb
    rw [hold, Option.getD_some] at found
    rwa [nonce, ← found]
  · intro q hq
    rcases List.mem_append.1 hq with hq | hq
    · obtain ⟨b, old, hb, hold, hlt⟩ := h.passed q hq
      by_cases hab : a.address = b
      · subst hab
        rw [hold, Option.getD_some] at found
        refine ⟨_, counter', hb, by rw [hput, if_pos rfl], ?_⟩
        exact UInt64.lt_trans hlt (found ▸ hnext)
      · exact ⟨b, old, hb, by rw [hput, if_neg hab, hold], hlt⟩
    · obtain rfl := List.mem_singleton.1 hq
      exact ⟨_, counter', account, by rw [hput, if_pos rfl], nonce ▸ hnext⟩
  · intro q hq
    rcases List.mem_append.1 hq with hq | hq
    · exact h.id q hq
    · exact List.mem_singleton.1 hq ▸ hid

theorem Call.spent_history (env : Environment) (calls : List Call) :
    (performAll env calls SortedMap.empty).Spent env
      (Step.proposals (history env calls SortedMap.empty)) := by
  refine history_induction (P := fun steps l => l.Spent env (Step.proposals steps))
    ⟨.nil, nofun, nofun⟩ ?_
  intro c _ steps l h
  rw [Step.proposals_append_singleton]
  cases hp : (c.toStep env l).proposal? with
  | none =>
    rw [Option.toList_none, List.append_nil]
    exact h.congr (Step.counters_of_proposal? hp)
  | some p => exact h.issued (Step.issued_of_proposal? hp).1

end messages

/-- In every run, no two proposals have the same bytes on the wire. So where two have the same id,
the hash of messages has a collision. -/
theorem Call.wires_distinct (env : Environment) (calls : List Call) :
    let proposals := Step.proposals (history env calls SortedMap.empty)
    (proposals.Pairwise fun p q =>
      p.wire ≠ q.wire ∧ (p.id = q.id → Proposal.Collision p.wire q.wire)) ∧
    ∀ p ∈ proposals, p.wire.length = 219 := by
  have hspent := spent_history env calls
  refine ⟨hspent.ascend.imp_of_mem fun {p q} hp hq hlt => ?_, fun p _ => Message.length_wire _⟩
  have hne : p.wire ≠ q.wire := fun hwire => by
    obtain ⟨hnonce, hchain⟩ := Proposal.eq_of_wire_eq hwire
    have hpq := hlt hchain
    rw [hnonce] at hpq
    exact UInt64.lt_irrefl _ hpq
  refine ⟨hne, fun hid => ⟨hne, ?_⟩⟩
  rw [← hspent.id p hp, hid, hspent.id q hq]

end CustodyBridge
