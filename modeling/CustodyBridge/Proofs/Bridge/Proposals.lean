import CustodyBridge.Proofs.Bridge.Nonces
import CustodyBridge.Proofs.Record.Updates

/-!
# Proposals in any order

A proposal adds to a pool, to the vault and to a counter, and reads the rest, which no proposal
changes. So the order of proposals makes no difference to whether all succeed, and to what they
leave.
-/

namespace CustodyBridge

/-! ## Additions in either order -/

namespace Pool

variable {mint mint' : Address} {amount amount' : UInt64}

/-- What a proposal makes of the pool that it finds. -/
def locking (mint : Address) (amount : UInt64) : Option Pool → Outcome BridgeError Pool
  | some p => if p.mint = mint then p.lock amount else .error (.tokenMintMismatch p.mint mint)
  | none => .error (.unknownPool mint)

theorem locking_eq_ok {p? : Option Pool} {q : Pool} : locking mint amount p? = .ok q ↔
    ∃ p, (p? = some p ∧ p.mint = mint) ∧ p.lock amount = .ok q := by
  cases p? <;> simp [locking]

theorem swaps_locking : Ledger.Swaps (locking mint amount) (locking mint' amount') := by
  intro x y z hy hz
  obtain ⟨p, ⟨rfl, hmint⟩, hlock⟩ := locking_eq_ok.1 hy
  obtain ⟨q, ⟨hq, hmint'⟩, hlock'⟩ := locking_eq_ok.1 hz
  cases hq
  obtain ⟨balance, hbalance, rfl⟩ := lock_eq_ok.1 hlock
  obtain ⟨balance', hbalance', rfl⟩ := lock_eq_ok.1 hlock'
  obtain ⟨between, hbetween, hbetween'⟩ := Amount.add_swap hbalance hbalance'
  refine ⟨_, locking_eq_ok.2 ⟨p, ⟨rfl, hmint'⟩, lock_eq_ok.2 ⟨between, hbetween, rfl⟩⟩,
    locking_eq_ok.2 ⟨_, ⟨rfl, hmint⟩, lock_eq_ok.2 ⟨balance', hbetween', ?_⟩⟩⟩
  rw [Amount.addCapped_right_comm]

end Pool

namespace FeeVault

variable {amount amount' : UInt64}

/-- What a proposal makes of the vault that it finds. -/
def crediting (amount : UInt64) : Option FeeVault → Outcome BridgeError FeeVault
  | some v => v.credit amount
  | none => .error .notInitialized

theorem crediting_eq_ok {v? : Option FeeVault} {w : FeeVault} :
    crediting amount v? = .ok w ↔ ∃ v, v? = some v ∧ v.credit amount = .ok w := by
  cases v? <;> simp [crediting]

theorem swaps_crediting : Ledger.Swaps (crediting amount) (crediting amount') := by
  intro x y z hy hz
  obtain ⟨v, rfl, hcredit⟩ := crediting_eq_ok.1 hy
  obtain ⟨w, hw, hcredit'⟩ := crediting_eq_ok.1 hz
  cases hw
  obtain ⟨balance, hbalance, rfl⟩ := credit_eq_ok.1 hcredit
  obtain ⟨balance', hbalance', rfl⟩ := credit_eq_ok.1 hcredit'
  obtain ⟨between, hbetween, hbetween'⟩ := Amount.add_swap hbalance hbalance'
  refine ⟨_, crediting_eq_ok.2 ⟨v, rfl, credit_eq_ok.2 ⟨between, hbetween, rfl⟩⟩,
    crediting_eq_ok.2 ⟨_, rfl, credit_eq_ok.2 ⟨balance', hbetween', ?_⟩⟩⟩
  rw [Amount.addCapped_right_comm]

end FeeVault

namespace NonceCounter

/-- What a proposal to a chain makes of the counter that it finds, if it finds one. -/
def issuing (chain : Chain) (c? : Option NonceCounter) : Outcome BridgeError NonceCounter :=
  (c?.getD (opened chain)).advance

theorem swaps_issuing {chain : Chain} : Ledger.Swaps (issuing chain) (issuing chain) :=
  fun _ y _ hy hz => ⟨y, hy, hz⟩

end NonceCounter

/-! ## One proposal -/

/-- What a proposal adds: to a pool, to the vault, to a counter. -/
def ProposalRequest.Adds (env : Environment) (request : ProposalRequest) (a : ProposalAccounts)
    (fee : UInt64) : Ledger → Ledger → Prop :=
  Relation.Comp (Ledger.Updates (Pool.locking request.mint request.amount) a.pool.address)
    (Relation.Comp (Ledger.Updates (FeeVault.crediting fee) env.feeVault.address)
      (Ledger.Updates (NonceCounter.issuing request.toChain) a.nonceCounter.address))

/-- A proposal is ready, which no other proposal changes, and adds what it adds. -/
inductive ProposalRequest.Goes (env : Environment) (caller : Caller) (request : ProposalRequest)
    (l l' : Ledger) : Prop where
  | intro {a fee}
      (accounts :
        ProposalAccounts.resolve env request.toChain request.toToken request.mint = .ok a)
      (ready : request.Ready env caller a fee l)
      (adds : request.Adds env a fee l l')

/-- A call that succeeds on a ledger and leaves another. -/
def Call.Succeeds (env : Environment) (c : Call) (l l' : Ledger) : Prop :=
  (∃ r, (c.perform env l).outcome = .ok r) ∧ (c.perform env l).state = l'

section proposals

variable {env : Environment} {caller : Caller} {request request' : ProposalRequest}
  {a b : ProposalAccounts} {fee fee' : UInt64} {l l' : Ledger}

namespace ProposalRequest

theorem Adds.of_staging {counter : NonceCounter} (s : request.Staging env caller a fee l)
    (legible : l.Legible NonceCounter a.nonceCounter.address)
    (advanced : NonceCounter.issuing request.toChain
      (l.record? NonceCounter a.nonceCounter.address) = .ok counter) :
    request.Adds env a fee l (((l.put a.pool.address s.pool').put env.feeVault.address s.vault').put
      a.nonceCounter.address counter) := by
  refine ⟨l.put a.pool.address s.pool', ?_,
    (l.put a.pool.address s.pool').put env.feeVault.address s.vault', ?_, ?_⟩
  · exact .of_found s.pool_found (Pool.locking_eq_ok.2 ⟨s.pool, ⟨rfl, s.pool_mint⟩, s.locked⟩)
  · exact .of_found (by simpa using s.vault_found)
      (FeeVault.crediting_eq_ok.2 ⟨s.vault, rfl, s.credited⟩)
  · exact ⟨by simpa using legible, by simpa using advanced⟩

theorem Adds.get?_of_ne (h : request.Adds env a fee l l') {t : Table}
    (ht : t ∉ (Command.propose request).tables) (key : Address) :
    SortedMap.get? l' (t.key key) = SortedMap.get? l (t.key key) := by
  simp only [Command.tables, List.mem_cons, List.not_mem_nil, or_false, not_or] at ht
  obtain ⟨m, locked, n, credited, issued⟩ := h
  rw [issued.get?_of_ne (Ne.symm ht.2.2), credited.get?_of_ne (Ne.symm ht.2.1),
    locked.get?_of_ne (Ne.symm ht.1)]

/-- What is ready stays so where only the tables of proposals change. -/
def Ready.congr (h : request.Ready env caller a fee l)
    (same : ∀ t ∉ (Command.propose request).tables, ∀ key,
      SortedMap.get? l' (t.key key) = SortedMap.get? l (t.key key)) :
    request.Ready env caller a fee l' :=
  have hsame : ∀ (ρ : Type) [Record ρ] (b : Address),
      Record.table ρ ∉ (Command.propose request).tables → l'.record? ρ b = l.record? ρ b :=
    fun ρ _ b hρ => Ledger.record?_congr (same _ hρ b)
  { h with
    config_found := (hsame _ _ (by simp [Command.tables])).trans h.config_found
    core_found := (hsame _ _ (by simp [Command.tables])).trans h.core_found
    relation_found := (hsame _ _ (by simp [Command.tables])).trans h.relation_found
    token_found := (hsame _ _ (by simp [Command.tables])).trans h.token_found }

/-- Additions to records of different tables pass each other anyway. Those to one counter are of
one chain, and number it alike. -/
theorem passes_adds
    (h : a.nonceCounter.address = b.nonceCounter.address → request.toChain = request'.toChain) :
    Passes (request.Adds env a fee) (request'.Adds env b fee') := by
  have hlock : Passes (Ledger.Updates (Pool.locking request.mint request.amount) a.pool.address)
      (request'.Adds env b fee') :=
    .comp_right (Ledger.passes_of_swaps fun _ => Pool.swaps_locking)
      (.comp_right (Ledger.passes_of_table_ne (by decide)) (Ledger.passes_of_table_ne (by decide)))
  have hcredit : Passes (Ledger.Updates (FeeVault.crediting fee) env.feeVault.address)
      (request'.Adds env b fee') :=
    .comp_right (Ledger.passes_of_table_ne (by decide))
      (.comp_right (Ledger.passes_of_swaps fun _ => FeeVault.swaps_crediting)
        (Ledger.passes_of_table_ne (by decide)))
  have hissue : Passes
      (Ledger.Updates (NonceCounter.issuing request.toChain) a.nonceCounter.address)
      (request'.Adds env b fee') := by
    refine .comp_right (Ledger.passes_of_table_ne (by decide))
      (.comp_right (Ledger.passes_of_table_ne (by decide))
        (Ledger.passes_of_swaps fun haddress => ?_))
    rw [h haddress]
    exact NonceCounter.swaps_issuing
  exact hlock.comp_left (hcredit.comp_left hissue)

theorem passes_goes {caller' : Caller} {purposes : List Purpose}
    (apart : env.Apart .nonceCounters purposes) (mem : .nonceCounter request.toChain ∈ purposes)
    (mem' : .nonceCounter request'.toChain ∈ purposes) :
    Passes (request.Goes env caller) (request'.Goes env caller') := by
  rintro l m n ⟨accounts, ready, adds⟩ ⟨accounts', ready', adds'⟩
  rename_i a fee b fee'
  obtain ⟨-, -, -, hcounter⟩ := ProposalAccounts.resolve_eq_ok accounts
  obtain ⟨-, -, -, hcounter'⟩ := ProposalAccounts.resolve_eq_ok accounts'
  have haddress := Environment.address?_of_account hcounter
  have haddress' := Environment.address?_of_account hcounter'
  have hchain : a.nonceCounter.address = b.nonceCounter.address →
      request.toChain = request'.toChain := fun hsame =>
    Purpose.nonceCounter.inj (apart _ mem _ mem' rfl rfl (by rw [haddress]; rfl)
      (by rw [haddress, haddress', hsame]))
  obtain ⟨m', hfirst, hsecond⟩ := passes_adds hchain adds adds'
  refine ⟨m', ⟨accounts', ready'.congr fun t ht key => ?_, hfirst⟩,
    ⟨accounts, ready.congr fun t ht key => hfirst.get?_of_ne ht key, hsecond⟩⟩
  exact (adds.get?_of_ne ht key).symm

end ProposalRequest

/-! ## Calls that propose -/

theorem goes_of_succeeds (h : (Call.propose caller request).Succeeds env l l') :
    request.Goes env caller l l' := by
  obtain ⟨⟨r, hr⟩, rfl⟩ := h
  have heffect := Call.effect_of_perform hr
  generalize ((Call.propose caller request).perform env l).state = l' at heffect ⊢
  cases heffect with
  | propose effect =>
    cases effect with
    | propose found =>
      exact ⟨found.resolved, found.toReady, .of_staging found.toStaging found.counter_legible
        (by rw [NonceCounter.issuing, found.counter_found, found.advanced])⟩

theorem succeeds_of_goes (h : request.Goes env caller l l') :
    (Call.propose caller request).Succeeds env l l' := by
  obtain ⟨accounts, ready, m, ⟨-, locked⟩, n, ⟨-, credited⟩, ⟨legible, issued⟩⟩ := h
  obtain ⟨pool, ⟨pool_found, pool_mint⟩, locked⟩ := Pool.locking_eq_ok.1 locked
  obtain ⟨vault, vault_found, credited⟩ := FeeVault.crediting_eq_ok.1 credited
  rw [Ledger.record?_put_of_ne (by decide)] at vault_found
  let staging : request.Staging env caller _ _ l := {
    ready with
    pool, pool' := _, vault, vault' := _, pool_found, pool_mint, locked, vault_found, credited }
  have hissue := NonceCounter.exec_runIssue_eq_ok.2 ⟨legible, _, issued, rfl, rfl⟩
  have hexec := staging.exec_propose
  rw [hissue, Outcome.ok_map] at hexec
  have hop : (Call.propose caller request).operation env = .ok _ := Call.operation_propose accounts
  obtain ⟨houtcome, hstate⟩ := Call.perform_eq (l := l) hop
  simp only [Operation.map, Program.exec_bind, hexec] at houtcome hstate
  exact ⟨⟨_, houtcome⟩, hstate⟩

end proposals

namespace Call

variable {env : Environment} {c d : Call} {l l' : Ledger} {chain chain' : Chain}

theorem counter_mem_purposes (h : c.destination? = some chain) :
    .nonceCounter chain ∈ c.purposes env := by
  cases c with
  | instantiate => cases h
  | propose =>
    cases h
    simp [purposes, Command.purposes]
  | execute caller command =>
    cases command with
    | propose =>
      cases h
      simp [purposes, Command.purposes]
    | _ => cases h

theorem passes_succeeds {purposes : List Purpose} (apart : env.Apart .nonceCounters purposes)
    (hc : c.destination? = some chain) (hd : d.destination? = some chain')
    (mem : .nonceCounter chain ∈ purposes) (mem' : .nonceCounter chain' ∈ purposes) :
    Passes (c.Succeeds env) (d.Succeeds env) := by
  obtain ⟨caller, request, rfl, hperform⟩ := perform_of_destination? hc
  obtain ⟨caller', request', rfl, hperform'⟩ := perform_of_destination? hd
  intro l m n hfirst hsecond
  unfold Succeeds at hfirst hsecond ⊢
  rw [hperform] at hfirst
  rw [hperform'] at hsecond
  simp only [hperform, hperform']
  obtain ⟨m', hfirst', hsecond'⟩ := ProposalRequest.passes_goes apart mem mem'
    (goes_of_succeeds hfirst) (goes_of_succeeds hsecond)
  exact ⟨m', succeeds_of_goes hfirst', succeeds_of_goes hsecond'⟩

/-! ## Calls one after another -/

theorem sequence_succeeds_iff {calls : List Call} :
    Sequence (Succeeds env) calls l l' ↔
      (∀ s ∈ history env calls l, s.receipt?.isSome = true) ∧ performAll env calls l = l' := by
  induction calls generalizing l with
  | nil => simp [Sequence, history, performAll]
  | cons c rest ih =>
    have hreceipt : (c.toStep env l).receipt?.isSome = true ↔
        ∃ r, (c.perform env l).outcome = .ok r := by
      simp only [Option.isSome_iff_exists, Step.receipt?_toStep_eq_some]
    rw [history, List.forall_mem_cons, hreceipt]
    constructor
    · rintro ⟨m, ⟨hok, rfl⟩, hrest⟩
      obtain ⟨hall, hleft⟩ := ih.1 hrest
      exact ⟨⟨hok, hall⟩, hleft⟩
    · rintro ⟨⟨hok, hall⟩, hleft⟩
      exact ⟨_, ⟨hok, rfl⟩, ih.2 ⟨hall, hleft⟩⟩

end Call

/-! ## Nonces of proposals that succeed -/

/-- The number of the next proposal to a chain. -/
def Ledger.nextNonce (env : Environment) (l : Ledger) (chain : Chain) : Nat :=
  ((env.address? (.nonceCounter chain)).bind (l.record? NonceCounter)).elim 0 (·.next.toNat)

/-- The nonces of a run's proposals to a chain, in the order in which they were given out. -/
def Step.noncesTo (chain : Chain) (steps : List Step) : List Nat :=
  (proposalsTo chain steps).map (·.nonce.toNat)

section nonces

variable {env : Environment} {c : Call} {l l' : Ledger} {chain : Chain} {p : Proposal}
  {purposes : List Purpose}

theorem Step.noncesTo_cons (s : Step) (steps : List Step) :
    noncesTo chain (s :: steps) =
      (s.proposal?.filter (·.destinationChain = chain)).toList.map (·.nonce.toNat) ++
        noncesTo chain steps := by
  unfold noncesTo proposalsTo proposals receipts proposal?
  cases hr : s.receipt? with
  | none => simp [hr]
  | some r =>
    cases hp : r.proposal? with
    | none => simp [hr, hp]
    | some p => by_cases hchain : p.destinationChain = chain <;>
      simp [hr, hp, hchain, Option.filter]

theorem Step.proposal?_of_succeeds (hc : c.destination? = some chain)
    (h : (c.toStep env l).receipt?.isSome = true) :
    ∃ p, (c.toStep env l).proposal? = some p ∧ p.destinationChain = chain := by
  obtain ⟨r, hr⟩ := Option.isSome_iff_exists.1 h
  have heffect := effect_of_receipt? hr
  rw [proposal?, hr, Option.bind_some]
  generalize (c.toStep env l).after = left at heffect
  cases heffect with
  | instantiate => cases hc
  | propose effect =>
    cases hc
    cases effect
    exact ⟨_, rfl, rfl⟩
  | execute effect =>
    cases effect with
    | propose =>
      cases hc
      exact ⟨_, rfl, rfl⟩
    | _ => cases hc

theorem Ledger.nextNonce_of_issued (h : p.Issued env l l') :
    l.nextNonce env p.destinationChain = p.nonce.toNat ∧
      l'.nextNonce env p.destinationChain = p.nonce.toNat + 1 := by
  obtain @⟨a, counter, counter', account, -, found, nonce, advanced, left, -⟩ := h
  have hleft : l'.record? NonceCounter a.address = some counter' := by
    rw [record?_of_counters left, if_pos rfl]
  rw [NonceCounter.advance_eq_ok, ← nonce] at advanced
  rw [nextNonce, nextNonce, Environment.address?_of_account account, Option.bind_some,
    Option.bind_some, hleft, Option.elim_some, advanced.1, nonce, ← found]
  cases l.record? NonceCounter a.address <;> exact ⟨rfl, rfl⟩

theorem Step.nextNonce_of_other (apart : env.Apart .nonceCounters (.nonceCounter chain :: purposes))
    (hpurposes : ∀ q ∈ c.purposes env, q ∈ purposes)
    (other : ∀ p, (c.toStep env l).proposal? = some p → p.destinationChain ≠ chain) :
    (c.toStep env l).after.nextNonce env chain = l.nextNonce env chain := by
  unfold Ledger.nextNonce
  cases account : env.address? (.nonceCounter chain) with
  | none => rfl
  | some a =>
    have hsame := counter_of_proposal? apart hpurposes account other
    rw [← table_nonceCounter] at hsame
    rw [Option.bind_some, Option.bind_some, Ledger.record?_congr hsame]

theorem Call.noncesTo_history {calls : List Call}
    (apart : env.Apart .nonceCounters (.nonceCounter chain :: purposes))
    (hpurposes : ∀ c ∈ calls, ∀ q ∈ c.purposes env, q ∈ purposes)
    (proposals : ∀ c ∈ calls, c.destination?.isSome = true)
    (succeed : ∀ s ∈ history env calls l, s.receipt?.isSome = true) :
    Step.noncesTo chain (history env calls l) =
      List.range' (l.nextNonce env chain) (calls.countP fun c => c.destination? = some chain) := by
  induction calls generalizing l with
  | nil => rfl
  | cons c rest ih =>
    rw [history, List.forall_mem_cons] at succeed
    rw [List.forall_mem_cons] at hpurposes proposals
    obtain ⟨target, htarget⟩ := Option.isSome_iff_exists.1 proposals.1
    obtain ⟨p, hp, rfl⟩ := Step.proposal?_of_succeeds htarget succeed.1
    have hrest := ih hpurposes.2 proposals.2 succeed.2
    rw [history, Step.noncesTo_cons, hrest, hp]
    by_cases hchain : p.destinationChain = chain
    · subst hchain
      obtain ⟨hnext, hnext'⟩ := Ledger.nextNonce_of_issued (Step.issued_of_proposal? hp).1
      rw [hnext, hnext', List.countP_cons_of_pos (by simpa using htarget), List.range'_succ,
        Option.filter_some_pos (by simp)]
      rfl
    · have hother : ∀ q, (c.toStep env l).proposal? = some q → q.destinationChain ≠ chain := by
        intro q hq
        rw [hp] at hq
        cases hq
        exact hchain
      rw [Step.nextNonce_of_other apart hpurposes.1 hother,
        List.countP_cons_of_neg (by simpa [htarget] using hchain),
        Option.filter_eq_none_iff.2 (by simpa using hchain)]
      rfl

end nonces

/-! ## Every order -/

/-- Proposals that all succeed in one order succeed in every order, on any ledger. They leave the
same ledger, and each chain gives out the same nonces: as many as there are proposals to it, from
its next one on. -/
theorem Call.proposals_permute {env : Environment} {calls calls' : List Call} {l : Ledger}
    (proposals : ∀ c ∈ calls, c.destination?.isSome = true)
    (apart : env.Apart .nonceCounters (named env calls)) (perm : calls.Perm calls')
    (succeed : ∀ s ∈ history env calls l, s.receipt?.isSome = true) :
    (∀ s ∈ history env calls' l, s.receipt?.isSome = true) ∧
      performAll env calls' l = performAll env calls l ∧
      ∀ c ∈ calls, ∀ chain, c.destination? = some chain →
        Step.noncesTo chain (history env calls' l) = Step.noncesTo chain (history env calls l) ∧
        Step.noncesTo chain (history env calls l) = List.range' (l.nextNonce env chain)
          (calls.countP fun d => d.destination? = some chain) := by
  have hpasses : ∀ c ∈ calls, ∀ d ∈ calls, Passes (c.Succeeds env) (d.Succeeds env) := by
    intro c hc d hd
    obtain ⟨target, htarget⟩ := Option.isSome_iff_exists.1 (proposals c hc)
    obtain ⟨target', htarget'⟩ := Option.isSome_iff_exists.1 (proposals d hd)
    exact passes_succeeds apart htarget htarget' (mem_named hc (counter_mem_purposes htarget))
      (mem_named hd (counter_mem_purposes htarget'))
  have hsequence := (sequence_succeeds_iff.2 ⟨succeed, rfl⟩).perm hpasses perm
  obtain ⟨succeed', hledger⟩ := sequence_succeeds_iff.1 hsequence
  refine ⟨succeed', hledger, fun c hc chain hchain => ?_⟩
  have hmem : .nonceCounter chain ∈ named env calls :=
    mem_named hc (counter_mem_purposes hchain)
  have hsubset : ∀ p ∈ .nonceCounter chain :: named env calls, p ∈ named env calls :=
    List.forall_mem_cons.2 ⟨hmem, fun _ hp => hp⟩
  have hapart : env.Apart .nonceCounters (.nonceCounter chain :: named env calls) :=
    fun p hp q hq => apart p (hsubset p hp) q (hsubset q hq)
  have hnonces := noncesTo_history hapart (fun d hd q hq => mem_named hd hq) proposals succeed
  have hnonces' := noncesTo_history hapart
    (fun d hd q hq => mem_named (perm.mem_iff.2 hd) hq)
    (fun d hd => proposals d (perm.mem_iff.2 hd)) succeed'
  rw [perm.countP_eq, hnonces, hnonces', perm.countP_eq]
  exact ⟨rfl, rfl⟩

/-! ### Two proposals -/

namespace Sample

def otherSender : Caller :=
  ⟨⟨Bytes.ofNat 32 28, by simp⟩, [⟨mint, 20⟩, ⟨Environment.small.nativeMint, 7⟩]⟩

def otherRequest : ProposalRequest := ⟨chain, token, recipient, mint, 20, 2⟩

def proposedTwice : Ledger :=
  ((proposed.put poolAccount.address { lockedPool with balance := 94, totalLocked := 30 }).put
    Environment.small.feeVault.address (⟨13, 13, 0⟩ : FeeVault)).put counterAccount.address
      (⟨chain, 2⟩ : NonceCounter)

theorem resolve_proposal : ProposalAccounts.resolve .small chain token mint =
    .ok ⟨chainAccount, tokenAccount, poolAccount, counterAccount⟩ := by
  simp only [ProposalAccounts.resolve, except_bind_eq_ok]
  exact ⟨_, account_chain, _, account_token, _, account_pool, _, account_counter, rfl⟩

/-- The ledger behind proposals, and releases. -/
def moved (p : Pool) (v : FeeVault) (c : NonceCounter) : Ledger :=
  ((related.put poolAccount.address p).put Environment.small.feeVault.address v).put
    counterAccount.address c

section moved

variable {p q : Pool} {v w : FeeVault} {c d : NonceCounter} {caller : Caller}
  {request : ProposalRequest} {fee sum : UInt64}

theorem get?_moved {t : Table} (ht : t ∉ (Command.propose request).tables) (key : Address) :
    SortedMap.get? (moved p v c) (t.key key) = SortedMap.get? related (t.key key) := by
  simp only [Command.tables, List.mem_cons, List.not_mem_nil, or_false, not_or] at ht
  rw [moved, Ledger.get?_put_of_ne (Ne.symm ht.2.2), Ledger.get?_put_of_ne (Ne.symm ht.2.1),
    Ledger.get?_put_of_ne (Ne.symm ht.1)]

theorem moved_put_pool : (moved p v c).put poolAccount.address q = moved q v c := by
  unfold moved
  rw [Ledger.put_comm_of_table_ne (a := counterAccount.address) (by decide),
    Ledger.put_comm_of_table_ne (a := Environment.small.feeVault.address) (by decide),
    Ledger.put_put]

theorem moved_put :
    (((moved p v c).put poolAccount.address q).put Environment.small.feeVault.address w).put
      counterAccount.address d = moved q w d := by
  rw [moved_put_pool]
  unfold moved
  rw [Ledger.put_comm_of_table_ne (a := counterAccount.address) (by decide), Ledger.put_put,
    Ledger.put_put]

def ready_related (request_mint : request.mint = mint) (amount_ne : request.amount ≠ 0)
    (fee_fits : FeeVault.totalFee? ⟨admin.sender, 5, 255⟩ request.gasFee = some fee)
    (sum_fits : Amount.add? request.amount fee = some sum)
    (funds : Funds.verify caller.funds
      [⟨request.mint, request.amount⟩, ⟨Environment.small.nativeMint, fee⟩] = .ok ()) :
    request.Ready .small caller ⟨chainAccount, tokenAccount, poolAccount, counterAccount⟩ fee
      related where
  config := ⟨admin.sender, 255⟩
  core := ⟨admin.sender, 5, 255⟩
  relation := chainRelation
  token := ⟨chain, token, 6, mint, 6, poolAccount⟩
  sum
  config_found := by simp [related, added, opened, initialized]
  core_found := by simp [related, added, opened, initialized]
  relation_found := Ledger.record?_put_self
  active := rfl
  token_found := by simp [related, added, opened]
  token_mint := request_mint.symm
  amount_ne
  fee_fits
  sum_fits
  funds

theorem succeeds_moved (toChain : request.toChain = chain) (toToken : request.toToken = token)
    (request_mint : request.mint = mint)
    (ready : request.Ready .small caller
      ⟨chainAccount, tokenAccount, poolAccount, counterAccount⟩ fee related)
    (pool_mint : p.mint = mint) (locked : p.lock request.amount = .ok q)
    (credited : v.credit fee = .ok w) (advanced : c.advance = .ok d) :
    (Call.propose caller request).Succeeds .small (moved p v c) (moved q w d) := by
  have pool_found : (moved p v c).record? Pool poolAccount.address = some p := by
    simp [moved]
  have vault_found : (moved p v c).record? FeeVault Environment.small.feeVault.address =
      some v := by
    simp [moved]
  have counter_found : (moved p v c).record? NonceCounter counterAccount.address = some c :=
    Ledger.record?_put_self
  have legible : (moved p v c).Legible NonceCounter counterAccount.address := fun hnone =>
    absurd (counter_found.symm.trans hnone) (by simp)
  have accounts : ProposalAccounts.resolve .small request.toChain request.toToken request.mint =
      .ok ⟨chainAccount, tokenAccount, poolAccount, counterAccount⟩ := by
    rw [toChain, toToken, request_mint, resolve_proposal]
  have issued : NonceCounter.issuing request.toChain
      ((moved p v c).record? NonceCounter counterAccount.address) = .ok d := by
    rw [counter_found, NonceCounter.issuing, Option.getD_some, advanced]
  let staging : request.Staging .small caller _ fee (moved p v c) := {
    ready.congr fun _ => get?_moved with
    pool := p, pool' := q, vault := v, vault' := w, pool_found
    pool_mint := pool_mint.trans request_mint.symm, locked, vault_found, credited }
  have hgoes := succeeds_of_goes ⟨accounts, staging.toReady, .of_staging staging legible issued⟩
  rwa [moved_put] at hgoes

end moved

theorem succeeds_proposing : (Call.propose sender request).Succeeds .small related proposed := by
  obtain ⟨houtcome, hstate⟩ := Call.perform_of_ok operation_propose exec_proposing
  exact ⟨⟨_, houtcome⟩, hstate⟩

theorem succeeds_again :
    (Call.propose otherSender otherRequest).Succeeds .small proposed proposedTwice := by
  have sum_fits : Amount.add? otherRequest.amount 7 = some 27 := rfl
  let ready : otherRequest.Ready .small otherSender
      ⟨chainAccount, tokenAccount, poolAccount, counterAccount⟩ 7 related :=
    ready_related rfl (by decide) rfl sum_fits (by decide +kernel)
  have locked : lockedPool.lock otherRequest.amount =
      .ok { lockedPool with balance := 94, totalLocked := 30 } := by decide +kernel
  have credited : FeeVault.credit ⟨6, 6, 0⟩ 7 = .ok ⟨13, 13, 0⟩ := by decide +kernel
  have advanced : NonceCounter.advance ⟨chain, 1⟩ = .ok ⟨chain, 2⟩ := by decide +kernel
  have hleft : proposedTwice = moved { lockedPool with balance := 94, totalLocked := 30 }
      ⟨13, 13, 0⟩ ⟨chain, 2⟩ := moved_put (p := lockedPool) (v := ⟨6, 6, 0⟩) (c := ⟨chain, 1⟩)
  rw [hleft]
  exact succeeds_moved rfl rfl rfl ready rfl locked credited advanced

end Sample

/-- The two proposals may also be made in the other order. Either way they are numbered 0 and 1. -/
theorem Call.proposals_permute_sample :
    let c : Call := .propose Sample.sender Sample.request
    let d : Call := .propose Sample.otherSender Sample.otherRequest
    performAll .small [d, c] Sample.related = Sample.proposedTwice ∧
      Step.noncesTo Sample.chain (history .small [d, c] Sample.related) = [0, 1] := by
  intro c d
  have hsequence : Sequence (Succeeds .small) [c, d] Sample.related Sample.proposedTwice :=
    ⟨_, Sample.succeeds_proposing, _, Sample.succeeds_again, rfl⟩
  obtain ⟨succeed, hledger⟩ := sequence_succeeds_iff.1 hsequence
  have apart : Environment.small.Apart .nonceCounters (named .small [c, d]) := by
    unfold Environment.Apart
    decide +kernel
  have hperm : [c, d].Perm [d, c] := .swap d c []
  obtain ⟨-, hsame, hnonces⟩ := proposals_permute (by simp [c, d, destination?]) apart hperm succeed
  obtain ⟨hsame', hrange⟩ := hnonces c (by simp) Sample.chain rfl
  refine ⟨hsame.trans hledger, ?_⟩
  rw [hsame', hrange]
  have hnext : Ledger.nextNonce .small Sample.related Sample.chain = 0 := by
    rw [Ledger.nextNonce, Environment.address?_of_account Sample.account_counter]
    simp [Sample.related, Sample.added, Sample.opened, Sample.initialized]
    rfl
  rw [hnext]
  rfl

end CustodyBridge
