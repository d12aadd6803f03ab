import CustodyBridge.Proofs.Bridge.Fees
import CustodyBridge.Proofs.Bridge.Proposals
import CustodyBridge.Proofs.Funds

/-!
# What a proposal needs

A proposal succeeds exactly where a list of conditions is met. They are checked in order, and the
first that is not met tells the error. What is left then is the ledger as it was, also where custody
and fees were staged before.
-/

namespace CustodyBridge

/-! ## Conditions in order -/

/-- A condition of a call, and the errors that tell that it is not met. -/
structure Need where
  met : Prop
  refusal : BridgeError → Prop

namespace Need

/-- An error is told by the first condition that is not met. -/
inductive FirstUnmet : List Need → BridgeError → Prop where
  | here {n : Need} {rest : List Need} {e : BridgeError} (unmet : ¬ n.met) (told : n.refusal e) :
      FirstUnmet (n :: rest) e
  | later {n : Need} {rest : List Need} {e : BridgeError} (met : n.met)
      (unmet : FirstUnmet rest e) : FirstUnmet (n :: rest) e

@[simp] theorem not_firstUnmet_nil {e : BridgeError} : ¬ FirstUnmet [] e := nofun

@[simp] theorem firstUnmet_cons {n : Need} {rest : List Need} {e : BridgeError} :
    FirstUnmet (n :: rest) e ↔ (¬ n.met ∧ n.refusal e) ∨ (n.met ∧ FirstUnmet rest e) := by
  constructor
  · rintro (⟨unmet, told⟩ | ⟨met, unmet⟩)
    · exact .inl ⟨unmet, told⟩
    · exact .inr ⟨met, unmet⟩
  · rintro (⟨unmet, told⟩ | ⟨met, unmet⟩)
    · exact .here unmet told
    · exact .later met unmet

theorem FirstUnmet.not_all_met {needs : List Need} {e : BridgeError} (h : FirstUnmet needs e) :
    ¬ ∀ n ∈ needs, n.met := by
  intro all
  induction h with
  | here unmet => exact unmet (all _ List.mem_cons_self)
  | later _ _ ih => exact ih fun n hn => all n (List.mem_cons_of_mem _ hn)

theorem FirstUnmet.append {needs more : List Need} {e : BridgeError} (h : FirstUnmet needs e) :
    FirstUnmet (needs ++ more) e := by
  induction h with
  | here unmet told => exact .here unmet told
  | later met _ ih => exact .later met ih

theorem FirstUnmet.behind {needs more : List Need} {e : BridgeError} (all : ∀ n ∈ needs, n.met)
    (h : FirstUnmet more e) : FirstUnmet (needs ++ more) e := by
  induction needs with
  | nil => exact h
  | cons n rest ih =>
    rw [List.forall_mem_cons] at all
    exact .later all.1 (ih all.2)

theorem firstUnmet_append {needs more : List Need} {e : BridgeError} :
    FirstUnmet (needs ++ more) e ↔
      FirstUnmet needs e ∨ (∀ n ∈ needs, n.met) ∧ FirstUnmet more e := by
  refine ⟨fun h => ?_, ?_⟩
  · induction needs with
    | nil => exact .inr ⟨nofun, h⟩
    | cons n rest ih =>
      rw [List.cons_append, firstUnmet_cons] at h
      rw [firstUnmet_cons, List.forall_mem_cons]
      obtain unmet | ⟨met, h⟩ := h
      · exact .inl (.inl unmet)
      · obtain first | ⟨all, behind⟩ := ih h
        · exact .inl (.inr ⟨met, first⟩)
        · exact .inr ⟨⟨met, all⟩, behind⟩
  · rintro (first | ⟨all, behind⟩)
    · exact first.append
    · exact behind.behind all

end Need

/-! ## Ledgers that calls lead to -/

namespace Ledger

def Initialized (env : Environment) (l : Ledger) : Prop :=
  l.holds BridgeConfig env.bridgeConfig.address = true

/-- All records are in order, and the four single ones come together. -/
structure Standing (env : Environment) (l : Ledger) : Prop where
  intact : l.Intact env
  singles : l.Initialized env → l.HasSingles env

theorem holds_of_found {ρ : Type} [Record ρ] {l : Ledger} {a : Address} {r : ρ}
    (h : l.record? ρ a = some r) : l.holds ρ a = true := by
  by_contra hnot
  rw [record?_of_not_holds (Bool.not_eq_true _ ▸ hnot)] at h
  cases h

theorem legible_of_found {ρ : Type} [Record ρ] {l : Ledger} {a : Address} {r : ρ}
    (h : l.record? ρ a = some r) : l.Legible ρ a := fun missing => by
  rw [h] at missing
  cases missing

/-- The relation at the account of a chain. -/
def chainRelation? (env : Environment) (l : Ledger) (chain : Chain) : Option ChainRelation :=
  (env.address? (.chainRelation chain)).bind (l.record? ChainRelation ·)

variable {env : Environment} {l : Ledger} {chain : Chain} {a : Account}

theorem chainRelation?_of_account (h : env.account (.chainRelation chain) = .ok a) :
    l.chainRelation? env chain = l.record? ChainRelation a.address := by
  rw [chainRelation?, Environment.address?_of_account h, Option.bind_some]

theorem nextNonce_of_account (h : env.account (.nonceCounter chain) = .ok a) :
    l.nextNonce env chain =
      ((l.record? NonceCounter a.address).getD (.opened chain)).next.toNat := by
  rw [nextNonce, Environment.address?_of_account h, Option.bind_some]
  cases l.record? NonceCounter a.address <;> rfl

theorem bridgeFee_of_found {core : CoreConfig}
    (h : l.record? CoreConfig env.coreConfig.address = some core) :
    l.bridgeFee env = core.bridgeFee := by
  rw [bridgeFee, h, Option.elim_some]

end Ledger

theorem Call.singles_of_initialized {env : Environment} {calls : List Call}
    (initialized : (performAll env calls SortedMap.empty).Initialized env) :
    (performAll env calls SortedMap.empty).HasSingles env := by
  obtain ⟨-, hempty⟩ | ⟨-, singles⟩ := singles_history env calls
  · rw [hempty] at initialized
    cases initialized
  · exact singles

theorem Call.standing_history {env : Environment} {calls : List Call}
    (apart : env.Apart .pools (named env calls)) :
    (performAll env calls SortedMap.empty).Standing env where
  intact := intact_history apart
  singles := singles_of_initialized

/-! ## Relations of a proposal -/

/-- What a proposal needs of the relation of its destination. -/
def ChainRelation.needs (relation? : Option ChainRelation) (chain : Chain) : List Need := [
  ⟨∃ c, relation? = some c, (· = .unknownChainRelation chain)⟩,
  ⟨∃ c, relation? = some c ∧ c.active = true, (· = .chainInactive chain)⟩]

/-- What a proposal needs of the relation of the token that it asks for. -/
def TokenRelation.needs (relation? : Option TokenRelation) (chain : Chain) (token mint : Address) :
    List Need := [
  ⟨∃ t, relation? = some t, (· = .unknownTokenRelation chain token)⟩,
  ⟨∃ t, relation? = some t ∧ t.localMint = mint,
    fun e => ∃ t, relation? = some t ∧ e = .tokenMintMismatch t.localMint mint⟩]

section relations

variable {l : Ledger} {a : Account} {chain : Chain} {token mint : Address} {e : BridgeError}

theorem ChainRelation.firstUnmet_of_loadActive (readable : l.Readable)
    (h : (loadActive a chain).exec l = .error e) :
    Need.FirstUnmet (needs (l.record? ChainRelation a.address) chain) e := by
  rw [exec_loadActive_eq_error] at h
  obtain ⟨illegible, -⟩ | ⟨missing, rfl⟩ | ⟨c, found, inactive, rfl⟩ := h
  · exact absurd readable.legible illegible
  · exact .here (by simp [Ledger.record?_of_not_holds missing]) rfl
  · exact .later ⟨c, found⟩ (.here (by simp [found, inactive]) rfl)

theorem TokenRelation.firstUnmet_of_loadFor (readable : l.Readable)
    (h : (loadFor a chain token mint).exec l = .error e) :
    Need.FirstUnmet (needs (l.record? TokenRelation a.address) chain token mint) e := by
  rw [exec_loadFor_eq_error] at h
  obtain ⟨illegible, -⟩ | ⟨missing, rfl⟩ | ⟨t, found, other, rfl⟩ := h
  · exact absurd readable.legible illegible
  · exact .here (by simp [Ledger.record?_of_not_holds missing]) rfl
  · exact .later ⟨t, found⟩ (.here (by simp [found, other]) ⟨t, found, rfl⟩)

end relations

/-! ## Room for a proposal -/

section room

variable {l : Ledger} {a : Account} {mint : Address} {chain : Chain} {amount : UInt64}
  {e : BridgeError}

theorem Pool.full_of_runLock {p : Pool} (found : l.record? Pool a.address = some p)
    (pool_mint : p.mint = mint) (h : (runLock a mint amount).exec l = .error e) :
    UInt64.size ≤ p.balance.toNat + amount.toNat ∧ e = .amountOverflow := by
  simp [runLock, lock, found, pool_mint, Ledger.holds_of_found found,
    Ledger.legible_of_found found] at h
  exact ⟨h.1, h.2.symm⟩

theorem FeeVault.full_of_runCredit {v : FeeVault} (found : l.record? FeeVault a.address = some v)
    (h : (runCredit a amount).exec l = .error e) :
    UInt64.size ≤ v.balance.toNat + amount.toNat ∧ e = .amountOverflow := by
  simp [runCredit, credit, found, Ledger.holds_of_found found,
    Ledger.legible_of_found found] at h
  exact ⟨h.1, h.2.symm⟩

theorem NonceCounter.full_of_runIssue (legible : l.Legible NonceCounter a.address)
    (h : (runIssue a chain).exec l = .error e) :
    UInt64.size ≤ ((l.record? NonceCounter a.address).getD (.opened chain)).next.toNat + 1 ∧
      e = .amountOverflow := by
  simp [runIssue, advance, legible, Record.exec_load?_eq_ok] at h
  exact ⟨h.1, h.2.symm⟩

end room

/-! ## Conditions of a proposal -/

namespace ProposalRequest

section needs

variable (request : ProposalRequest) (env : Environment) (l : Ledger)

/-- The gas fee, and the bridge fee of the moment. -/
def fees : Nat := (Command.propose request).paysIn env l

/-- What a proposal takes of a mint. Where the token is the native one, amount and fees add up. -/
def takes (mint : Address) : Nat :=
  (if mint = request.mint then request.amount.toNat else 0) +
    if mint = env.nativeMint then request.fees env l else 0

/-- What a proposal needs of the funds that are attached. -/
def fundsNeeds (funds : List Funds) : List Need := [
  ⟨request.amount ≠ 0, (· = .zeroAmount)⟩,
  ⟨request.amount.toNat + request.fees env l < UInt64.size, (· = .amountOverflow)⟩,
  ⟨∀ mint, Funds.sumOf mint funds = request.takes env l mint,
    fun e => ∃ fee cause, request.fees env l = fee.toNat ∧ e = .custodyTransferFailed cause ∧
      cause.Tells funds [⟨request.mint, request.amount⟩, ⟨env.nativeMint, fee⟩]⟩]

/-- What a proposal needs of the pool, the vault and the counter. -/
def roomNeeds : List Need := [
  ⟨∃ p, l.pool? env request.mint = some p ∧
    p.balance.toNat + request.amount.toNat < UInt64.size, (· = .amountOverflow)⟩,
  ⟨(l.vault env).balance.toNat + request.fees env l < UInt64.size, (· = .amountOverflow)⟩,
  ⟨l.nextNonce env request.toChain + 1 < UInt64.size, (· = .amountOverflow)⟩]

/-- What a proposal with some funds attached needs, in the order in which it is checked. -/
def needs (funds : List Funds) : List Need :=
  ⟨l.Initialized env, (· = .notInitialized)⟩ ::
    (ChainRelation.needs (l.chainRelation? env request.toChain) request.toChain ++
      (TokenRelation.needs (l.relation? env request.toChain request.toToken) request.toChain
        request.toToken request.mint ++
        (request.fundsNeeds env l funds ++ request.roomNeeds env l)))

/-- Those of the needs that are checked before anything is staged. -/
def checks (funds : List Funds) : List Need :=
  ⟨l.Initialized env, (· = .notInitialized)⟩ ::
    (ChainRelation.needs (l.chainRelation? env request.toChain) request.toChain ++
      (TokenRelation.needs (l.relation? env request.toChain request.toToken) request.toChain
        request.toToken request.mint ++ request.fundsNeeds env l funds))

theorem needs_eq (funds : List Funds) :
    request.needs env l funds = request.checks env l funds ++ request.roomNeeds env l := by
  simp only [needs, checks, List.cons_append, List.append_assoc]

end needs

/-- What a proposal stages behind its checks. -/
def stage (request : ProposalRequest) (env : Environment) (a : ProposalAccounts) (fee : UInt64) :
    Handler UInt64 := do
  let _ ← Pool.runLock a.pool request.mint request.amount
  let _ ← FeeVault.runCredit env.feeVault fee
  NonceCounter.runIssue a.nonceCounter request.toChain

/-- Behind its checks, a proposal needs that what it stages succeeds. -/
def stageNeed (request : ProposalRequest) (env : Environment) (a : ProposalAccounts) (l : Ledger) :
    Need where
  met := ∃ (fee : UInt64) (r : UInt64 × Ledger), request.fees env l = fee.toNat ∧
    (request.stage env a fee).exec l = .ok r
  refusal e := ∃ fee : UInt64, request.fees env l = fee.toNat ∧
    (request.stage env a fee).exec l = .error e

end ProposalRequest

/-! ## What a proposal leaves -/

/-- What becomes of a pool that locks an amount. -/
structure Pool.Locks (p q : Pool) (amount : Nat) : Prop where
  balance : q.balance.toNat = p.balance.toNat + amount
  totalLocked : q.totalLocked.toNat = Amount.cap (p.totalLocked.toNat + amount)
  rest : { p with balance := q.balance, totalLocked := q.totalLocked } = q

theorem Pool.locks_of_lock {p q : Pool} {amount : UInt64} (h : p.lock amount = .ok q) :
    p.Locks q amount.toNat := by
  obtain ⟨balance, hbalance, rfl⟩ := lock_eq_ok.1 h
  exact ⟨hbalance.symm, Amount.cap_addCapped _ _, rfl⟩

/-- What becomes of the vault when it collects fees. -/
structure FeeVault.Collects (v w : FeeVault) (fees : Nat) : Prop where
  balance : w.balance.toNat = v.balance.toNat + fees
  totalCollected : w.totalCollected.toNat = Amount.cap (v.totalCollected.toNat + fees)
  rest : { v with balance := w.balance, totalCollected := w.totalCollected } = w

theorem FeeVault.collects_of_credit {v w : FeeVault} {amount : UInt64}
    (h : v.credit amount = .ok w) : v.Collects w amount.toNat := by
  obtain ⟨balance, hbalance, rfl⟩ := credit_eq_ok.1 h
  exact ⟨hbalance.symm, Amount.cap_addCapped _ _, rfl⟩

/-- What a proposal that succeeds answers, and leaves: a pool with the amount, a vault with the
fees, and a counter that has gone on by one. -/
inductive ProposalRequest.Recorded (request : ProposalRequest) (env : Environment) (l : Ledger)
    (sender : Address) (a : ProposalAccounts) : Receipt → Ledger → Prop where
  | intro {core relation p q v w counter next}
      (core_found : l.record? CoreConfig env.coreConfig.address = some core)
      (relation_found : l.record? ChainRelation a.chainRelation.address = some relation)
      (pool_found : l.record? Pool a.pool.address = some p)
      (pool_mint : p.mint = request.mint)
      (locks : p.Locks q request.amount.toNat)
      (vault_found : l.record? FeeVault env.feeVault.address = some v)
      (collects : v.Collects w (request.fees env l))
      (counter_found :
        (l.record? NonceCounter a.nonceCounter.address).getD (.opened request.toChain) = counter)
      (goes_on : next.toNat = counter.next.toNat + 1)
      (id : (request.proposal env sender relation core counter.next).id =
        keccak256 (request.proposal env sender relation core counter.next).wire) :
      Recorded request env l sender a
        (.proposed (request.proposal env sender relation core counter.next))
        (((l.put a.pool.address q).put env.feeVault.address w).put a.nonceCounter.address
          { counter with next })

/-! ## One proposal -/

namespace ProposalRequest

variable {request : ProposalRequest} {env : Environment} {caller : Caller} {l l' : Ledger}
  {a : ProposalAccounts} {r : Receipt} {e : BridgeError}

theorem fees_of_found {core : CoreConfig} {fee : UInt64}
    (h : l.record? CoreConfig env.coreConfig.address = some core)
    (fits : FeeVault.totalFee? core request.gasFee = some fee) :
    request.fees env l = fee.toNat := by
  rw [fees, Command.paysIn, Ledger.bridgeFee_of_found h]
  exact Amount.add?_eq_some.1 fits

theorem verify_eq_ok_iff_takes {funds : List Funds} {fee : UInt64}
    (hfee : request.fees env l = fee.toNat)
    (fits : request.amount.toNat + request.fees env l < UInt64.size) :
    Funds.verify funds [⟨request.mint, request.amount⟩, ⟨env.nativeMint, fee⟩] = .ok () ↔
      ∀ mint, Funds.sumOf mint funds = request.takes env l mint := by
  have hprice : ∀ mint, Funds.sumOf mint
      [⟨request.mint, request.amount⟩, ⟨env.nativeMint, fee⟩] = request.takes env l mint := by
    intro mint
    simp [takes, hfee]
  have hless : ∀ mint, request.takes env l mint < UInt64.size := by
    intro mint
    unfold takes
    split <;> split <;> omega
  rw [Funds.verify_eq_ok]
  constructor
  · intro h mint
    rw [(h mint).1, hprice]
  · intro h mint
    rw [hprice, h]
    exact ⟨rfl, hless mint⟩

theorem recorded_of_effect
    (accounts : ProposalAccounts.resolve env request.toChain request.toToken request.mint = .ok a)
    (h : Command.Effect env caller l (.propose request) r l') :
    request.Recorded env l caller.sender a r l' := by
  cases h with
  | propose found =>
    obtain rfl := Except.ok.inj (accounts.symm.trans found.resolved)
    have hnext := NonceCounter.advance_eq_ok.1 found.advanced
    have hcounter : found.counter' = ⟨found.counter.chain, found.counter'.next⟩ := by
      rw [hnext.2]
    rw [hcounter]
    refine .intro found.core_found found.relation_found found.pool_found found.pool_mint
      (Pool.locks_of_lock found.locked) found.vault_found ?_ found.counter_found hnext.1.symm
      (Proposal.id_sealed _)
    rw [fees_of_found found.core_found found.fee_fits]
    exact FeeVault.collects_of_credit found.credited

theorem all_met_of_effect (h : Command.Effect env caller l (.propose request) r l') :
    ∀ n ∈ request.needs env l caller.funds, n.met := by
  cases h with
  | propose found =>
    obtain ⟨hchain, htoken, hpool, hcounter⟩ := ProposalAccounts.resolve_eq_ok found.resolved
    have hfee := fees_of_found found.core_found found.fee_fits
    have hsum := Amount.add?_eq_some.1 found.sum_fits
    have hlocks := (Pool.locks_of_lock found.locked).balance
    have hcollects := (FeeVault.collects_of_credit found.credited).balance
    have hnext := (NonceCounter.advance_eq_ok.1 found.advanced).1
    have fits : request.amount.toNat + request.fees env l < UInt64.size := by
      rw [hfee, hsum]
      exact UInt64.toNat_lt _
    have relation_found := (Ledger.chainRelation?_of_account hchain).trans found.relation_found
    have token_found := (Ledger.relation?_of_account htoken).trans found.token_found
    have pool_found := (Ledger.pool?_of_account hpool).trans found.pool_found
    simp only [needs, ChainRelation.needs, TokenRelation.needs, fundsNeeds, roomNeeds,
      List.cons_append, List.nil_append, List.forall_mem_cons, List.not_mem_nil, false_implies,
      implies_true, and_true]
    refine ⟨Ledger.holds_of_found found.config_found, ⟨_, relation_found⟩,
      ⟨_, relation_found, found.active⟩, ⟨_, token_found⟩, ⟨_, token_found, found.token_mint⟩,
      found.amount_ne, fits, (verify_eq_ok_iff_takes hfee fits).1 found.funds,
      ⟨_, pool_found, ?_⟩, ?_, ?_⟩
    · rw [← hlocks]
      exact UInt64.toNat_lt _
    · rw [hfee, Ledger.vault_of_found found.vault_found, ← hcollects]
      exact UInt64.toNat_lt _
    · rw [Ledger.nextNonce_of_account hcounter, found.counter_found, hnext]
      exact UInt64.toNat_lt _

/-- Where the pool is that of the mint, and the vault is there, only room can be missing. -/
theorem firstUnmet_of_stage {fee : UInt64} {p : Pool} {v : FeeVault} (readable : l.Readable)
    (accounts : ProposalAccounts.resolve env request.toChain request.toToken request.mint = .ok a)
    (pool_found : l.pool? env request.mint = some p) (pool_mint : p.mint = request.mint)
    (vault_found : l.record? FeeVault env.feeVault.address = some v)
    (hfee : request.fees env l = fee.toNat)
    (h : (request.stage env a fee).exec l = .error e) :
    Need.FirstUnmet (request.roomNeeds env l) e := by
  obtain ⟨-, -, hpool, hcounter⟩ := ProposalAccounts.resolve_eq_ok accounts
  have hp := (Ledger.pool?_of_account hpool).symm.trans pool_found
  have hv := Ledger.vault_of_found vault_found
  simp [stage, vault_found] at h
  obtain failed | ⟨p', q, ⟨⟨hp', -⟩, locked⟩, h⟩ := h
  · obtain ⟨large, rfl⟩ := Pool.full_of_runLock hp pool_mint failed
    exact .here (by simp [pool_found, large]) rfl
  cases hp.symm.trans hp'
  have hlocks := (Pool.locks_of_lock locked).balance
  refine .later ⟨p, pool_found, hlocks ▸ q.balance.toNat_lt⟩ ?_
  obtain failed | ⟨w, credited, failed⟩ := h
  · obtain ⟨large, rfl⟩ := FeeVault.full_of_runCredit (by simpa using vault_found) failed
    exact .here (by simp [hv, hfee, large]) rfl
  have hcollects := (FeeVault.collects_of_credit credited).balance
  refine .later (by rw [hv, hfee, ← hcollects]; exact w.balance.toNat_lt) ?_
  obtain ⟨large, rfl⟩ := NonceCounter.full_of_runIssue (by simpa using readable.legible) failed
  refine .here ?_ rfl
  rw [Ledger.nextNonce_of_account hcounter]
  simpa using large

theorem firstUnmet_of_exec (readable : l.Readable) (singles : l.Initialized env → l.HasSingles env)
    (accounts : ProposalAccounts.resolve env request.toChain request.toToken request.mint = .ok a)
    (h : (propose env caller a request).exec l = .error e) :
    Need.FirstUnmet (request.checks env l caller.funds ++ [request.stageNeed env a l]) e := by
  obtain ⟨hchain, htoken, -, -⟩ := ProposalAccounts.resolve_eq_ok accounts
  simp [propose, FeeVault.totalFee?, mapError_eq_error, mapError_eq_ok, readable.legible,
    -ChainRelation.exec_loadActive_eq_error, -TokenRelation.exec_loadFor_eq_error] at h
  rw [checks, Ledger.chainRelation?_of_account hchain, Ledger.relation?_of_account htoken]
  simp only [List.cons_append, List.append_assoc]
  -- Each check is the first that is not met, or leaves the error to those behind it.
  obtain ⟨missing, rfl⟩ | ⟨⟨config, config_found⟩, h⟩ := h
  · exact .here (by simp [Ledger.Initialized, missing]) rfl
  have initialized := Ledger.holds_of_found config_found
  refine .later initialized ?_
  obtain ⟨missing, -⟩ | ⟨core, core_found, h⟩ := h
  · exact absurd (singles initialized).core (by simp [missing])
  obtain failed | ⟨⟨c, c_found, active⟩, h⟩ := h
  · exact (ChainRelation.firstUnmet_of_loadActive readable failed).append
  refine .behind (by simp [ChainRelation.needs, c_found, active]) ?_
  obtain failed | ⟨⟨t, t_found, same⟩, h⟩ := h
  · exact (TokenRelation.firstUnmet_of_loadFor readable failed).append
  refine .behind (by simp [TokenRelation.needs, t_found, same]) ?_
  obtain ⟨zero, rfl⟩ | ⟨amount_ne, h⟩ := h
  · exact .here (by simp [zero]) rfl
  refine .later amount_ne ?_
  have hcore : request.fees env l = request.gasFee.toNat + core.bridgeFee.toNat := by
    rw [fees, Command.paysIn, Ledger.bridgeFee_of_found core_found]
  obtain ⟨large, rfl⟩ | ⟨fee, hfee, h⟩ := h
  · exact .here (by dsimp only; omega) rfl
  rw [← hcore] at hfee
  obtain ⟨large, rfl⟩ | ⟨⟨sum, hsum⟩, h⟩ := h
  · exact .here (by dsimp only; omega) rfl
  have fits : request.amount.toNat + request.fees env l < UInt64.size := by
    rw [hfee, hsum]
    exact sum.toNat_lt
  refine .later fits ?_
  obtain ⟨cause, refused, rfl⟩ | ⟨⟨_, accepted⟩, h⟩ := h
  · refine .here (fun same => ?_) ⟨fee, cause, hfee, rfl, Funds.tells_of_verify refused⟩
    rw [(verify_eq_ok_iff_takes hfee fits).2 same] at refused
    cases refused
  refine .later ((verify_eq_ok_iff_takes hfee fits).1 accepted) ?_
  have failed : (request.stage env a fee).exec l = .error e := by simpa [stage] using h
  refine .here ?_ ⟨fee, hfee, failed⟩
  rintro ⟨fee', r, hfee', succeeded⟩
  obtain rfl : fee = fee' := UInt64.toNat_inj.1 (hfee.symm.trans hfee')
  cases failed.symm.trans succeeded

theorem firstUnmet_of_propose (standing : l.Standing env)
    (accounts : ProposalAccounts.resolve env request.toChain request.toToken request.mint = .ok a)
    (h : (propose env caller a request).exec l = .error e) :
    Need.FirstUnmet (request.needs env l caller.funds) e := by
  have readable := standing.intact.readable
  have hexec := firstUnmet_of_exec readable standing.singles accounts h
  rw [needs_eq]
  obtain first | ⟨met, staged⟩ := Need.firstUnmet_append.1 hexec
  · exact first.append
  refine .behind met ?_
  obtain ⟨-, fee, hfee, failed⟩ | ⟨-, behind⟩ := Need.firstUnmet_cons.1 staged
  · simp only [checks, ChainRelation.needs, TokenRelation.needs, List.cons_append, List.nil_append,
      List.forall_mem_cons] at met
    obtain ⟨initialized, -, -, -, ⟨t, t_found, same⟩, -⟩ := met
    -- The relation maps to the mint, so the pool is there, and it is one of the mint.
    obtain ⟨p, pool_found, pool_mint⟩ := standing.intact.pool?_of_relation? t_found
    obtain ⟨v, vault_found⟩ := readable.exists_record (standing.singles initialized).vault
    rw [same] at pool_found pool_mint
    exact firstUnmet_of_stage readable accounts pool_found pool_mint vault_found hfee failed
  · cases behind

end ProposalRequest

/-! ## Runs -/

namespace Call

theorem operation_of_command? {env : Environment} {c : Call} {command : Command}
    (h : c.command? = some command) : c.operation env = command.operation env c.caller := by
  cases c with
  | instantiate => cases h
  | propose =>
    cases h
    rfl
  | execute =>
    cases h
    rfl

theorem Effect.of_command? {env : Environment} {c : Call} {command : Command} {l l' : Ledger}
    {r : Receipt} (effect : Effect env l c r l') (h : c.command? = some command) :
    Command.Effect env c.caller l command r l' := by
  cases effect with
  | instantiate => cases h
  | propose effect =>
    cases h
    exact effect
  | execute effect =>
    cases h
    exact effect

/-- How a proposal fails is how its program fails. -/
theorem exec_of_outcome {env : Environment} {c : Call} {request : ProposalRequest}
    {a : ProposalAccounts} {l : Ledger} {e : BridgeError}
    (hc : c.command? = some (.propose request))
    (accounts : ProposalAccounts.resolve env request.toChain request.toToken request.mint = .ok a)
    (h : (c.perform env l).outcome = .error e) :
    (CustodyBridge.propose env c.caller a request).exec l = .error e :=
  exec_propose_of_error ((operation_of_command? hc).trans (operation_propose accounts)) h

/-- Behind every run, a proposal whose accounts can be derived succeeds exactly where all that it
needs is met. It answers the proposal of the moment, and changes its pool, the vault and its counter
alone. Otherwise it fails with the error of what is first not met, and changes nothing. -/
theorem proposal_decided {env : Environment} {calls : List Call} {c : Call}
    {request : ProposalRequest} {a : ProposalAccounts} (apart : env.Apart .pools (named env calls))
    (hc : c.command? = some (.propose request))
    (accounts : ProposalAccounts.resolve env request.toChain request.toToken request.mint =
      .ok a) :
    let l := performAll env calls SortedMap.empty
    let run := c.perform env l
    let needs := request.needs env l c.caller.funds
    ((∃ r, run.outcome = .ok r) ↔ ∀ n ∈ needs, n.met) ∧
    (∀ r, run.outcome = .ok r → request.Recorded env l c.caller.sender a r run.state) ∧
    ((¬ ∀ n ∈ needs, n.met) →
      (∃ e, run.outcome = .error e ∧ Need.FirstUnmet needs e) ∧ run.state = l) := by
  intro l run needs
  have standing : l.Standing env := standing_history apart
  have rated : l.Rated := rated_performAll env calls
  have hfails : ∀ e, run.outcome = .error e → Need.FirstUnmet needs e := by
    intro e he
    exact ProposalRequest.firstUnmet_of_propose standing accounts (exec_of_outcome hc accounts he)
  have hmet : ∀ r, run.outcome = .ok r → ∀ n ∈ needs, n.met := fun r hr =>
    ProposalRequest.all_met_of_effect ((effect_of_perform hr).of_command? hc)
  refine ⟨⟨fun ⟨r, hr⟩ => hmet r hr, fun all => ?_⟩, fun r hr => ?_, fun unmet => ⟨?_, ?_⟩⟩
  · obtain hok | ⟨e, he⟩ := c.succeeds_or_refuses rated
    · exact hok
    · exact absurd all (hfails e he).not_all_met
  · exact ProposalRequest.recorded_of_effect accounts ((effect_of_perform hr).of_command? hc)
  · obtain ⟨r, hr⟩ | ⟨e, he⟩ := c.succeeds_or_refuses rated
    · exact absurd (hmet r hr) unmet
    · exact ⟨e, he, hfails e he⟩
  · exact state_of_failure fun r hr => unmet (hmet r hr)

theorem proposal_decided_sample :
    Environment.small.Apart .pools (named .small (Sample.calls.take 4)) ∧
      (∀ n ∈ Sample.request.needs .small Sample.related Sample.sender.funds, n.met) ∧
      Sample.request.Recorded .small Sample.related Sample.sender.sender
        ⟨Sample.chainAccount, Sample.tokenAccount, Sample.poolAccount, Sample.counterAccount⟩
        (.proposed Sample.proposal) Sample.proposed := by
  have apart : Environment.small.Apart .pools (named .small (Sample.calls.take 4)) := by
    unfold Environment.Apart
    decide +kernel
  have hrelated : performAll .small (Sample.calls.take 4) SortedMap.empty = Sample.related :=
    (Sample.run_from_related (run_nil .small _)).2
  obtain ⟨houtcome, hstate⟩ := perform_of_ok Sample.operation_propose Sample.exec_proposing
  have hdecided := proposal_decided apart (c := .propose Sample.sender Sample.request) rfl
    Sample.resolve_proposal
  rw [hrelated] at hdecided
  have hrecorded := hdecided.2.1 _ houtcome
  rw [hstate] at hrecorded
  exact ⟨apart, hdecided.1.1 ⟨_, houtcome⟩, hrecorded⟩

end Call

end CustodyBridge
