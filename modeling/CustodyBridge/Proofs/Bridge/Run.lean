import CustodyBridge.Proofs.Bridge.Effect
import CustodyBridge.Proofs.Bridge.Permission
import CustodyBridge.Proofs.Bridge.Purposes

/-!
# Runs of calls

A call that succeeds has its effect, and one that does not succeed leaves the ledger as it was. So
what the effects keep is kept by every run.
-/

namespace CustodyBridge

namespace Call

variable {env : Environment} {c : Call} {l : Ledger}

/-! ## One call -/

theorem perform_eq {op : Operation Receipt} (hop : c.operation env = .ok op) :
    (c.perform env l).outcome = (op.program.exec l).map Prod.fst ∧
      (c.perform env l).state = (op.program.exec l).stateOr l := by
  obtain ⟨houtcome, hstate⟩ := Program.transact_eq op.program l (permitted_of_operation hop)
  unfold perform
  simp only [hop, Operation.transact]
  rw [← houtcome, ← hstate]
  cases h : (op.program.transact op.access l).outcome <;> simp [h]

theorem perform_of_ok {op : Operation Receipt} {r : Receipt} {l' : Ledger}
    (hop : c.operation env = .ok op) (h : op.program.exec l = .ok (r, l')) :
    (c.perform env l).outcome = .ok r ∧ (c.perform env l).state = l' := by
  obtain ⟨houtcome, hstate⟩ := perform_eq (l := l) hop
  rw [h] at houtcome hstate
  exact ⟨houtcome, hstate⟩

theorem effect_of_perform {r : Receipt} (h : (c.perform env l).outcome = .ok r) :
    Call.Effect env l c r (c.perform env l).state := by
  cases hop : c.operation env with
  | error e => simp [perform, hop] at h
  | ok op =>
    obtain ⟨houtcome, hstate⟩ := perform_eq (l := l) hop
    rw [houtcome] at h
    obtain ⟨⟨_, left⟩, hexec, rfl⟩ := Outcome.map_eq_ok.1 h
    rw [hstate, hexec]
    exact effect_of_exec hop hexec

theorem state_of_failure (h : ∀ r, (c.perform env l).outcome ≠ .ok r) :
    (c.perform env l).state = l := by
  cases hop : c.operation env with
  | error e => simp [perform, hop]
  | ok op =>
    obtain ⟨houtcome, hstate⟩ := perform_eq (l := l) hop
    rw [hstate]
    cases hexec : op.program.exec l with
    | ok r =>
      rw [houtcome, hexec] at h
      exact absurd rfl (h r.1)
    | error | panic => rfl

theorem effect_or_unchanged (env : Environment) (c : Call) (l : Ledger) :
    (∃ r, Call.Effect env l c r (c.perform env l).state) ∨ (c.perform env l).state = l := by
  by_cases hok : ∃ r, (c.perform env l).outcome = .ok r
  · obtain ⟨r, hr⟩ := hok
    exact .inl ⟨r, effect_of_perform hr⟩
  · exact .inr (state_of_failure fun r hr => hok ⟨r, hr⟩)

end Call

namespace Step

variable {env : Environment} {c : Call} {l : Ledger}

theorem receipt?_toStep_eq_some {r : Receipt} :
    (c.toStep env l).receipt? = some r ↔ (c.perform env l).outcome = .ok r := by
  unfold receipt? Call.toStep
  dsimp only
  split <;> simp_all

theorem effect_of_receipt? {r : Receipt} (h : (c.toStep env l).receipt? = some r) :
    Call.Effect env l c r (c.toStep env l).after :=
  Call.effect_of_perform (receipt?_toStep_eq_some.1 h)

theorem after_of_receipt?_eq_none (h : (c.toStep env l).receipt? = none) :
    (c.toStep env l).after = l := by
  refine Call.state_of_failure fun r hr => ?_
  rw [receipt?_toStep_eq_some.2 hr] at h
  cases h

def receipts (steps : List Step) : List Receipt := steps.filterMap receipt?

end Step

/-! ## Runs -/

/-- What holds of the empty history and is kept by each further call holds of every history. -/
theorem Call.history_induction {env : Environment} {calls : List Call}
    {P : List Step → Ledger → Prop} (start : P [] SortedMap.empty)
    (step : ∀ c ∈ calls, ∀ h l, P h l → P (h ++ [c.toStep env l]) (c.toStep env l).after) :
    P (history env calls SortedMap.empty) (performAll env calls SortedMap.empty) := by
  suffices h : ∀ rest, (∀ c ∈ rest, c ∈ calls) → ∀ done l, P done l →
      P (done ++ history env rest l) (performAll env rest l) from
    h calls (fun _ hc => hc) [] SortedMap.empty start
  -- The induction is on the calls that are left, over every history so far.
  intro rest
  induction rest with
  | nil =>
    intro _ done l hP
    rwa [history, List.append_nil]
  | cons c rest ih =>
    intro hrest done l hP
    have hone := step c (hrest c List.mem_cons_self) done l hP
    have hmore := ih (fun d hd => hrest d (List.mem_cons_of_mem _ hd)) _ _ hone
    rwa [List.append_assoc] at hmore

theorem Call.run_nil (env : Environment) (l : Ledger) :
    Step.receipts (history env [] l) = [] ∧ performAll env [] l = l := ⟨rfl, rfl⟩

theorem Call.history_cons {env : Environment} {c : Call} (rest : List Call) {l l' : Ledger}
    (hstate : (c.perform env l).state = l') :
    history env (c :: rest) l = c.toStep env l :: history env rest l' ∧
      performAll env (c :: rest) l = performAll env rest l' := by
  subst hstate
  exact ⟨rfl, rfl⟩

theorem Call.run_cons {env : Environment} {c : Call} {rest : List Call} {op : Operation Receipt}
    {l l' left : Ledger} {r : Receipt} {receipts : List Receipt} (hop : c.operation env = .ok op)
    (h : op.program.exec l = .ok (r, l'))
    (hrest : Step.receipts (history env rest l') = receipts ∧ performAll env rest l' = left) :
    Step.receipts (history env (c :: rest) l) = r :: receipts ∧
      performAll env (c :: rest) l = left := by
  obtain ⟨houtcome, hstate⟩ := perform_of_ok hop h
  obtain ⟨hhistory, hleft⟩ := history_cons rest hstate
  have hreceipt : (c.toStep env l).receipt? = some r := Step.receipt?_toStep_eq_some.2 houtcome
  refine ⟨?_, hleft.trans hrest.2⟩
  rw [hhistory, Step.receipts, List.filterMap_cons, hreceipt]
  exact congrArg (r :: ·) hrest.1

/-! ## A small run -/

namespace Sample

def admin : Caller := ⟨⟨Bytes.ofNat 32 20, by simp⟩, []⟩

def mint : Address := ⟨Bytes.ofNat 32 21, by simp⟩

def token : Address := ⟨Bytes.ofNat 32 22, by simp⟩

def provider : Caller := ⟨⟨Bytes.ofNat 32 23, by simp⟩, [⟨mint, 64⟩]⟩

def sender : Caller :=
  ⟨⟨Bytes.ofNat 32 24, by simp⟩, [⟨mint, 10⟩, ⟨Environment.small.nativeMint, 6⟩]⟩

def chain : Chain := ⟨0, 5⟩

def executor : Address := ⟨Bytes.ofNat 32 25, by simp⟩

def recipient : Address := ⟨Bytes.ofNat 32 26, by simp⟩

def request : ProposalRequest := ⟨chain, token, recipient, mint, 10, 1⟩

/-- A pool is opened, provided with liquidity, used by a proposal, and pays out for a fee. -/
def calls : List Call := [
  .instantiate admin ⟨255, none, none⟩,
  .execute admin (.setTokenRelation chain token 6 mint 6),
  .execute provider (.addLiquidity mint 64),
  .execute admin (.setChainRelation chain ⟨some executor, none, none⟩),
  .propose sender request,
  .execute admin (.setPoolFeeRate mint 100000),
  .execute admin (.releaseCustody chain token mint recipient 10)]

/-! ### Accounts -/

def poolAccount : Account := ⟨⟨Bytes.ofNat 32
  335143868138836848370780583278513858096688712972686820338649363315, by simp⟩, 255⟩

def positionAccount : Account := ⟨⟨Bytes.ofNat 32
  385659806585259286667081023394552410954729268953112488886499226567906879516, by simp⟩, 255⟩

def tokenAccount : Account := ⟨⟨Bytes.ofNat 32
  775237455965463056459918901765415476394346007248389895027, by simp⟩, 255⟩

def chainAccount : Account := ⟨⟨Bytes.ofNat 32
  44402599456019035289331885599296978804717598882748330343494051430184499472919, by simp⟩, 255⟩

def counterAccount : Account := ⟨⟨Bytes.ofNat 32
  1430616684168537660198291127932406262110365539747341923599394141939004275, by simp⟩, 255⟩

theorem account_pool : Environment.small.account (.pool mint) = .ok poolAccount := by
  decide +kernel

theorem account_position :
    Environment.small.account (.position poolAccount.address provider.sender) =
      .ok positionAccount := by
  decide +kernel

theorem account_token :
    Environment.small.account (.tokenRelation chain token) = .ok tokenAccount := by
  decide +kernel

theorem account_chain : Environment.small.account (.chainRelation chain) = .ok chainAccount := by
  decide +kernel

theorem account_counter :
    Environment.small.account (.nonceCounter chain) = .ok counterAccount := by
  decide +kernel

/-! ### The ledger after each call -/

def initialized : Ledger :=
  Ledger.put (Ledger.put (Ledger.put (Ledger.put SortedMap.empty
    Environment.small.bridgeConfig.address (⟨admin.sender, 255⟩ : BridgeConfig))
    Environment.small.coreConfig.address (⟨admin.sender, 5, 255⟩ : CoreConfig))
    Environment.small.bridgeAuthority.address (⟨255⟩ : BridgeAuthority))
    Environment.small.feeVault.address FeeVault.empty

def openedPool : Pool := Pool.opened mint Environment.small.bridgeAuthority.address

def opened : Ledger :=
  (initialized.put poolAccount.address openedPool).put tokenAccount.address
    (⟨chain, token, 6, mint, 6, poolAccount⟩ : TokenRelation)

def addedPool : Pool := { openedPool with balance := 64, liquidity := 64 }

def addedPosition : Position := { Position.opened mint provider.sender with amount := 64 }

def added : Ledger :=
  (opened.put poolAccount.address addedPool).put positionAccount.address addedPosition

def chainRelation : ChainRelation := ⟨chain, executor, Address.zero, true⟩

def related : Ledger := added.put chainAccount.address chainRelation

def lockedPool : Pool := { addedPool with balance := 74, totalLocked := 10 }

def proposal : Proposal :=
  request.proposal .small sender.sender chainRelation ⟨admin.sender, 5, 255⟩ 0

def proposed : Ledger :=
  ((related.put poolAccount.address lockedPool).put Environment.small.feeVault.address
    (⟨6, 6, 0⟩ : FeeVault)).put counterAccount.address (⟨chain, 1⟩ : NonceCounter)

def ratedPool : Pool := { lockedPool with feeRate := 100000 }

def rated : Ledger := proposed.put poolAccount.address ratedPool

/-- A fee of 1 is shared by a liquidity of 64. -/
def releasedPool : Pool :=
  { ratedPool with balance := 65, totalReleased := 10, totalEarns := 1, ratio := 67108864 }

def released : Ledger := rated.put poolAccount.address releasedPool

/-! ### The calls -/

theorem exec_instantiate : (instantiate .small admin ⟨255, none, none⟩).exec SortedMap.empty =
    .ok (.initialized Environment.small.bridgeConfig.address admin.sender admin.sender 5,
      initialized) := by
  simp [instantiate, FeeVault.runOpen]
  exact ⟨rfl, rfl, rfl, rfl⟩

theorem exec_setTokenRelation :
    (setTokenRelation .small admin ⟨tokenAccount, poolAccount⟩ chain token 6 mint 6).exec
      initialized = .ok (.tokenRelationSet chain token mint poolAccount.address true, opened) := by
  simp [setTokenRelation, TokenRelation.runSet, initialized]
  exact ⟨rfl, rfl⟩

theorem exec_addLiquidity :
    (addLiquidity provider ⟨poolAccount, positionAccount⟩ mint 64).exec opened =
      .ok (.liquidityAdded mint provider.sender 64 64, added) := by
  simp [addLiquidity, opened, initialized, Position.exec_runAdd_eq_ok, mapError_eq_ok]
  exact ⟨⟨(), by decide +kernel⟩, addedPosition,
    ⟨rfl, fun _ => rfl, addedPool, by decide +kernel, rfl⟩, rfl⟩

theorem exec_setChainRelation :
    (setChainRelation .small admin chainAccount chain ⟨some executor, none, none⟩).exec added =
      .ok (.chainRelationSet chain chainRelation, related) := by
  simp [setChainRelation, added, opened, initialized]
  exact ⟨fun _ => rfl, rfl, rfl⟩

theorem exec_propose :
    (propose .small sender ⟨chainAccount, tokenAccount, poolAccount, counterAccount⟩ request).exec
      related = .ok (proposal, proposed) := by
  simp [propose, related, added, opened, initialized, mapError_eq_ok]
  exact ⟨rfl, rfl, by decide, 6, rfl, ⟨16, rfl⟩, ⟨(), by decide +kernel⟩, lockedPool,
    ⟨rfl, by decide +kernel⟩, ⟨6, 6, 0⟩, by decide +kernel, ⟨fun _ => rfl, ⟨chain, 1⟩,
    by decide +kernel, rfl⟩, rfl⟩

theorem exec_setPoolFeeRate :
    (setPoolFeeRate .small admin poolAccount mint 100000).exec proposed =
      .ok (.poolFeeRateSet mint lockedPool.feeRate 100000, rated) := by
  simp [setPoolFeeRate, proposed, related, added, opened, initialized]
  exact ⟨by decide, rfl, rfl⟩

theorem exec_releaseCustody :
    (releaseCustody .small admin ⟨tokenAccount, poolAccount⟩ chain token mint recipient 10).exec
      rated = .ok (.custodyReleased chain mint recipient 10 10 ⟨9, 1, 65⟩, released) := by
  simp [releaseCustody, rated, proposed, related, added, opened, initialized]
  exact ⟨by decide +kernel, rfl, releasedPool, by decide +kernel, rfl⟩

/-! ### The run -/

def proposing : Operation Receipt :=
  Operation.map .proposed
    ⟨ProposalAccounts.access .small ⟨chainAccount, tokenAccount, poolAccount, counterAccount⟩,
      propose .small sender ⟨chainAccount, tokenAccount, poolAccount, counterAccount⟩ request⟩

theorem exec_proposing : proposing.program.exec related = .ok (.proposed proposal, proposed) := by
  simp only [proposing, Operation.map, Program.exec_bind, exec_propose, Outcome.ok_bind,
    Program.exec_pure]

theorem operation_setTokenRelation :
    (Call.execute admin (.setTokenRelation chain token 6 mint 6)).operation .small =
      .ok ⟨TokenAccounts.setAccess .small ⟨tokenAccount, poolAccount⟩,
        setTokenRelation .small admin ⟨tokenAccount, poolAccount⟩ chain token 6 mint 6⟩ := by
  simp only [Call.operation, Command.operation, TokenAccounts.resolve, except_bind_eq_ok]
  exact ⟨_, ⟨_, account_token, _, account_pool, rfl⟩, rfl⟩

theorem operation_addLiquidity :
    (Call.execute provider (.addLiquidity mint 64)).operation .small =
      .ok ⟨LiquidityAccounts.access ⟨poolAccount, positionAccount⟩,
        addLiquidity provider ⟨poolAccount, positionAccount⟩ mint 64⟩ := by
  simp only [Call.operation, Command.operation, LiquidityAccounts.resolve, except_bind_eq_ok]
  exact ⟨_, ⟨_, account_pool, _, account_position, rfl⟩, rfl⟩

theorem operation_setChainRelation :
    (Call.execute admin (.setChainRelation chain ⟨some executor, none, none⟩)).operation .small =
      .ok ⟨chainRelationAccess .small chainAccount,
        setChainRelation .small admin chainAccount chain ⟨some executor, none, none⟩⟩ := by
  simp only [Call.operation, Command.operation, except_bind_eq_ok]
  exact ⟨_, account_chain, rfl⟩

theorem operation_propose : (Call.propose sender request).operation .small = .ok proposing := by
  simp only [Call.operation, Command.operation, proposeOperation, ProposalAccounts.resolve,
    except_bind_eq_ok]
  exact ⟨_, ⟨_, ⟨_, account_chain, _, account_token, _, account_pool, _, account_counter, rfl⟩,
    rfl⟩, rfl⟩

theorem operation_setPoolFeeRate :
    (Call.execute admin (.setPoolFeeRate mint 100000)).operation .small =
      .ok ⟨poolAccess .small poolAccount,
        setPoolFeeRate .small admin poolAccount mint 100000⟩ := by
  simp only [Call.operation, Command.operation, except_bind_eq_ok]
  exact ⟨_, account_pool, rfl⟩

theorem operation_releaseCustody :
    (Call.execute admin (.releaseCustody chain token mint recipient 10)).operation .small =
      .ok ⟨TokenAccounts.releaseAccess .small ⟨tokenAccount, poolAccount⟩,
        releaseCustody .small admin ⟨tokenAccount, poolAccount⟩ chain token mint recipient 10⟩ := by
  simp only [Call.operation, Command.operation, TokenAccounts.resolve, except_bind_eq_ok]
  exact ⟨_, ⟨_, account_token, _, account_pool, rfl⟩, rfl⟩

theorem run_from_related {rest : List Call} {receipts : List Receipt} {left : Ledger}
    (hrest : Step.receipts (Call.history .small rest related) = receipts ∧
      Call.performAll .small rest related = left) :
    Step.receipts (Call.history .small (calls.take 4 ++ rest) SortedMap.empty) =
        .initialized Environment.small.bridgeConfig.address admin.sender admin.sender 5 ::
          .tokenRelationSet chain token mint poolAccount.address true ::
          .liquidityAdded mint provider.sender 64 64 :: .chainRelationSet chain chainRelation ::
          receipts ∧
      Call.performAll .small (calls.take 4 ++ rest) SortedMap.empty = left := by
  have hadded := Call.run_cons operation_setChainRelation exec_setChainRelation hrest
  have hopened := Call.run_cons operation_addLiquidity exec_addLiquidity hadded
  have hinitialized := Call.run_cons operation_setTokenRelation exec_setTokenRelation hopened
  exact Call.run_cons rfl exec_instantiate hinitialized

theorem run_from_proposed {rest : List Call} {receipts : List Receipt} {left : Ledger}
    (hrest : Step.receipts (Call.history .small rest proposed) = receipts ∧
      Call.performAll .small rest proposed = left) :
    Step.receipts (Call.history .small (calls.take 5 ++ rest) SortedMap.empty) =
        .initialized Environment.small.bridgeConfig.address admin.sender admin.sender 5 ::
          .tokenRelationSet chain token mint poolAccount.address true ::
          .liquidityAdded mint provider.sender 64 64 :: .chainRelationSet chain chainRelation ::
          .proposed proposal :: receipts ∧
      Call.performAll .small (calls.take 5 ++ rest) SortedMap.empty = left :=
  run_from_related (Call.run_cons operation_propose exec_proposing hrest)

theorem run : Step.receipts (Call.history .small calls SortedMap.empty) =
      [.initialized Environment.small.bridgeConfig.address admin.sender admin.sender 5,
        .tokenRelationSet chain token mint poolAccount.address true,
        .liquidityAdded mint provider.sender 64 64, .chainRelationSet chain chainRelation,
        .proposed proposal, .poolFeeRateSet mint lockedPool.feeRate 100000,
        .custodyReleased chain mint recipient 10 10 ⟨9, 1, 65⟩] ∧
    Call.performAll .small calls SortedMap.empty = released := by
  have hrated := Call.run_cons operation_releaseCustody exec_releaseCustody (Call.run_nil _ _)
  exact run_from_proposed (Call.run_cons operation_setPoolFeeRate exec_setPoolFeeRate hrated)

end Sample

end CustodyBridge
