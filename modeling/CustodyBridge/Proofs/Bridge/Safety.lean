import CustodyBridge.Bridge.Session
import CustodyBridge.Proofs.Bridge.Frames
import CustodyBridge.Proofs.FeeVault
import CustodyBridge.Proofs.Words

/-!
# No request panics

A release would panic if its fee were more than its amount, and nothing else in a handler or a query
can. No pool ever has a rate above one whole, so no request of a session panics.
-/

namespace CustodyBridge

/-! ## Fee rates -/

/-- Every pool keeps at most the whole of a release as its fee. -/
def Ledger.Rated (l : Ledger) : Prop :=
  ∀ a p, l.record? Pool a = some p → p.feeRate ≤ Pool.feeRateUnit

theorem Ledger.rated_empty : Ledger.Rated SortedMap.empty := nofun

namespace Pool

theorem Turn.feeRate_le {authority : Address} {c : Command} {p? : Option Pool} {q : Pool}
    (h : Turn authority c p? q) (hp : ∀ p, p? = some p → p.feeRate ≤ feeRateUnit) :
    q.feeRate ≤ feeRateUnit := by
  cases h with
  | same => exact hp _ rfl
  | opened => exact (by decide : defaultFeeRate ≤ feeRateUnit)
  | @locked _ p _ locked =>
    rw [← eq_of_lock locked]
    exact hp p rfl
  | @released _ _ _ _ _ _ p _ _ released =>
    rw [← eq_of_release released]
    exact hp p rfl
  | rated rate_le => exact rate_le
  | @added _ _ p _ _ _ added =>
    rw [← eq_of_addLiquidity added]
    exact hp p rfl
  | @removed _ _ p _ _ _ removed =>
    rw [← eq_of_removeLiquidity removed]
    exact hp p rfl
  | @withdrawn _ _ p _ _ _ withdrawn =>
    rw [← eq_of_withdrawReward withdrawn]
    exact hp p rfl

end Pool

/-! ## Programs over records -/

section records

variable {l : Ledger} {a b : Account} {cause : Panic}

@[simp] theorem Record.exec_load?_ne_panic {ρ : Type} [Record ρ] :
    (load? ρ a).exec l ≠ .panic cause := by
  unfold load?
  simp only [Program.exec_bind, Program.exec_get, Outcome.ok_bind]
  cases l.get? (key ρ a) with
  | none => simp
  | some value =>
    dsimp only
    cases (JsonForm.read? value : Option ρ) <;> simp

@[simp] theorem Pool.exec_runOutstanding_ne_panic {mint : Address} :
    (runOutstanding a mint).exec l ≠ .panic cause := by
  unfold runOutstanding
  simp only [Program.exec_bind, ne_eq, Outcome.bind_eq_panic, Record.exec_load?_ne_panic,
    false_or, not_exists, not_and]
  rintro ⟨pool?, left⟩ -
  cases pool? <;> simp

@[simp] theorem Pool.exec_ensure_ne_panic {mint authority : Address} :
    (ensure a mint authority).exec l ≠ .panic cause := by
  simp [ensure]
  split <;> simp

theorem Pool.exec_runRelease_ne_panic {mint : Address} {amount : UInt64} (rated : l.Rated) :
    (runRelease a mint amount).exec l ≠ .panic cause := by
  simp [runRelease, load]
  intro p hp _ hless
  exact absurd (feeShare_le amount (rated _ _ hp)) (UInt64.not_le.2 hless)

end records

/-! ## Operations -/

section operations

variable {env : Environment} {caller : Caller} {l : Ledger} {op : Operation Receipt}

theorem Command.exec_ne_panic {c : Command} (rated : l.Rated)
    (hop : c.operation env caller = .ok op) (cause : Panic) : op.program.exec l ≠ .panic cause := by
  cases c with
  | propose request =>
    obtain ⟨op', hop', rfl⟩ := except_map_eq_ok.1 hop
    obtain ⟨a, -, rfl⟩ := except_map_eq_ok.1 hop'
    simp [Operation.map, CustodyBridge.propose, BridgeConfig.load, CoreConfig.load,
      ChainRelation.loadActive, ChainRelation.load, TokenRelation.loadFor, TokenRelation.load,
      Pool.runLock, Pool.load, FeeVault.runCredit, FeeVault.load, NonceCounter.runIssue]
  | setChainRelation =>
    obtain ⟨a, -, rfl⟩ := except_map_eq_ok.1 hop
    simp [CustodyBridge.setChainRelation, BridgeConfig.authorize, BridgeConfig.load,
      ChainRelation.runUpdate]
  | setTokenRelation =>
    obtain ⟨a, -, rfl⟩ := except_map_eq_ok.1 hop
    simp [CustodyBridge.setTokenRelation, BridgeConfig.authorize, BridgeConfig.load,
      TokenRelation.runSet]
  | removeTokenRelation =>
    obtain ⟨a, -, rfl⟩ := except_map_eq_ok.1 hop
    simp [CustodyBridge.removeTokenRelation, BridgeConfig.authorize, BridgeConfig.load,
      TokenRelation.loadFor, TokenRelation.load, TokenRelation.runRemove]
  | releaseCustody =>
    obtain ⟨a, -, rfl⟩ := except_map_eq_ok.1 hop
    simp [CustodyBridge.releaseCustody, BridgeConfig.authorize, BridgeConfig.load,
      TokenRelation.loadFor, TokenRelation.load, Pool.exec_runRelease_ne_panic rated]
  | withdrawFee =>
    cases hop
    simp [CustodyBridge.withdrawFee, CoreConfig.load, FeeVault.runWithdraw, FeeVault.load]
  | setBridgeFee =>
    cases hop
    simp [CustodyBridge.setBridgeFee, CoreConfig.authorize, CoreConfig.load]
  | setPoolFeeRate =>
    obtain ⟨a, -, rfl⟩ := except_map_eq_ok.1 hop
    simp [CustodyBridge.setPoolFeeRate, BridgeConfig.authorize, BridgeConfig.load,
      Pool.runSetFeeRate, Pool.load]
  | addLiquidity =>
    obtain ⟨a, -, rfl⟩ := except_map_eq_ok.1 hop
    simp [CustodyBridge.addLiquidity, Position.runAdd, Pool.load]
  | removeLiquidity =>
    obtain ⟨a, -, rfl⟩ := except_map_eq_ok.1 hop
    simp [CustodyBridge.removeLiquidity, Position.runRemove, Position.load, Pool.load]
  | withdrawReward =>
    obtain ⟨a, -, rfl⟩ := except_map_eq_ok.1 hop
    simp [CustodyBridge.withdrawReward, Position.runWithdraw, Position.load, Pool.load]
  | changeAdmin =>
    cases hop
    simp [CustodyBridge.changeAdmin, BridgeConfig.authorize, BridgeConfig.load]
  | changeSuperAdmin =>
    cases hop
    simp [CustodyBridge.changeSuperAdmin, CoreConfig.authorize, CoreConfig.load]

namespace Call

theorem exec_ne_panic {c : Call} (rated : l.Rated) (hop : c.operation env = .ok op)
    (cause : Panic) : op.program.exec l ≠ .panic cause := by
  cases c with
  | instantiate =>
    cases hop
    simp [instantiateOperation, CustodyBridge.instantiate, FeeVault.runOpen]
  | propose caller request =>
    have hop : (Command.propose request).operation env caller = .ok op := hop
    exact Command.exec_ne_panic rated hop cause
  | execute caller command =>
    have hop : command.operation env caller = .ok op := hop
    exact Command.exec_ne_panic rated hop cause

theorem perform_ne_panic (c : Call) (rated : l.Rated) (cause : Panic) :
    (c.perform env l).outcome ≠ .panic cause := by
  cases hop : c.operation env with
  | error e => simp [perform, hop]
  | ok op =>
    rw [(perform_eq hop).1, ne_eq, Outcome.map_eq_panic]
    exact exec_ne_panic rated hop cause

theorem succeeds_or_refuses (c : Call) (rated : l.Rated) :
    (∃ r, (c.perform env l).outcome = .ok r) ∨ ∃ e, (c.perform env l).outcome = .error e := by
  cases hrun : (c.perform env l).outcome with
  | ok r => exact .inl ⟨r, rfl⟩
  | error e => exact .inr ⟨e, rfl⟩
  | panic cause => exact absurd hrun (perform_ne_panic c rated cause)

theorem rated_perform (c : Call) (rated : l.Rated) : Ledger.Rated (c.perform env l).state := by
  intro a q hq
  obtain hsame | ⟨command, -, turn⟩ := Ledger.poolTurn_of_perform hq
  · exact rated a q hsame
  · exact turn.feeRate_le (rated a)

theorem rated_performAll (env : Environment) (calls : List Call) :
    Ledger.Rated (performAll env calls SortedMap.empty) :=
  history_induction (P := fun _ l => l.Rated) Ledger.rated_empty
    fun c _ _ _ rated => c.rated_perform rated

end Call

end operations

/-! ## Queries -/

section queries

variable {env : Environment} {l : Ledger}

@[simp] theorem TokenRelation.exec_ofEntry_ne_panic {entry : Bytes × String} {cause : Panic} :
    (ofEntry entry).exec l ≠ .panic cause := by
  simp [ofEntry]
  intro relation _
  split <;> simp

theorem TokenRelation.exec_ofEntries_ne_panic (entries : List (Bytes × String)) (cause : Panic) :
    (ofEntries entries).exec l ≠ .panic cause := by
  induction entries generalizing l with
  | nil => exact nofun
  | cons entry rest ih =>
    simp [ofEntries, ih]

@[simp] theorem NonceCounter.exec_runCurrent_ne_panic {a : Account} {cause : Panic} :
    (runCurrent a).exec l ≠ .panic cause := by
  unfold runCurrent
  simp only [Program.exec_bind, ne_eq, Outcome.bind_eq_panic, Record.exec_load?_ne_panic,
    false_or, not_exists, not_and]
  rintro ⟨counter?, left⟩ -
  cases counter? <;> simp

theorem Query.perform_ne_panic (q : Query) (cause : Panic) :
    q.perform env l ≠ .panic cause := by
  rw [Query.perform, Program.query_eq, ne_eq, Outcome.map_eq_panic]
  cases q with
  | tokenRelations =>
    simp [answer, TokenRelation.runList, TokenRelation.exec_ofEntries_ne_panic]
  | _ => simp [answer, account, loadPool, found, Record.load]

end queries

/-! ## Sessions -/

/-- What a pool computes is what it comes to in machine words, where nothing is a fault. -/
structure Pool.Faultless (p : Pool) : Prop where
  release : ∀ amount, p.releaseExact amount = .ok (p.release amount)
  remove : ∀ x amount, p.removeLiquidityExact x amount =
    .ok (if amount = 0 then .error .zeroAmount else p.removeLiquidity x amount)
  withdraw : ∀ x amount, p.withdrawRewardExact x amount = .ok (p.withdrawReward x amount)

theorem Ledger.Rated.faultless {l : Ledger} {a : Address} {p : Pool} (rated : l.Rated)
    (found : l.record? Pool a = some p) : p.Faultless where
  release amount := Pool.releaseExact_eq_ok amount (rated a p found)
  remove := p.removeLiquidityExact_eq_ok
  withdraw := p.withdrawRewardExact_eq_ok

namespace Request

variable {env : Environment} {l : Ledger}

theorem perform_ne_panic (r : Request) (rated : l.Rated) (cause : Panic) :
    (r.perform env l).outcome ≠ .panic cause := by
  cases r with
  | call c => simpa [perform] using c.perform_ne_panic rated cause
  | query q => simpa [perform] using q.perform_ne_panic cause

theorem rated_perform (r : Request) (rated : l.Rated) : Ledger.Rated (r.perform env l).state := by
  cases r with
  | call c => exact c.rated_perform rated
  | query q => exact rated

theorem performAll_sound (env : Environment) (requests : List Request) (rated : l.Rated) :
    ∀ reply ∈ performAll env requests l,
      (∀ cause, reply.outcome ≠ .panic cause) ∧ Ledger.Rated reply.state := by
  induction requests generalizing l with
  | nil => exact nofun
  | cons r rest ih =>
    intro reply hreply
    obtain rfl | hrest := List.mem_cons.1 hreply
    · exact ⟨r.perform_ne_panic rated, r.rated_perform rated⟩
    · exact ih (r.rated_perform rated) reply hrest

/-- No request of a session panics. On every ledger that a session comes to, pools compute without a
fault in machine words, as the search for a bump does. -/
theorem never_panics (env : Environment) (requests : List Request) :
    let replies := performAll env requests SortedMap.empty
    (∀ reply ∈ replies, ∀ cause, reply.outcome ≠ .panic cause) ∧
    (∀ l ∈ SortedMap.empty :: replies.map (·.state), ∀ a p,
      Ledger.record? Pool l a = some p → p.Faultless) ∧
    ∀ seeds program, env.scheme.searchExact seeds program 255 255 =
      .ok (env.scheme.search seeds program 255) := by
  have hsound := performAll_sound env requests Ledger.rated_empty
  refine ⟨fun reply hreply => (hsound reply hreply).1, fun l hl a p found => ?_,
    fun seeds program => env.scheme.searchExact_eq_ok seeds program (by decide)⟩
  obtain rfl | hl := List.mem_cons.1 hl
  · exact Ledger.rated_empty.faultless found
  · obtain ⟨reply, hreply, rfl⟩ := List.mem_map.1 hl
    exact (hsound reply hreply).2.faultless found

end Request

end CustodyBridge
