import CustodyBridge.Proofs.Bridge.Integrity
import CustodyBridge.Proofs.Bridge.Safety

/-!
# The founding of a bridge

A bridge is founded by the first instantiation with the derived bump. Before, nothing succeeds, not
even where no handler asks for it; afterwards, nobody founds it again, and roles are handed over by
their holders.
-/

namespace CustodyBridge

/-! ## Foundings -/

/-- The bump that an instantiation gives. -/
def Call.bump? : Call → Option UInt8
  | instantiate _ i => some i.bump
  | propose _ _ | execute _ _ => none

/-- A call of a run founds the bridge if it instantiates it with the derived bump, and succeeds. -/
def Step.Founding (env : Environment) (s : Step) : Prop :=
  s.call.bump? = some env.bridgeConfig.bump ∧ s.receipt?.isSome = true

def Step.Founded (env : Environment) (steps : List Step) : Prop := ∃ s ∈ steps, s.Founding env

namespace Step

variable {env : Environment} {steps : List Step} {s : Step}

theorem founded_append_singleton :
    Founded env (steps ++ [s]) ↔ Founded env steps ∨ s.Founding env := by
  simp [Founded, or_and_right, exists_or]

theorem not_founded_of_receipts (h : receipts steps = []) : ¬ Founded env steps := by
  rintro ⟨s, hs, -, hsome⟩
  obtain ⟨r, hr⟩ := Option.isSome_iff_exists.1 hsome
  have hmem : r ∈ receipts steps := List.mem_filterMap.2 ⟨s, hs, hr⟩
  rw [h] at hmem
  cases hmem

end Step

/-! ## Instantiations -/

namespace Call

variable {env : Environment}

theorem perform_instantiate_of_missing {l : Ledger} {caller : Caller} {i : Instantiation}
    (missing : l.holds BridgeConfig env.bridgeConfig.address = false)
    (bump : i.bump = env.bridgeConfig.bump) :
    ∃ r, ((instantiate caller i).perform env l).outcome = .ok r := by
  have hexec : ∃ r left, (instantiateOperation env caller i).program.exec l = .ok (r, left) := by
    simp [instantiateOperation, CustodyBridge.instantiate, FeeVault.runOpen, missing, bump]
  obtain ⟨r, left, hexec⟩ := hexec
  have hop : (instantiate caller i).operation env = .ok (instantiateOperation env caller i) := rfl
  exact ⟨r, (perform_of_ok hop hexec).1⟩

theorem perform_instantiate_of_holds {l : Ledger} {caller : Caller} {i : Instantiation}
    (there : l.holds BridgeConfig env.bridgeConfig.address = true) :
    ((instantiate caller i).perform env l).outcome = .error .alreadyInitialized ∧
      ((instantiate caller i).perform env l).state = l := by
  have hexec : (instantiateOperation env caller i).program.exec l =
      .error .alreadyInitialized := by
    unfold instantiateOperation CustodyBridge.instantiate
    rw [Program.exec_bind_of_ok Record.exec_exists?, if_pos there]
    rfl
  have hop : (instantiate caller i).operation env = .ok (instantiateOperation env caller i) := rfl
  obtain ⟨houtcome, hstate⟩ := perform_eq (l := l) hop
  rw [hexec] at houtcome hstate
  exact ⟨houtcome, hstate⟩

theorem Effect.command_of_holds {c : Call} {l l' : Ledger} {r : Receipt} (h : Effect env l c r l')
    (there : l.holds BridgeConfig env.bridgeConfig.address = true) :
    ∃ command, c.command? = some command ∧ Command.Effect env c.caller l command r l' := by
  cases h with
  | instantiate missing =>
    rw [missing] at there
    cases there
  | propose effect => exact ⟨_, rfl, effect⟩
  | execute effect => exact ⟨_, rfl, effect⟩

end Call

theorem Command.not_effect_empty {env : Environment} {caller : Caller} {l' : Ledger} {r : Receipt}
    {c : Command} : ¬ Command.Effect env caller SortedMap.empty c r l' := by
  intro h
  cases h with
  | propose found | setChainRelation found | setTokenRelation found | openPool found
  | removeTokenRelation found | releaseCustody found | setPoolFeeRate found
  | changeAdmin found => cases found.config_found
  | withdrawFee found | setBridgeFee found | changeSuperAdmin found => cases found.core_found
  | addLiquidity found | removeLiquidity found | withdrawReward found => cases found.pool_found

/-! ## Records that stay -/

namespace Ledger

variable {env : Environment} {caller : Caller} {l l' : Ledger} {r : Receipt}
  {ρ : Type} [Record ρ] {a : Address}

theorem holds_of_command {c : Command} (h : Command.Effect env caller l c r l')
    (hρ : Record.table ρ ≠ .tokenRelations) (there : l.holds ρ a = true) :
    l'.holds ρ a = true := by
  cases h with
  | propose => exact holds_put (holds_put (holds_put there))
  | openPool | addLiquidity | removeLiquidity | withdrawReward => exact holds_put (holds_put there)
  | removeTokenRelation => rwa [holds, get?_erase_of_ne hρ.symm]
  | _ => exact holds_put there

/-- The four records that an instantiation writes. -/
structure HasSingles (env : Environment) (l : Ledger) : Prop where
  config : l.holds BridgeConfig env.bridgeConfig.address = true
  core : l.holds CoreConfig env.coreConfig.address = true
  authority : l.holds BridgeAuthority env.bridgeAuthority.address = true
  vault : l.holds FeeVault env.feeVault.address = true

theorem HasSingles.command {c : Command} (h : l.HasSingles env)
    (effect : Command.Effect env caller l c r l') : l'.HasSingles env where
  config := holds_of_command effect (by decide) h.config
  core := holds_of_command effect (by decide) h.core
  authority := holds_of_command effect (by decide) h.authority
  vault := holds_of_command effect (by decide) h.vault

theorem founding_of_empty {c : Call} (h : Call.Effect env SortedMap.empty c r l') :
    c.bump? = some env.bridgeConfig.bump ∧ l'.HasSingles env := by
  cases h with
  | instantiate _ bump => exact ⟨congrArg some bump, by simp, by simp, by simp, by simp⟩
  | propose effect => exact absurd effect Command.not_effect_empty
  | execute effect => exact absurd effect Command.not_effect_empty

theorem HasSingles.call {c : Call} (h : l.HasSingles env) (effect : Call.Effect env l c r l') :
    l'.HasSingles env := by
  obtain ⟨_, -, effect⟩ := effect.command_of_holds h.config
  exact h.command effect

theorem holds_config_of_call {c : Call} (h : Call.Effect env l c r l')
    (before : l = SortedMap.empty ∨ l.holds BridgeConfig env.bridgeConfig.address = true) :
    l'.holds BridgeConfig env.bridgeConfig.address = true := by
  obtain rfl | there := before
  · exact (founding_of_empty h).2.config
  · obtain ⟨_, -, effect⟩ := h.command_of_holds there
    exact holds_of_command effect (by decide) there

end Ledger

/-! ## Holders of roles -/

/-- The command that hands a role over. -/
def Role.handover : Role → Address → Command
  | admin, a => .changeAdmin a
  | superAdmin, a => .changeSuperAdmin a

namespace Ledger

def holder? (env : Environment) (l : Ledger) : Role → Option Address
  | .admin => (l.record? BridgeConfig env.bridgeConfig.address).map (·.admin)
  | .superAdmin => (l.record? CoreConfig env.coreConfig.address).map (·.superAdmin)

variable {env : Environment} {caller : Caller} {l l' : Ledger} {r : Receipt}

theorem handover_of_command {c : Command} {role : Role}
    (h : Command.Effect env caller l c r l')
    (changed : l'.holder? env role ≠ l.holder? env role) :
    ∃ new, c = role.handover new ∧ l.holder? env role = some caller.sender ∧
      l'.holder? env role = some new := by
  cases role with
  | admin =>
    by_cases hconfig : .bridgeConfigs ∈ c.tables
    · cases h with
      | changeAdmin found =>
        exact ⟨_, rfl, by simp [holder?, found.config_found, found.admin], by simp [holder?]⟩
      | _ => simp [Command.tables] at hconfig
    · have hsame : l'.record? BridgeConfig env.bridgeConfig.address =
          l.record? BridgeConfig env.bridgeConfig.address :=
        record?_congr (get?_of_command h hconfig _)
      exact absurd (by rw [holder?, hsame, holder?]) changed
  | superAdmin =>
    by_cases hcore : .coreConfigs ∈ c.tables
    · cases h with
      | changeSuperAdmin found =>
        exact ⟨_, rfl, by simp [holder?, found.core_found, found.super_admin], by simp [holder?]⟩
      | setBridgeFee found => exact absurd (by simp [holder?, found.core_found]) changed
      | _ => simp [Command.tables] at hcore
    · have hsame : l'.record? CoreConfig env.coreConfig.address =
          l.record? CoreConfig env.coreConfig.address :=
        record?_congr (get?_of_command h hcore _)
      exact absurd (by rw [holder?, hsame, holder?]) changed

/-! ## Before and after -/

/-- Nothing is stored, and nothing but the founding succeeds. -/
structure Unfounded (env : Environment) (l : Ledger) : Prop where
  empty : l = SortedMap.empty
  refuses : ∀ c : Call, c.bump? ≠ some env.bridgeConfig.bump →
    (∃ e, (c.perform env l).outcome = .error e) ∧ (c.perform env l).state = l
  founds : ∀ c : Call, c.bump? = some env.bridgeConfig.bump →
    ∃ r, (c.perform env l).outcome = .ok r

/-- The four records are there, nobody instantiates the bridge again, and only the holder of a role
hands it over. -/
structure Founded (env : Environment) (l : Ledger) : Prop where
  config : ∃ config, l.record? BridgeConfig env.bridgeConfig.address = some config
  core : ∃ core, l.record? CoreConfig env.coreConfig.address = some core
  authority : ∃ authority,
    l.record? BridgeAuthority env.bridgeAuthority.address = some authority
  vault : ∃ vault, l.record? FeeVault env.feeVault.address = some vault
  refuses : ∀ caller i,
    ((Call.instantiate caller i).perform env l).outcome = .error .alreadyInitialized ∧
      ((Call.instantiate caller i).perform env l).state = l
  hands : ∀ (c : Call) role,
    holder? env (c.perform env l).state role ≠ l.holder? env role →
      ∃ caller new, c = .execute caller (role.handover new) ∧
        l.holder? env role = some caller.sender ∧
        holder? env (c.perform env l).state role = some new

theorem unfounded_empty (env : Environment) : Unfounded env SortedMap.empty where
  empty := rfl
  refuses c other := by
    have hfails : ∀ r, (c.perform env SortedMap.empty).outcome ≠ .ok r := by
      intro r hr
      exact other (founding_of_empty (Call.effect_of_perform hr)).1
    refine ⟨?_, Call.state_of_failure hfails⟩
    cases hr : (c.perform env SortedMap.empty).outcome with
    | ok r => exact absurd hr (hfails r)
    | error e => exact ⟨e, rfl⟩
    | panic cause => exact absurd hr (c.perform_ne_panic rated_empty cause)
  founds c bump := by
    cases c with
    | instantiate caller i => exact Call.perform_instantiate_of_missing rfl (Option.some.inj bump)
    | propose => cases bump
    | execute => cases bump

theorem HasSingles.founded (h : l.HasSingles env) (readable : l.Readable) : l.Founded env where
  config := readable.exists_record h.config
  core := readable.exists_record h.core
  authority := readable.exists_record h.authority
  vault := readable.exists_record h.vault
  refuses _ _ := Call.perform_instantiate_of_holds h.config
  hands c role changed := by
    obtain ⟨r, heffect⟩ | hsame := Call.effect_or_unchanged env c l
    · obtain ⟨command, hcommand, effect⟩ := heffect.command_of_holds h.config
      obtain ⟨new, rfl, hold, hnew⟩ := handover_of_command effect changed
      cases c with
      | instantiate => cases hcommand
      | propose => cases role <;> cases hcommand
      | execute =>
        cases hcommand
        exact ⟨_, new, rfl, hold, hnew⟩
    · exact absurd (congrArg (holder? env · role) hsame) changed

end Ledger

/-! ## Runs -/

namespace Call

/-- Until a call succeeds the ledger is empty, and the first one that does founds the bridge. -/
theorem singles_history (env : Environment) (calls : List Call) :
    let steps := history env calls SortedMap.empty
    let l := performAll env calls SortedMap.empty
    (Step.receipts steps = [] ∧ l = SortedMap.empty) ∨
      Step.Founded env steps ∧ l.HasSingles env := by
  refine history_induction (P := fun steps l => (Step.receipts steps = [] ∧ l = SortedMap.empty) ∨
    Step.Founded env steps ∧ l.HasSingles env) (.inl ⟨rfl, rfl⟩) ?_
  intro c _ steps l h
  rw [Step.founded_append_singleton]
  cases hr : (c.toStep env l).receipt? with
  | none =>
    rw [Step.after_of_receipt?_eq_none hr]
    refine h.imp (fun ⟨hnone, hempty⟩ => ⟨?_, hempty⟩) (And.imp_left .inl)
    rw [Step.receipts, List.filterMap_append, ← Step.receipts, hnone, List.nil_append,
      List.filterMap_cons, hr]
    rfl
  | some r =>
    have heffect := Step.effect_of_receipt? hr
    refine .inr ?_
    obtain ⟨-, rfl⟩ | ⟨hfounded, singles⟩ := h
    · obtain ⟨bump, singles⟩ := Ledger.founding_of_empty heffect
      exact ⟨.inr ⟨bump, by rw [hr]; rfl⟩, singles⟩
    · exact ⟨.inl hfounded, singles.call heffect⟩

theorem founded_history (env : Environment) (calls : List Call) :
    let l := performAll env calls SortedMap.empty
    (Step.receipts (history env calls SortedMap.empty) = [] ∧ l = SortedMap.empty) ∨
      l.holds BridgeConfig env.bridgeConfig.address = true :=
  (singles_history env calls).imp_right fun h => h.2.config

/-- In every run, nothing succeeds and nothing is stored until an instantiation with the derived
bump does. From then on its four records are there, none succeeds again, and each role passes from
holder to holder. -/
theorem instantiated_once (env : Environment) (calls : List Call) :
    let steps := history env calls SortedMap.empty
    let l := performAll env calls SortedMap.empty
    (¬ Step.Founded env steps → l.Unfounded env) ∧ (Step.Founded env steps → l.Founded env) := by
  intro steps l
  obtain ⟨hnone, hempty⟩ | ⟨hfounded, singles⟩ := singles_history env calls
  · refine ⟨fun _ => ?_, fun hfounded => absurd hfounded (Step.not_founded_of_receipts hnone)⟩
    rw [show l = SortedMap.empty from hempty]
    exact Ledger.unfounded_empty env
  · refine ⟨fun hnot => absurd hfounded hnot, fun _ => ?_⟩
    exact singles.founded (sound_history env calls).readable

theorem instantiated_once_sample :
    Step.Founded .small (history .small Sample.calls SortedMap.empty) ∧
      Sample.released.Founded .small := by
  have hreceipt : ((instantiate Sample.admin ⟨255, none, none⟩).toStep .small
      SortedMap.empty).receipt? = some (.initialized Environment.small.bridgeConfig.address
        Sample.admin.sender Sample.admin.sender 5) := by
    rw [Step.receipt?_toStep_eq_some, (perform_eq rfl).1]
    exact congrArg (Outcome.map Prod.fst) Sample.exec_instantiate
  have founded : Step.Founded .small (history .small Sample.calls SortedMap.empty) :=
    ⟨_, List.mem_cons_self, rfl, by rw [hreceipt]; rfl⟩
  have later := (instantiated_once .small Sample.calls).2 founded
  rw [Sample.run.2] at later
  exact ⟨founded, later⟩

end Call

end CustodyBridge
