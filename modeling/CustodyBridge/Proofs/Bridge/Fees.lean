import CustodyBridge.Proofs.Bridge.Roles

/-!
# Fees

What the vault holds is what proposals have paid, each at the fee of its moment, less what the super
admin has taken out. Nothing else lowers it, and nothing sets it back.
-/

namespace CustodyBridge

/-! ## Fees of a run -/

namespace Ledger

/-- What the bridge takes for a proposal. Before it is instantiated there is none. -/
def bridgeFee (env : Environment) (l : Ledger) : UInt64 :=
  (l.record? CoreConfig env.coreConfig.address).elim 0 (·.bridgeFee)

/-- The vault. Before the bridge is instantiated it is empty. -/
def vault (env : Environment) (l : Ledger) : FeeVault :=
  (l.record? FeeVault env.feeVault.address).getD .empty

end Ledger

namespace Command

/-- What a command pays into the vault if it succeeds on a ledger. -/
def paysIn (env : Environment) (l : Ledger) : Command → Nat
  | propose request => request.gasFee.toNat + (l.bridgeFee env).toNat
  | _ => 0

/-- What a command pays out of the vault if it succeeds. -/
def paysOut : Command → Nat
  | withdrawFee amount => amount.toNat
  | _ => 0

end Command

namespace Step

def paidIn (env : Environment) (s : Step) : Nat :=
  if s.receipt?.isSome then s.call.command?.elim 0 (·.paysIn env s.before) else 0

def paidOut (s : Step) : Nat :=
  if s.receipt?.isSome then s.call.command?.elim 0 Command.paysOut else 0

/-- What all proposals of a run that succeeded have paid. -/
def collected (env : Environment) (steps : List Step) : Nat := (steps.map (paidIn env)).sum

/-- What all withdrawals of a run that succeeded have taken. -/
def withdrawn (steps : List Step) : Nat := (steps.map paidOut).sum

theorem collected_append (env : Environment) (steps later : List Step) :
    collected env (steps ++ later) = collected env steps + collected env later := by
  simp [collected]

theorem withdrawn_append (steps later : List Step) :
    withdrawn (steps ++ later) = withdrawn steps + withdrawn later := by
  simp [withdrawn]

end Step

/-! ## Vaults in exact numbers -/

namespace FeeVault

/-- A vault that has collected and paid out the given amounts. The totals stop at the greatest
amount; the balance does not. -/
structure Accounts (v : FeeVault) (collected withdrawn : Nat) : Prop where
  balance : v.balance.toNat + withdrawn = collected
  collected : v.totalCollected.toNat = Amount.cap collected
  withdrawn : v.totalWithdrawn.toNat = Amount.cap withdrawn

/-- What becomes of a vault when amounts are paid in and out. -/
structure Moved (v w : FeeVault) (paidIn paidOut : Nat) : Prop where
  balance : w.balance.toNat + paidOut = v.balance.toNat + paidIn
  collected : w.totalCollected.toNat = Amount.cap (v.totalCollected.toNat + paidIn)
  withdrawn : w.totalWithdrawn.toNat = Amount.cap (v.totalWithdrawn.toNat + paidOut)

variable {v w : FeeVault} {amount : UInt64} {paidIn paidOut m n : Nat}

theorem moved_refl (v : FeeVault) : v.Moved v 0 0 :=
  ⟨rfl, (Amount.cap_toNat _).symm, (Amount.cap_toNat _).symm⟩

theorem moved_of_credit (h : v.credit amount = .ok w) : v.Moved w amount.toNat 0 := by
  obtain ⟨balance, hbalance, rfl⟩ := credit_eq_ok.1 h
  exact ⟨hbalance.symm, Amount.cap_addCapped _ _, (Amount.cap_toNat _).symm⟩

theorem withdraw_of_le (h : amount ≤ v.balance) :
    ∃ w, v.withdraw amount = .ok w ∧ v.Moved w 0 amount.toNat := by
  have hsub : (Amount.sub v.balance amount : Outcome BridgeError UInt64) =
      .ok (v.balance - amount) := Amount.sub_eq_ok.2 (Amount.toNat_sub_add h)
  refine ⟨⟨v.balance - amount, v.totalCollected, Amount.addCapped v.totalWithdrawn amount⟩, ?_,
    Amount.sub_eq_ok.1 hsub, (Amount.cap_toNat _).symm, Amount.cap_addCapped _ _⟩
  unfold withdraw
  rw [if_neg (UInt64.not_lt.2 h), hsub]
  rfl

theorem withdraw_of_lt (h : v.balance < amount) :
    v.withdraw amount = .error (.insufficientFunds amount v.balance) := by
  unfold withdraw
  rw [if_pos h]

theorem moved_of_withdraw (h : v.withdraw amount = .ok w) : v.Moved w 0 amount.toNat := by
  obtain hlt | hle := Nat.lt_or_ge v.balance.toNat amount.toNat
  · rw [withdraw_of_lt (UInt64.lt_iff_toNat_lt.2 hlt)] at h
    cases h
  · obtain ⟨w', hw', hmoved⟩ := withdraw_of_le (UInt64.le_iff_toNat_le.2 hle)
    rw [h] at hw'
    cases hw'
    exact hmoved

theorem accounts_empty : empty.Accounts 0 0 := ⟨rfl, rfl, rfl⟩

theorem Accounts.moved (h : v.Accounts m n) (hmoved : v.Moved w paidIn paidOut) :
    w.Accounts (m + paidIn) (n + paidOut) := by
  obtain ⟨hbalance, hcollected, hwithdrawn⟩ := h
  obtain ⟨hbalance', hcollected', hwithdrawn'⟩ := hmoved
  refine ⟨by omega, ?_, ?_⟩
  · rw [hcollected', hcollected, Amount.cap_cap_add]
  · rw [hwithdrawn', hwithdrawn, Amount.cap_cap_add]

end FeeVault

/-! ## One call -/

section calls

variable {env : Environment} {caller : Caller} {l l' : Ledger} {r : Receipt}

namespace Ledger

theorem vault_congr (h : l'.record? FeeVault env.feeVault.address =
    l.record? FeeVault env.feeVault.address) : l'.vault env = l.vault env := by
  rw [vault, h, vault]

theorem vault_of_found {v : FeeVault} (h : l.record? FeeVault env.feeVault.address = some v) :
    l.vault env = v := by
  rw [vault, h, Option.getD_some]

end Ledger

theorem moved_of_command {c : Command} (h : Command.Effect env caller l c r l') :
    (l.vault env).Moved (l'.vault env) (c.paysIn env l) c.paysOut := by
  by_cases hvault : .feeVaults ∈ c.tables
  · cases h with
    | @propose request _ fee found =>
      rw [Ledger.vault_of_found found.vault_found,
        Ledger.vault_of_found (v := found.vault') (by simp)]
      have hfee : request.gasFee.toNat + found.core.bridgeFee.toNat = fee.toNat :=
        Amount.add?_eq_some.1 found.fee_fits
      rw [Command.paysIn, Ledger.bridgeFee, found.core_found, Option.elim_some, hfee]
      exact FeeVault.moved_of_credit found.credited
    | withdrawFee found =>
      rw [Ledger.vault_of_found found.vault_found,
        Ledger.vault_of_found (v := found.vault') (by simp)]
      exact FeeVault.moved_of_withdraw found.withdrawn
    | _ => simp [Command.tables] at hvault
  · rw [Ledger.vault_congr (Ledger.record?_congr (Ledger.get?_of_command h hvault _))]
    cases c with
    | propose | withdrawFee => simp [Command.tables] at hvault
    | _ => exact FeeVault.moved_refl _

/-- A ledger on which nothing has succeeded, or on which the bridge has its configuration and its
vault. -/
def Ledger.Settled (env : Environment) (l : Ledger) : Prop :=
  l = SortedMap.empty ∨ l.holds BridgeConfig env.bridgeConfig.address = true ∧
    ∃ v, l.record? FeeVault env.feeVault.address = some v

theorem Ledger.vault_of_command {c : Command} {v : FeeVault}
    (h : Command.Effect env caller l c r l')
    (found : l.record? FeeVault env.feeVault.address = some v) :
    ∃ w, l'.record? FeeVault env.feeVault.address = some w := by
  by_cases hvault : .feeVaults ∈ c.tables
  · cases h with
    | propose => exact ⟨_, (record?_put_of_ne (by decide)).trans record?_put_self⟩
    | withdrawFee => exact ⟨_, record?_put_self⟩
    | _ => simp [Command.tables] at hvault
  · have hsame : l'.record? FeeVault env.feeVault.address =
        l.record? FeeVault env.feeVault.address := record?_congr (get?_of_command h hvault _)
    exact ⟨v, hsame.trans found⟩

theorem Ledger.vault_of_call {c : Call} (h : Call.Effect env l c r l') (settled : l.Settled env) :
    ∃ w, l'.record? FeeVault env.feeVault.address = some w := by
  cases h with
  | instantiate => exact ⟨FeeVault.empty, by simp⟩
  | propose effect | execute effect =>
    obtain rfl | ⟨-, v, found⟩ := settled
    · exact absurd effect Command.not_effect_empty
    · exact vault_of_command effect found

theorem moved_of_call {c : Call} (h : Call.Effect env l c r l') (settled : l.Settled env) :
    (l.vault env).Moved (l'.vault env) (c.command?.elim 0 (·.paysIn env l))
      (c.command?.elim 0 Command.paysOut) := by
  cases h with
  | instantiate missing =>
    obtain rfl | ⟨there, -⟩ := settled
    · rw [Ledger.vault_of_found Ledger.record?_put_self]
      exact FeeVault.moved_refl _
    · rw [missing] at there
      cases there
  | propose effect => exact moved_of_command effect
  | execute effect => exact moved_of_command effect

theorem Step.moved {c : Call} (settled : l.Settled env) :
    (l.vault env).Moved ((c.toStep env l).after.vault env) ((c.toStep env l).paidIn env)
      (c.toStep env l).paidOut := by
  unfold paidIn paidOut
  cases hr : (c.toStep env l).receipt? with
  | none =>
    rw [after_of_receipt?_eq_none hr]
    exact FeeVault.moved_refl _
  | some r => exact moved_of_call (effect_of_receipt? hr) settled

theorem Step.settled {c : Call} (settled : l.Settled env) :
    (c.toStep env l).after.Settled env := by
  cases hr : (c.toStep env l).receipt? with
  | none => rwa [after_of_receipt?_eq_none hr]
  | some r =>
    have heffect := effect_of_receipt? hr
    exact .inr ⟨Ledger.holds_config_of_call heffect (settled.imp_right And.left),
      Ledger.vault_of_call heffect settled⟩

end calls

/-! ## Withdrawals -/

section withdrawals

variable {env : Environment} {caller : Caller} {l : Ledger} {amount : UInt64} {c : Call}

theorem perform_withdrawFee_of_found {core : CoreConfig} {v : FeeVault} (amount : UInt64)
    (core_found : l.record? CoreConfig env.coreConfig.address = some core)
    (super_admin : caller.sender = core.superAdmin)
    (vault_found : l.record? FeeVault env.feeVault.address = some v) :
    let run := (Call.execute caller (.withdrawFee amount)).perform env l
    run.outcome = (v.withdraw amount).map (.feeWithdrawn caller.sender amount ·.balance) ∧
      run.state = match v.withdraw amount with
        | .ok w => l.put env.feeVault.address w
        | _ => l := by
  have hexec : (withdrawFee env caller amount).exec l = (v.withdraw amount).map fun w =>
      (.feeWithdrawn caller.sender amount w.balance, l.put env.feeVault.address w) := by
    unfold withdrawFee FeeVault.runWithdraw
    rw [Program.exec_bind_of_ok (CoreConfig.exec_load_eq_ok.2 ⟨core_found, rfl⟩),
      Program.exec_bind, if_neg (not_not_intro super_admin),
      Program.exec_bind_of_ok (FeeVault.exec_load_eq_ok.2 ⟨vault_found, rfl⟩),
      Program.exec_bind, Program.exec_ofOutcome]
    cases v.withdraw amount <;> rfl
  have hop : (Call.execute caller (.withdrawFee amount)).operation env =
      .ok ⟨env.withdrawFeeAccess, withdrawFee env caller amount⟩ := rfl
  obtain ⟨houtcome, hstate⟩ := Call.perform_eq (l := l) hop
  intro run
  rw [houtcome, hstate, hexec]
  cases v.withdraw amount <;> exact ⟨rfl, rfl⟩

/-- How a ledger answers withdrawals, and who may lower its vault. -/
structure Ledger.Pays (env : Environment) (l : Ledger) : Prop where
  granted : ∀ caller amount, l.HasRole env .superAdmin caller.sender →
    amount ≤ (l.vault env).balance → ∃ w, (l.vault env).Moved w 0 amount.toNat ∧
      ((Call.execute caller (.withdrawFee amount)).perform env l).outcome =
        .ok (.feeWithdrawn caller.sender amount w.balance) ∧
      (((Call.execute caller (.withdrawFee amount)).perform env l).state).vault env = w
  refused : ∀ caller amount, l.HasRole env .superAdmin caller.sender →
    (l.vault env).balance < amount →
      ((Call.execute caller (.withdrawFee amount)).perform env l).outcome =
        .error (.insufficientFunds amount (l.vault env).balance) ∧
      ((Call.execute caller (.withdrawFee amount)).perform env l).state = l
  lowered : ∀ c : Call, ((c.perform env l).state.vault env).balance < (l.vault env).balance →
    l.HasRole env .superAdmin c.caller.sender ∧
      (∃ amount, c.command? = some (.withdrawFee amount)) ∧ ∃ r, (c.perform env l).outcome = .ok r

theorem Ledger.found_of_hasRole (settled : l.Settled env)
    (holds : l.HasRole env .superAdmin caller.sender) :
    ∃ core, l.record? CoreConfig env.coreConfig.address = some core ∧
      caller.sender = core.superAdmin ∧
      l.record? FeeVault env.feeVault.address = some (l.vault env) := by
  obtain ⟨core, core_found, super_admin⟩ := holds
  obtain rfl | ⟨-, v, vault_found⟩ := settled
  · cases core_found
  · exact ⟨core, core_found, super_admin, by rw [vault_of_found vault_found, vault_found]⟩

theorem Step.lowered (settled : l.Settled env)
    (less : ((c.toStep env l).after.vault env).balance < (l.vault env).balance) :
    (∃ amount, c.command? = some (.withdrawFee amount)) ∧
      ∃ r, (c.toStep env l).receipt? = some r := by
  have hbalance := (Step.moved (c := c) settled).balance
  rw [UInt64.lt_iff_toNat_lt] at less
  have hpaid : 0 < (c.toStep env l).paidOut := by omega
  unfold paidOut at hpaid
  split at hpaid
  · rename_i hreceipt
    refine ⟨?_, Option.isSome_iff_exists.1 hreceipt⟩
    change 0 < c.command?.elim 0 Command.paysOut at hpaid
    cases hcommand : c.command? with
    | none => simp [hcommand] at hpaid
    | some command =>
      rw [hcommand, Option.elim_some] at hpaid
      cases command with
      | withdrawFee amount => exact ⟨amount, rfl⟩
      | _ => simp [Command.paysOut] at hpaid
  · exact absurd hpaid (Nat.lt_irrefl 0)

theorem Ledger.pays_of_settled (settled : l.Settled env) : l.Pays env where
  granted caller amount holds le := by
    obtain ⟨core, core_found, super_admin, vault_found⟩ := found_of_hasRole settled holds
    obtain ⟨houtcome, hstate⟩ :=
      perform_withdrawFee_of_found amount core_found super_admin vault_found
    obtain ⟨w, withdrawn, moved⟩ := FeeVault.withdraw_of_le le
    rw [withdrawn] at houtcome hstate
    refine ⟨w, moved, houtcome, ?_⟩
    rw [hstate]
    exact vault_of_found record?_put_self
  refused caller amount holds lt := by
    obtain ⟨core, core_found, super_admin, vault_found⟩ := found_of_hasRole settled holds
    obtain ⟨houtcome, hstate⟩ :=
      perform_withdrawFee_of_found amount core_found super_admin vault_found
    rw [FeeVault.withdraw_of_lt lt] at houtcome hstate
    exact ⟨houtcome, hstate⟩
  lowered c less := by
    obtain ⟨⟨amount, hcommand⟩, r, hreceipt⟩ := Step.lowered settled less
    refine ⟨role_of_call (Step.effect_of_receipt? hreceipt) ?_, ⟨amount, hcommand⟩, r,
      Step.receipt?_toStep_eq_some.1 hreceipt⟩
    rw [Call.role?, hcommand]
    rfl

end withdrawals

/-! ## Every run -/

/-- What calls leave of a vault: what it was, with all that was paid in and out since. -/
structure FeeVault.Kept (v w : FeeVault) (paidIn paidOut : Nat) : Prop where
  balance : w.balance.toNat + paidOut = v.balance.toNat + paidIn
  collected : v.totalCollected ≤ w.totalCollected
  withdrawn : v.totalWithdrawn ≤ w.totalWithdrawn

theorem FeeVault.Accounts.kept {v w : FeeVault} {m n paidIn paidOut : Nat} (hv : v.Accounts m n)
    (hw : w.Accounts (m + paidIn) (n + paidOut)) : v.Kept w paidIn paidOut := by
  obtain ⟨hbalance, hcollected, hwithdrawn⟩ := hv
  obtain ⟨hbalance', hcollected', hwithdrawn'⟩ := hw
  refine ⟨by omega, ?_, ?_⟩
  · rw [UInt64.le_iff_toNat_le, hcollected, hcollected']
    exact Amount.cap_le_cap (Nat.le_add_right _ _)
  · rw [UInt64.le_iff_toNat_le, hwithdrawn, hwithdrawn']
    exact Amount.cap_le_cap (Nat.le_add_right _ _)

namespace Call

variable {env : Environment} {calls : List Call}

theorem accounts_history (env : Environment) (calls : List Call) :
    let steps := history env calls SortedMap.empty
    let l := performAll env calls SortedMap.empty
    l.Settled env ∧
      (l.vault env).Accounts (Step.collected env steps) (Step.withdrawn steps) := by
  refine history_induction (P := fun steps l => l.Settled env ∧
    (l.vault env).Accounts (Step.collected env steps) (Step.withdrawn steps))
    ⟨.inl rfl, FeeVault.accounts_empty⟩ ?_
  rintro c - steps l ⟨settled, accounts⟩
  rw [Step.collected_append, Step.withdrawn_append]
  have hmoved := Step.moved (c := c) settled
  refine ⟨Step.settled settled, ?_⟩
  simpa [Step.collected, Step.withdrawn] using accounts.moved hmoved

theorem kept_history (env : Environment) (calls more : List Call) :
    let l := performAll env calls SortedMap.empty
    let later := history env more l
    (l.vault env).Kept ((performAll env more l).vault env) (Step.collected env later)
      (Step.withdrawn later) := by
  intro l later
  have haccounts := (accounts_history env (calls ++ more)).2
  rw [history_append, performAll_append, Step.collected_append, Step.withdrawn_append] at haccounts
  exact (accounts_history env calls).2.kept haccounts

/-- In every run, the vault holds what proposals have paid, each at the fee of its moment, less what
was withdrawn, and its totals are these two amounts up to the greatest. The super admin withdraws
exactly what the vault can pay, nobody else lowers it, and no later calls set it back. -/
theorem fees_accounted (env : Environment) (calls : List Call) :
    let steps := history env calls SortedMap.empty
    let l := performAll env calls SortedMap.empty
    (l.vault env).Accounts (Step.collected env steps) (Step.withdrawn steps) ∧ l.Pays env ∧
      (∀ more, (l.vault env).Kept ((performAll env more l).vault env)
        (Step.collected env (history env more l)) (Step.withdrawn (history env more l))) ∧
      (Step.receipts steps ≠ [] →
        (∃ v, l.record? FeeVault env.feeVault.address = some v) ∧
        ∀ caller i, ((instantiate caller i).perform env l).outcome = .error .alreadyInitialized ∧
          ((instantiate caller i).perform env l).state = l) := by
  intro steps l
  obtain ⟨settled, accounts⟩ := accounts_history env calls
  refine ⟨accounts, Ledger.pays_of_settled settled, kept_history env calls, fun hsome => ?_⟩
  obtain ⟨hnone, -⟩ | there := founded_history env calls
  · exact absurd hnone hsome
  refine ⟨?_, fun _ _ => perform_instantiate_of_holds there⟩
  obtain hempty | ⟨-, found⟩ := settled
  · rw [hempty] at there
    cases there
  · exact found

/-- The vault holds the 6 that the one proposal has paid, and pays out 4 of them. -/
theorem fees_accounted_sample :
    Step.collected .small (history .small Sample.calls SortedMap.empty) = 6 ∧
      Step.withdrawn (history .small Sample.calls SortedMap.empty) = 0 ∧
      ((execute Sample.admin (.withdrawFee 4)).perform .small Sample.released).outcome =
        .ok (.feeWithdrawn Sample.admin.sender 4 2) := by
  obtain ⟨accounts, pays, -⟩ := fees_accounted .small Sample.calls
  rw [Sample.run.2] at accounts pays
  have found : Sample.released.record? FeeVault Environment.small.feeVault.address =
      some ⟨6, 6, 0⟩ := by
    simp [Sample.released, Sample.rated, Sample.proposed]
  have hvault : Sample.released.vault .small = ⟨6, 6, 0⟩ := Ledger.vault_of_found found
  have holds : Sample.released.HasRole .small .superAdmin Sample.admin.sender := by
    simp [Ledger.HasRole, Sample.released, Sample.rated, Sample.proposed, Sample.related,
      Sample.added, Sample.opened, Sample.initialized]
  obtain ⟨w, moved, houtcome, -⟩ := pays.granted Sample.admin 4 holds (by rw [hvault]; decide)
  rw [hvault] at accounts moved
  have hwithdrawn : Step.withdrawn (history .small Sample.calls SortedMap.empty) = 0 := by
    have hcap : 0 = Amount.cap _ := accounts.withdrawn
    unfold Amount.cap at hcap
    have hsize : UInt64.size = 18446744073709551616 := rfl
    omega
  have hleft : w.balance.toNat + 4 = 6 := moved.balance
  have hw : w.balance = 2 := by
    apply UInt64.toNat_inj.1
    change w.balance.toNat = 2
    omega
  refine ⟨?_, hwithdrawn, hw ▸ houtcome⟩
  rw [← accounts.balance, hwithdrawn]
  rfl

end Call

end CustodyBridge
