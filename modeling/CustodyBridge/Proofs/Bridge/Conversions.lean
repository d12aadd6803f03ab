import CustodyBridge.Proofs.Bridge.Releases

/-!
# Conversions of released amounts

A release is asked for in units of the foreign token and paid in units of the local one. The local
amount is the exact result, rounded down, and a release for which there is none is refused.
-/

namespace CustodyBridge

section calls

variable {env : Environment} {calls : List Call} {caller : Caller} {chain : Chain}
  {token recipient : Address} {amount : Word128} {t : TokenRelation}

theorem Call.overflows_of_unconverted
    (admin : (performAll env calls SortedMap.empty).holder? env .admin = some caller.sender)
    (found : (performAll env calls SortedMap.empty).relation? env chain token = some t)
    (unconverted : Decimals.convert? amount t.foreignDecimals t.localDecimals = none) :
    let l := performAll env calls SortedMap.empty
    let run := (execute caller (.releaseCustody chain token t.localMint recipient amount)).perform
      env l
    run.outcome = .error .amountOverflow ∧ run.state = l := by
  intro l run
  obtain ⟨config, config_found, hsender⟩ := Option.map_eq_some_iff.1 admin
  obtain ⟨b, hb, relation_found⟩ := Option.bind_eq_some_iff.1 found
  obtain ⟨relation, htoken, rfl⟩ := Environment.address?_eq_some.1 hb
  have hpool := ((sound_history env calls).linked _ t relation_found).account
  have accounts : TokenAccounts.resolve env chain token t.localMint = .ok ⟨relation, t.pool⟩ := by
    simp only [TokenAccounts.resolve, except_bind_eq_ok]
    exact ⟨_, htoken, _, hpool, rfl⟩
  have hexec : (CustodyBridge.releaseCustody env caller ⟨relation, t.pool⟩ chain token t.localMint
      recipient amount).exec l = .error .amountOverflow := by
    unfold CustodyBridge.releaseCustody
    rw [Program.exec_bind_of_ok
        (BridgeConfig.exec_authorize_eq_ok.2 ⟨config_found, hsender.symm, rfl⟩),
      Program.exec_bind_of_ok
        (TokenRelation.exec_loadFor_eq_ok.2 ⟨⟨relation_found, rfl⟩, rfl⟩),
      unconverted, Program.exec_bind, Program.exec_require]
    rfl
  have houtcome : run.outcome = .error .amountOverflow := by
    rw [show run.outcome = _ from (perform_eq (operation_release accounts)).1, hexec]
    rfl
  refine ⟨houtcome, state_of_failure fun r hr => ?_⟩
  rw [show run.outcome = .ok r from hr] at houtcome
  cases houtcome

end calls

namespace Decimals

/-- Conversions are exact, rounded down: there is a result where the precisions are less than 39
decimals apart and it is an amount, and otherwise a release overflows. So conversions keep the order
of amounts, lose nothing on the way to more decimals, and give the parts of an amount no more than
the whole. -/
theorem conversion_exact (source target : UInt8) :
    (∀ amount : Word128, convert? amount source target =
      if 39 ≤ gap source target ∨
        UInt64.size ≤ amount.toNat * 10 ^ target.toNat / 10 ^ source.toNat then none
      else some (UInt64.ofNat (amount.toNat * 10 ^ target.toNat / 10 ^ source.toNat))) ∧
    (∀ (env : Environment) (calls : List Call) (caller : Caller) (chain : Chain)
      (token recipient : Address) (amount : Word128) (t : TokenRelation),
      let l := Call.performAll env calls SortedMap.empty
      l.holder? env .admin = some caller.sender → l.relation? env chain token = some t →
        t.foreignDecimals = source → t.localDecimals = target →
          convert? amount source target = none →
            ((Call.execute caller (.releaseCustody chain token t.localMint recipient
              amount)).perform env l).outcome = .error .amountOverflow) ∧
    (∀ (m n : Word128) (y : UInt64), m.toNat ≤ n.toNat → convert? n source target = some y →
      ∃ x, convert? m source target = some x ∧ x ≤ y) ∧
    (∀ (amount : Word128) (x : UInt64), source ≤ target →
      convert? amount source target = some x →
        ∃ y, convert? (BitVec.ofNat 128 x.toNat) target source = some y ∧
          y.toNat = amount.toNat) ∧
    ∀ (m n whole : Word128) (z : UInt64), m.toNat + n.toNat = whole.toNat →
      convert? whole source target = some z →
        ∃ x y, convert? m source target = some x ∧ convert? n source target = some y ∧
          x.toNat + y.toNat ≤ z.toNat := by
  refine ⟨fun amount => convert?_eq amount source target, ?_, fun _ _ _ => convert?_mono,
    fun _ _ => convert?_back, fun _ _ _ _ => convert?_parts⟩
  rintro env calls caller chain token recipient amount t l admin found rfl rfl unconverted
  exact (Call.overflows_of_unconverted admin found unconverted).1

/-- From 18 decimals to 9, one and a half comes to one, and twice as much to three. From 6 to 9 and
back, five is five. Behind a small run, a release of 2^64 overflows. -/
theorem conversion_exact_sample :
    convert? 3000000000 18 9 = some 3 ∧
      (∃ x y, convert? 1500000000 18 9 = some x ∧ convert? 1500000000 18 9 = some y ∧
        x.toNat + y.toNat ≤ 3) ∧
      (∃ x, convert? 1500000000 18 9 = some x ∧ x ≤ 3) ∧
      convert? 5 6 9 = some 5000 ∧ (∃ y, convert? 5000 9 6 = some y ∧ y.toNat = 5) ∧
      ((Call.execute Sample.admin (.releaseCustody Sample.chain Sample.token Sample.mint
        Sample.recipient 18446744073709551616)).perform .small Sample.released).outcome =
          .error .amountOverflow := by
  have whole : convert? 3000000000 18 9 = some 3 := by decide +kernel
  have more : convert? 5 6 9 = some 5000 := by decide +kernel
  obtain ⟨-, -, mono, -, parts⟩ := conversion_exact 18 9
  obtain ⟨-, -, -, back, -⟩ := conversion_exact 6 9
  obtain ⟨-, overflows, -⟩ := conversion_exact 6 6
  have admin : Sample.released.holder? .small .admin = some Sample.admin.sender := by
    simp [Ledger.holder?, Sample.released, Sample.rated, Sample.proposed, Sample.related,
      Sample.added, Sample.opened, Sample.initialized]
  have found : Sample.released.relation? .small Sample.chain Sample.token =
      some ⟨Sample.chain, Sample.token, 6, Sample.mint, 6, Sample.poolAccount⟩ := by
    rw [Ledger.relation?_of_account Sample.account_token]
    simp [Sample.released, Sample.rated, Sample.proposed, Sample.related, Sample.added,
      Sample.opened]
  have unconverted : convert? 18446744073709551616 6 6 = none := by decide +kernel
  have hrun := Sample.run.2
  rw [← hrun] at admin found
  have refused := overflows .small Sample.calls Sample.admin Sample.chain Sample.token
    Sample.recipient _ _ admin found rfl rfl unconverted
  rw [hrun] at refused
  exact ⟨whole, parts _ _ _ 3 (by decide) whole, mono _ _ 3 (by decide) whole, more,
    back _ 5000 (by decide) more, refused⟩

end Decimals

end CustodyBridge
