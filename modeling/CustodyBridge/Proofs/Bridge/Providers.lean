import CustodyBridge.Bridge.Answering
import CustodyBridge.Proofs.Bridge.Roles
import CustodyBridge.Proofs.Pool.Rewards

/-!
# Providers among others

The ratio of a pool only grows, and a position changes by calls of its provider. So whatever others
do, in any number of calls, a provider's reward does not become less.
-/

namespace CustodyBridge

/-! ## Ratios -/

namespace Pool

theorem Turn.ratio_le {authority : Address} {c : Command} {p q : Pool}
    (h : Turn authority c (some p) q) : p.ratio.toNat ≤ q.ratio.toNat := by
  cases h with
  | same | rated => exact Nat.le_refl _
  | locked locked => rw [← eq_of_lock locked]
  | released released => exact ratio_le_of_release released
  | added added => rw [← eq_of_addLiquidity added]
  | removed removed => rw [← eq_of_removeLiquidity removed]
  | withdrawn withdrawn => rw [← eq_of_withdrawReward withdrawn]

end Pool

theorem Position.pendingReward_mono {x : Position} {p q : Pool} {r r' : UInt64}
    (h : x.pendingReward? p = some r) (h' : x.pendingReward? q = some r')
    (hratio : p.ratio.toNat ≤ q.ratio.toNat) : r ≤ r' := by
  obtain ⟨accrued, haccrued, hr⟩ := pendingReward?_eq_some.1 h
  obtain ⟨accrued', haccrued', hr'⟩ := pendingReward?_eq_some.1 h'
  have hmore : accrued.toNat ≤ accrued'.toNat := by
    rw [← haccrued, ← haccrued']
    exact Nat.div_le_div_right (Nat.mul_le_mul_left _ hratio)
  rw [UInt64.le_iff_toNat_le]
  omega

/-! ## Positions of a provider -/

/-- The purpose of a provider's position in the pool of a mint, if the pool has an account. -/
def Environment.holdings (env : Environment) (mint provider : Address) : List Purpose :=
  (env.address? (.pool mint)).toList.map (.position · provider)

namespace Ledger

/-- The account of a provider's position in the pool of a mint. -/
def positionAddress? (env : Environment) (mint provider : Address) : Option Address :=
  (env.address? (.pool mint)).bind fun a => env.address? (.position a provider)

def position? (env : Environment) (l : Ledger) (mint provider : Address) : Option Position :=
  (positionAddress? env mint provider).bind (l.record? Position ·)

theorem position?_of_account {env : Environment} {l : Ledger} {mint provider : Address}
    {a b : Account} (hpool : env.account (.pool mint) = .ok a)
    (hposition : env.account (.position a.address provider) = .ok b) :
    l.position? env mint provider = l.record? Position b.address := by
  rw [position?, positionAddress?, Environment.address?_of_account hpool, Option.bind_some,
    Environment.address?_of_account hposition, Option.bind_some]

/-- What a provider can withdraw from the pool of a mint. -/
def reward? (env : Environment) (l : Ledger) (mint provider : Address) : Option UInt64 :=
  (l.pool? env mint).bind fun p => (l.position? env mint provider).bind (·.pendingReward? p)

/-- What a provider's position and reward have become, if nothing was taken from them. -/
structure Keeps (env : Environment) (mint provider : Address) (l l' : Ledger) : Prop where
  position : ∀ b, positionAddress? env mint provider = some b → ¬ l.Changed .positions b l'
  ratio : ∀ p, l.pool? env mint = some p →
    ∃ q, l'.pool? env mint = some q ∧ p.ratio.toNat ≤ q.ratio.toNat

variable {env : Environment} {mint provider : Address} {l l' l'' : Ledger} {r : Receipt}

theorem keeps_refl : l.Keeps env mint provider l where
  position _ _ changed := changed rfl
  ratio p hp := ⟨p, hp, Nat.le_refl _⟩

theorem Keeps.trans (h : l.Keeps env mint provider l') (h' : l'.Keeps env mint provider l'') :
    l.Keeps env mint provider l'' where
  position b hb changed := by
    have hsame := not_not.1 (h.position b hb)
    have hsame' := not_not.1 (h'.position b hb)
    exact changed (hsame'.trans hsame)
  ratio p hp := by
    obtain ⟨q, hq, hle⟩ := h.ratio p hp
    obtain ⟨q', hq', hle'⟩ := h'.ratio q hq
    exact ⟨q', hq', hle.trans hle'⟩

theorem Keeps.position?_eq (h : l.Keeps env mint provider l') :
    l'.position? env mint provider = l.position? env mint provider := by
  unfold position?
  cases hb : positionAddress? env mint provider with
  | none => rfl
  | some b => exact record?_congr (not_not.1 (h.position b hb))

theorem Keeps.reward_le {reward reward' : UInt64} (h : l.Keeps env mint provider l')
    (before : l.reward? env mint provider = some reward)
    (after : l'.reward? env mint provider = some reward') : reward ≤ reward' := by
  simp only [reward?, Option.bind_eq_some_iff] at before after
  obtain ⟨p, hp, x, hx, hreward⟩ := before
  obtain ⟨q, hq, x', hx', hreward'⟩ := after
  obtain ⟨q', hq', hratio⟩ := h.ratio p hp
  obtain rfl := Option.some.inj (hq.symm.trans hq')
  rw [h.position?_eq, hx] at hx'
  obtain rfl := Option.some.inj hx'
  exact Position.pendingReward_mono hreward hreward' hratio

/-! ## One call -/

theorem sender_of_changed {c : Call} {purposes : List Purpose} {a b : Address}
    (h : Call.Effect env l c r l') (changed : l.Changed .positions b l')
    (apart : env.Apart .positions purposes) (hnamed : ∀ p ∈ c.purposes env, p ∈ purposes)
    (is_held : .position a provider ∈ purposes)
    (account : env.address? (.position a provider) = some b) : c.caller.sender = provider := by
  obtain ⟨a', account', is_named⟩ : ∃ a', env.address? (.position a' c.caller.sender) = some b ∧
      .position a' c.caller.sender ∈ c.purposes env := by
    cases h with
    | instantiate => exact absurd (by simp) changed
    | propose effect | execute effect =>
      obtain ⟨_, a', _, account', is_named, -⟩ := position_of_command effect changed
      exact ⟨a', account', is_named⟩
  have hsame := apart _ (hnamed _ is_named) _ is_held rfl rfl (by rw [account']; rfl)
    (account'.trans account.symm)
  exact (Purpose.position.inj hsame).2

theorem pool_of_call {c : Call} {a : Address} {p : Pool} (h : Call.Effect env l c r l')
    (hp : l.record? Pool a = some p) :
    ∃ q, l'.record? Pool a = some q ∧ p.ratio.toNat ≤ q.ratio.toNat := by
  cases h with
  | instantiate => exact ⟨p, by simpa using hp, Nat.le_refl _⟩
  | propose effect | execute effect =>
    obtain ⟨q, hq⟩ := pool_of_command effect hp
    have turn := poolTurn_of_command effect hq
    rw [hp] at turn
    exact ⟨q, hq, turn.ratio_le⟩

theorem keeps_of_perform {c : Call} {purposes : List Purpose}
    (other : c.caller.sender ≠ provider) (apart : env.Apart .positions purposes)
    (hnamed : ∀ p ∈ c.purposes env, p ∈ purposes)
    (hheld : ∀ p ∈ env.holdings mint provider, p ∈ purposes) :
    l.Keeps env mint provider (c.perform env l).state := by
  obtain ⟨r, heffect⟩ | hsame := Call.effect_or_unchanged env c l
  · constructor
    · intro b hb changed
      obtain ⟨a, ha, account⟩ := Option.bind_eq_some_iff.1 hb
      refine other (sender_of_changed heffect changed apart hnamed (hheld _ ?_) account)
      simp [Environment.holdings, ha]
    · intro p hp
      obtain ⟨a, ha, hp⟩ := Option.bind_eq_some_iff.1 hp
      obtain ⟨q, hq, hratio⟩ := pool_of_call heffect hp
      exact ⟨q, by rw [pool?, ha, Option.bind_some, hq], hratio⟩
  · rw [hsame]
    exact keeps_refl

end Ledger

/-! ## The query -/

theorem Query.reward_of_perform {env : Environment} {l : Ledger} {mint provider : Address}
    {x : Position} {reward : UInt64} {b : Account}
    (h : (Query.position mint provider).perform env l = .ok (.position x reward b)) :
    l.position? env mint provider = some x ∧ l.reward? env mint provider = some reward := by
  simp [perform, Program.query_eq, answer, account, loadPool, found, mapError_eq_ok] at h
  obtain ⟨a, hpool, hposition, p, hp, hx, hreward⟩ := h
  rw [Ledger.reward?, Ledger.pool?_of_account hpool, hp, Option.bind_some,
    Ledger.position?_of_account hpool hposition, hx, Option.bind_some, hreward]
  exact ⟨rfl, rfl⟩

/-! ## Runs -/

namespace Call

variable {env : Environment} {calls : List Call} {mint provider : Address}

theorem keeps_performAll {purposes : List Purpose} (apart : env.Apart .positions purposes)
    (hheld : ∀ p ∈ env.holdings mint provider, p ∈ purposes)
    (hcalls : ∀ c ∈ calls, c.caller.sender ≠ provider ∧ ∀ p ∈ c.purposes env, p ∈ purposes)
    (l : Ledger) : l.Keeps env mint provider (performAll env calls l) := by
  induction calls generalizing l with
  | nil => exact Ledger.keeps_refl
  | cons c rest ih =>
    obtain ⟨other, hnamed⟩ := hcalls c List.mem_cons_self
    have hone : l.Keeps env mint provider (c.perform env l).state :=
      Ledger.keeps_of_perform other apart hnamed hheld
    exact hone.trans (ih (fun d hd => hcalls d (List.mem_cons_of_mem _ hd)) _)

/-- On every ledger, calls of others leave a provider's position as it is and do not lower the ratio
of its pool. So the reward, as the bridge computes it and as the query answers it, does not become
less. -/
theorem reward_kept (others : ∀ c ∈ calls, c.caller.sender ≠ provider)
    (apart : env.Apart .positions (env.holdings mint provider ++ named env calls)) (l : Ledger) :
    let l' := performAll env calls l
    l.Keeps env mint provider l' ∧
    (∀ reward reward', l.reward? env mint provider = some reward →
      l'.reward? env mint provider = some reward' → reward ≤ reward') ∧
    ∀ x reward a x' reward' a',
      (Query.position mint provider).perform env l = .ok (.position x reward a) →
      (Query.position mint provider).perform env l' = .ok (.position x' reward' a') →
        x' = x ∧ reward ≤ reward' := by
  intro l'
  have keeps : l.Keeps env mint provider l' :=
    keeps_performAll apart (fun p hp => List.mem_append_left _ hp)
      (fun c hc => ⟨others c hc, fun p hp => List.mem_append_right _ (mem_named hc hp)⟩) l
  refine ⟨keeps, fun _ _ => keeps.reward_le, ?_⟩
  intro x reward a x' reward' a' before after
  obtain ⟨hx, hreward⟩ := Query.reward_of_perform before
  obtain ⟨hx', hreward'⟩ := Query.reward_of_perform after
  rw [keeps.position?_eq, hx] at hx'
  exact ⟨(Option.some.inj hx').symm, keeps.reward_le hreward hreward'⟩

/-- What others do behind the deposit earns the provider the fee of 1. -/
theorem reward_kept_sample :
    let others := Sample.calls.drop 3
    (∀ c ∈ others, c.caller.sender ≠ Sample.provider.sender) ∧
      Environment.small.Apart .positions
        (Environment.small.holdings Sample.mint Sample.provider.sender ++ named .small others) ∧
      Sample.added.Keeps .small Sample.mint Sample.provider.sender Sample.released ∧
      Sample.added.reward? .small Sample.mint Sample.provider.sender = some 0 ∧
      Sample.released.reward? .small Sample.mint Sample.provider.sender = some 1 := by
  intro others
  have hothers : ∀ c ∈ others, c.caller.sender ≠ Sample.provider.sender := by decide
  have apart : Environment.small.Apart .positions
      (Environment.small.holdings Sample.mint Sample.provider.sender ++ named .small others) := by
    unfold Environment.Apart
    decide +kernel
  have hrun : performAll .small others Sample.added = Sample.released := by
    have hrated := run_cons Sample.operation_releaseCustody Sample.exec_releaseCustody
      (run_nil .small _)
    have hproposed := run_cons Sample.operation_setPoolFeeRate Sample.exec_setPoolFeeRate hrated
    have hrelated := run_cons Sample.operation_propose Sample.exec_proposing hproposed
    exact (run_cons Sample.operation_setChainRelation Sample.exec_setChainRelation hrelated).2
  have keeps := (reward_kept hothers apart Sample.added).1
  rw [hrun] at keeps
  have hreward : ∀ l : Ledger, l.reward? .small Sample.mint Sample.provider.sender =
      (l.record? Pool Sample.poolAccount.address).bind fun p =>
        (l.record? Position Sample.positionAccount.address).bind (·.pendingReward? p) := fun l => by
    rw [Ledger.reward?, Ledger.pool?_of_account Sample.account_pool,
      Ledger.position?_of_account Sample.account_pool Sample.account_position]
  refine ⟨hothers, apart, keeps, ?_, ?_⟩
  · rw [hreward]
    simp [Sample.added]
    decide +kernel
  · rw [hreward]
    simp [Sample.released, Sample.rated, Sample.proposed, Sample.related, Sample.added]
    decide +kernel

end Call

end CustodyBridge
