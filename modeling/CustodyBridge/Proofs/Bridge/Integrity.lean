import CustodyBridge.Proofs.Bridge.Refusals
import CustodyBridge.Proofs.Bridge.Relations
import CustodyBridge.Proofs.Record.Readable

/-!
# Integrity of the ledger

Records name the account that they are at, and point at each other: a relation at the pool of its
mint, a position at its pool. In every run, each record is where it says, and what it points at is
there.
-/

namespace CustodyBridge

namespace Ledger

variable {env : Environment} {caller : Caller} {l l' : Ledger} {r : Receipt}
  {named : List Purpose}

/-! ## Readable entries -/

theorem readable_of_command {c : Command} (h : Command.Effect env caller l c r l')
    (readable : l.Readable) : l'.Readable := by
  cases h with
  | propose => exact readable.put.put.put
  | openPool | addLiquidity | removeLiquidity | withdrawReward => exact readable.put.put
  | removeTokenRelation => exact readable.erase
  | _ => exact readable.put

theorem readable_of_call {c : Call} (h : Call.Effect env l c r l') (readable : l.Readable) :
    l'.Readable := by
  cases h with
  | instantiate => exact readable.put.put.put.put
  | propose effect => exact readable_of_command effect readable
  | execute effect => exact readable_of_command effect readable

/-! ## Chain relations and counters -/

/-- Every chain relation is at the account of its chain. -/
def ChainRelationsPlaced (env : Environment) (l : Ledger) : Prop :=
  l.AtHome env fun r : ChainRelation => .chainRelation r.chain

/-- Every counter is at the account of its chain. -/
def CountersPlaced (env : Environment) (l : Ledger) : Prop :=
  l.AtHome env fun n : NonceCounter => .nonceCounter n.chain

theorem chainRelations_of_call {c : Call} (h : Call.Effect env l c r l')
    (home : l.ChainRelationsPlaced env) : l'.ChainRelationsPlaced env := by
  by_cases hrelations : .chainRelations ∈ c.tables
  · cases h with
    | instantiate => simp [Call.tables, Call.command?] at hrelations
    | propose => simp [Call.tables, Call.command?, Command.tables] at hrelations
    | execute effect =>
      cases effect with
      | @setChainRelation chain _ found =>
        have hfound := home.address?_getD (.opened chain)
          (Environment.address?_of_account found.resolved)
        refine home.put ?_
        rw [← found.updated]
        exact hfound
      | _ => simp [Call.tables, Call.command?, Command.tables] at hrelations
  · exact home.congr fun a => get?_of_call h hrelations a

theorem nonceCounters_of_command {c : Command} (h : Command.Effect env caller l c r l')
    (home : l.CountersPlaced env) : l'.CountersPlaced env := by
  by_cases hcounters : .nonceCounters ∈ c.tables
  · cases h with
    | @propose request _ _ found =>
      obtain ⟨-, -, -, account⟩ := ProposalAccounts.resolve_eq_ok found.resolved
      have hfound := home.address?_getD (.opened request.toChain)
        (Environment.address?_of_account account)
      have hchain := (NonceCounter.advance_eq_ok.1 found.advanced).2
      rw [found.counter_found, hchain] at hfound
      exact ((home.put_of_ne (by decide)).put_of_ne (by decide)).put hfound
    | _ => simp [Command.tables] at hcounters
  · exact home.congr fun a => get?_of_command h hcounters a

theorem nonceCounters_of_call {c : Call} (h : Call.Effect env l c r l')
    (home : l.CountersPlaced env) : l'.CountersPlaced env := by
  cases h with
  | instantiate => exact home.congr fun a => by simp
  | propose effect => exact nonceCounters_of_command effect home
  | execute effect => exact nonceCounters_of_command effect home

end Ledger

/-! ## Pools -/

theorem Pool.Turn.kept_or_opened {authority : Address} {c : Command} {p? : Option Pool} {q : Pool}
    (h : Turn authority c p? q) :
    (∃ p, p? = some p ∧ (q.mint, q.authority) = (p.mint, p.authority)) ∨
      q.authority = authority ∧ ∀ env sender, .pool q.mint ∈ c.purposes env sender := by
  cases h with
  | same | rated => exact .inl ⟨_, rfl, rfl⟩
  | opened => exact .inr ⟨rfl, fun _ _ => List.mem_cons_of_mem _ List.mem_cons_self⟩
  | locked locked =>
    rw [← eq_of_lock locked]
    exact .inl ⟨_, rfl, rfl⟩
  | released released =>
    rw [← eq_of_release released]
    exact .inl ⟨_, rfl, rfl⟩
  | added added =>
    rw [← eq_of_addLiquidity added]
    exact .inl ⟨_, rfl, rfl⟩
  | removed removed =>
    rw [← eq_of_removeLiquidity removed]
    exact .inl ⟨_, rfl, rfl⟩
  | withdrawn withdrawn =>
    rw [← eq_of_withdrawReward withdrawn]
    exact .inl ⟨_, rfl, rfl⟩

namespace Ledger

variable {env : Environment} {caller : Caller} {l l' : Ledger} {r : Receipt}
  {named : List Purpose}

/-- Every pool is one of the bridge's authority and of a mint that a call has named. -/
def Owned (env : Environment) (named : List Purpose) (l : Ledger) : Prop :=
  ∀ a p, l.record? Pool a = some p → p.authority = env.bridgeAuthority.address ∧
    .pool p.mint ∈ named

theorem owned_of_call {c : Call} (h : Call.Effect env l c r l') (owned : l.Owned env named)
    (hnamed : ∀ p ∈ c.purposes env, p ∈ named) : l'.Owned env named := by
  intro a q hq
  obtain hsame | ⟨command, hcommand, turn⟩ := poolTurn_of_call h hq
  · exact owned a q hsame
  obtain ⟨p, hp, hkept⟩ | ⟨hauthority, hpurpose⟩ := turn.kept_or_opened
  · obtain ⟨hmint, hauthority⟩ := Prod.mk.inj hkept
    rw [hmint, hauthority]
    exact owned a p hp
  · refine ⟨hauthority, hnamed _ ?_⟩
    cases c with
    | instantiate => cases hcommand
    | propose caller | execute caller =>
      cases hcommand
      exact hpurpose env caller.sender

end Ledger

/-! ## Token relations -/

/-- A token relation points at the account of the pool of its mint, where there is a pool. -/
structure TokenRelation.Linked (env : Environment) (named : List Purpose) (l : Ledger)
    (t : TokenRelation) : Prop where
  account : env.account (.pool t.localMint) = .ok t.pool
  is_named : .pool t.localMint ∈ named
  pool : ∃ p, l.record? Pool t.pool.address = some p

namespace Ledger

variable {env : Environment} {caller : Caller} {l l' : Ledger} {r : Receipt} {a : Address}
  {named : List Purpose}

def Linked (env : Environment) (named : List Purpose) (l : Ledger) : Prop :=
  ∀ b t, l.record? TokenRelation b = some t → t.Linked env named l

theorem linked_put {new : TokenRelation} (linked : l.Linked env named)
    (hnew : new.Linked env named l) : Linked env named (l.put a new) := by
  intro b t found
  rw [record?_put] at found
  obtain ⟨account, is_named, pool⟩ : t.Linked env named l := by
    split at found
    · cases found
      exact hnew
    · exact linked b t found
  exact ⟨account, is_named, by simpa using pool⟩

theorem linked_of_command {c : Command} (h : Command.Effect env caller l c r l')
    (readable : l.Readable) (linked : l.Linked env named)
    (hnamed : ∀ p ∈ c.purposes env caller.sender, p ∈ named) : l'.Linked env named := by
  by_cases hrelations : .tokenRelations ∈ c.tables
  · cases h with
    | setTokenRelation found pool_there =>
      obtain ⟨-, hpool⟩ := TokenAccounts.resolve_eq_ok found.resolved
      refine linked_put linked ⟨hpool, hnamed _ ?_, readable.exists_record pool_there⟩
      simp [Command.purposes]
    | openPool found =>
      obtain ⟨-, hpool⟩ := TokenAccounts.resolve_eq_ok found.resolved
      refine linked_put ?_ ⟨hpool, hnamed _ ?_, ?_⟩
      · intro b t found
        obtain ⟨account, is_named, _, hp⟩ := linked b t (by simpa using found)
        exact ⟨account, is_named, pool_of_put hp⟩
      · simp [Command.purposes]
      · exact ⟨_, record?_put_self⟩
    | removeTokenRelation =>
      intro b t found
      rw [record?_erase] at found
      split at found
      · cases found
      · obtain ⟨account, is_named, pool⟩ := linked b t found
        exact ⟨account, is_named, by simpa using pool⟩
    | _ => simp [Command.tables] at hrelations
  · intro b t found
    have hsame : l'.record? TokenRelation b = l.record? TokenRelation b :=
      record?_congr (get?_of_command h hrelations b)
    obtain ⟨account, is_named, _, hp⟩ := linked b t (hsame ▸ found)
    exact ⟨account, is_named, pool_of_command h hp⟩

theorem linked_of_call {c : Call} (h : Call.Effect env l c r l') (readable : l.Readable)
    (linked : l.Linked env named) (hnamed : ∀ p ∈ c.purposes env, p ∈ named) :
    l'.Linked env named := by
  cases h with
  | instantiate =>
    intro b t found
    obtain ⟨account, is_named, pool⟩ := linked b t (by simpa using found)
    exact ⟨account, is_named, by simpa using pool⟩
  | propose effect => exact linked_of_command effect readable linked hnamed
  | execute effect => exact linked_of_command effect readable linked hnamed

/-! ## All records -/

/-- What every call keeps of the records that it finds. -/
structure Sound (env : Environment) (named : List Purpose) (l : Ledger) : Prop where
  readable : l.Readable
  owned : l.Owned env named
  linked : l.Linked env named
  chainRelation : l.ChainRelationsPlaced env
  nonceCounter : l.CountersPlaced env

theorem sound_empty : Sound env named SortedMap.empty :=
  ⟨readable_empty, nofun, nofun, nofun, nofun⟩

theorem Sound.call {c : Call} (h : l.Sound env named) (effect : Call.Effect env l c r l')
    (hnamed : ∀ p ∈ c.purposes env, p ∈ named) : l'.Sound env named where
  readable := readable_of_call effect h.readable
  owned := owned_of_call effect h.owned hnamed
  linked := linked_of_call effect h.readable h.linked hnamed
  chainRelation := chainRelations_of_call effect h.chainRelation
  nonceCounter := nonceCounters_of_call effect h.nonceCounter

/-- Every entry is a record of its table, at the account that its fields name, and what it points at
is there. -/
structure Intact (env : Environment) (l : Ledger) : Prop where
  readable : l.Readable
  pool : ∀ a p, l.record? Pool a = some p → env.address? (.pool p.mint) = some a ∧
    p.authority = env.bridgeAuthority.address
  tokenRelation : ∀ b t, l.record? TokenRelation b = some t →
    env.address? (.tokenRelation t.chain t.foreignToken) = some b ∧
      env.account (.pool t.localMint) = .ok t.pool ∧
      ∃ p, l.record? Pool t.pool.address = some p ∧ p.mint = t.localMint
  chainRelation : ∀ a r, l.record? ChainRelation a = some r →
    env.address? (.chainRelation r.chain) = some a
  nonceCounter : ∀ a n, l.record? NonceCounter a = some n →
    env.address? (.nonceCounter n.chain) = some a
  position : ∀ b x, l.record? Position b = some x → ∃ a p,
    env.address? (.pool x.mint) = some a ∧ env.address? (.position a x.provider) = some b ∧
      l.record? Pool a = some p ∧ p.mint = x.mint

end Ledger

namespace Call

variable {env : Environment} {calls : List Call}

theorem sound_history (env : Environment) (calls : List Call) :
    (performAll env calls SortedMap.empty).Sound env (named env calls) := by
  refine history_induction (P := fun _ l => l.Sound env (named env calls)) Ledger.sound_empty ?_
  intro c hc _ l sound
  change (c.perform env l).state.Sound env (named env calls)
  obtain ⟨r, effect⟩ | hsame := effect_or_unchanged env c l
  · exact sound.call effect fun p hp => mem_named hc hp
  · rwa [hsame]

theorem intact_history (apart : env.Apart .pools (named env calls)) :
    (performAll env calls SortedMap.empty).Intact env := by
  have sound := sound_history env calls
  have placed := placed_history env calls
  have relations := relationsPlaced_history env calls
  generalize performAll env calls SortedMap.empty = l at *
  constructor
  case readable => exact sound.readable
  case pool =>
    intro a p hp
    exact ⟨placed.pool a p (Ledger.get?_pools.trans hp), (sound.owned a p hp).1⟩
  case tokenRelation =>
    intro b t found
    obtain ⟨account, is_named, p, hp⟩ := sound.linked b t found
    refine ⟨relations b t found, account, p, hp, ?_⟩
    -- The pool at the account names its own mint, which has an account of its own.
    have home : env.address? (.pool p.mint) = some t.pool.address :=
      placed.pool _ p (Ledger.get?_pools.trans hp)
    have hsame := apart _ (sound.owned _ p hp).2 _ is_named rfl rfl (by rw [home]; rfl)
      (home.trans (Environment.address?_of_account account).symm)
    exact Purpose.pool.inj hsame
  case chainRelation => exact sound.chainRelation
  case nonceCounter => exact sound.nonceCounter
  case position =>
    intro b x hx
    obtain ⟨a, hpool, hposition, -, p, hp, hmint⟩ :=
      placed.position b x (Ledger.get?_positions.trans hx)
    exact ⟨a, p, hpool, hposition, Ledger.get?_pools.symm.trans hp, hmint⟩

end Call

/-! ## Pools behind relations -/

namespace Ledger

variable {env : Environment} {l : Ledger} {chain : Chain} {token mint : Address}

theorem Intact.pool?_of_relation? (h : l.Intact env) {t : TokenRelation}
    (found : l.relation? env chain token = some t) :
    ∃ p, l.pool? env t.localMint = some p ∧ p.mint = t.localMint := by
  obtain ⟨b, -, found⟩ := Option.bind_eq_some_iff.1 found
  obtain ⟨-, account, p, hp, hmint⟩ := h.tokenRelation b t found
  exact ⟨p, (pool?_of_account account).trans hp, hmint⟩

end Ledger

namespace Call

variable {env : Environment} {calls : List Call}

/-- In every run, records are where they say, and what they point at is there. So no proposal and no
release finds its pool missing, and none finds a pool of another mint behind a relation that maps to
the mint it asks for. -/
theorem integrity (apart : env.Apart .pools (named env calls)) :
    let l := performAll env calls SortedMap.empty
    l.Intact env ∧ ∀ (c : Call) chain token mint, c.through? = some (chain, token, mint) →
      (∀ m, (c.perform env l).outcome ≠ .error (.unknownPool m)) ∧
      ∀ t, l.relation? env chain token = some t → t.localMint = mint →
        (∃ p, l.pool? env mint = some p ∧ p.mint = mint) ∧
        ∀ m m', (c.perform env l).outcome ≠ .error (.tokenMintMismatch m m') := by
  intro l
  have intact : l.Intact env := intact_history apart
  refine ⟨intact, fun c chain token mint hc => ⟨?_, ?_⟩⟩
  · intro m hm
    obtain ⟨t, found, rfl, missing⟩ := (tells_of_perform hc hm).unknownPool m rfl
    obtain ⟨p, hp, -⟩ := intact.pool?_of_relation? found
    rw [missing] at hp
    cases hp
  · rintro t found rfl
    obtain ⟨p, hp, hmint⟩ := intact.pool?_of_relation? found
    refine ⟨⟨p, hp, hmint⟩, fun m m' hm => ?_⟩
    obtain ⟨t', found', hother⟩ := (tells_of_perform hc hm).mismatch m m' rfl
    obtain rfl := Option.some.inj (found.symm.trans found')
    obtain ⟨q, hq, hne⟩ := hother rfl
    obtain rfl := Option.some.inj (hp.symm.trans hq)
    exact hne hmint

/-- Behind a small run, a proposal that is short of funds still finds its pool. -/
theorem integrity_sample :
    Environment.small.Apart .pools (named .small Sample.calls) ∧ Sample.released.Intact .small ∧
      ∀ m, ((Call.propose Sample.provider Sample.request).perform .small
        Sample.released).outcome ≠ .error (.unknownPool m) := by
  have apart : Environment.small.Apart .pools (named .small Sample.calls) := by
    unfold Environment.Apart
    decide +kernel
  have intact := integrity apart
  rw [Sample.run.2] at intact
  exact ⟨apart, intact.1, (intact.2 _ _ _ _ rfl).1⟩

end Call

end CustodyBridge
