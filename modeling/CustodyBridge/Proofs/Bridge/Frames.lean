import CustodyBridge.Proofs.Bridge.Run
import CustodyBridge.Proofs.Pool.Operations

/-!
# What calls leave alone

The tables that each call may write to, and what it may make of a pool that it finds.
-/

namespace CustodyBridge

/-! ## Tables -/

/-- The tables that a command writes to. -/
def Command.tables : Command → List Table
  | propose _ => [.pools, .feeVaults, .nonceCounters]
  | setChainRelation _ _ => [.chainRelations]
  | setTokenRelation _ _ _ _ _ => [.pools, .tokenRelations]
  | removeTokenRelation _ _ _ => [.tokenRelations]
  | releaseCustody _ _ _ _ _ | setPoolFeeRate _ _ => [.pools]
  | withdrawFee _ => [.feeVaults]
  | setBridgeFee _ | changeSuperAdmin _ => [.coreConfigs]
  | addLiquidity _ _ | removeLiquidity _ _ | withdrawReward _ _ => [.pools, .positions]
  | changeAdmin _ => [.bridgeConfigs]

def Call.command? : Call → Option Command
  | instantiate _ _ => none
  | propose _ request => some (.propose request)
  | execute _ command => some command

def Call.tables (c : Call) : List Table :=
  match c.command? with
  | some command => command.tables
  | none => [.bridgeConfigs, .coreConfigs, .bridgeAuthorities, .feeVaults]

namespace Ledger

variable {env : Environment} {caller : Caller} {l l' : Ledger} {r : Receipt} {t : Table}

theorem get?_of_command {c : Command} (h : Command.Effect env caller l c r l')
    (ht : t ∉ c.tables) (a : Address) :
    SortedMap.get? l' (t.key a) = SortedMap.get? l (t.key a) := by
  have ht : ∀ u ∈ c.tables, u ≠ t := fun u hu hut => ht (hut ▸ hu)
  cases h <;> simp [Command.tables] at ht <;> simp [ht]

theorem get?_of_call {c : Call} (h : Call.Effect env l c r l') (ht : t ∉ c.tables) (a : Address) :
    SortedMap.get? l' (t.key a) = SortedMap.get? l (t.key a) := by
  cases h with
  | @instantiate caller i =>
    have ht : ∀ u ∈ (Call.instantiate caller i).tables, u ≠ t := fun u hu hut => ht (hut ▸ hu)
    simp [Call.tables, Call.command?] at ht
    simp [ht]
  | propose effect => exact get?_of_command effect ht a
  | execute effect => exact get?_of_command effect ht a

end Ledger

/-! ## Pools -/

/-- What a command that succeeds makes of the pool of an account, if it finds one there. -/
inductive Pool.Turn (authority : Address) : Command → Option Pool → Pool → Prop where
  | same {c p} : Turn authority c (some p) p
  | opened {chain token foreignDecimals mint localDecimals} :
      Turn authority (.setTokenRelation chain token foreignDecimals mint localDecimals) none
        (opened mint authority)
  | locked {request p q} (locked : p.lock request.amount = .ok q) :
      Turn authority (.propose request) (some p) q
  | released {chain token mint recipient amount localAmount p q release}
      (released : p.release localAmount = .ok (q, release)) :
      Turn authority (.releaseCustody chain token mint recipient amount) (some p) q
  | rated {mint rate p} (rate_le : rate ≤ feeRateUnit) :
      Turn authority (.setPoolFeeRate mint rate) (some p) { p with feeRate := rate }
  | added {mint amount p q x y} (added : p.addLiquidity x amount = .ok (q, y)) :
      Turn authority (.addLiquidity mint amount) (some p) q
  | removed {mint amount p q x y} (removed : p.removeLiquidity x amount = .ok (q, y)) :
      Turn authority (.removeLiquidity mint amount) (some p) q
  | withdrawn {mint amount p q x y} (withdrawn : p.withdrawReward x amount = .ok (q, y)) :
      Turn authority (.withdrawReward mint amount) (some p) q

namespace Ledger

variable {env : Environment} {caller : Caller} {l l' : Ledger} {r : Receipt} {a : Address}

theorem poolTurn_of_put {c : Command} {b : Address} {p? : Option Pool} {q q' : Pool}
    (found : l.record? Pool b = p?) (turn : Pool.Turn env.bridgeAuthority.address c p? q)
    (h : (l.put b q).record? Pool a = some q') :
    Pool.Turn env.bridgeAuthority.address c (l.record? Pool a) q' := by
  rw [record?_put] at h
  split at h
  · rename_i hb
    cases h
    rwa [← hb, found]
  · rw [h]
    exact .same

theorem poolTurn_of_command {c : Command} {q : Pool} (h : Command.Effect env caller l c r l')
    (hq : l'.record? Pool a = some q) :
    Pool.Turn env.bridgeAuthority.address c (l.record? Pool a) q := by
  cases h with
  | propose found =>
    exact poolTurn_of_put found.pool_found (.locked found.locked) (by simpa using hq)
  | openPool found pool_missing =>
    exact poolTurn_of_put (record?_of_not_holds pool_missing) .opened (by simpa using hq)
  | releaseCustody found =>
    exact poolTurn_of_put found.pool_found (.released found.released) hq
  | setPoolFeeRate found =>
    exact poolTurn_of_put found.pool_found (.rated found.rate_le) hq
  | addLiquidity found =>
    exact poolTurn_of_put found.pool_found (.added found.added) (by simpa using hq)
  | removeLiquidity found =>
    exact poolTurn_of_put found.pool_found (.removed found.removed) (by simpa using hq)
  | withdrawReward found =>
    exact poolTurn_of_put found.pool_found (.withdrawn found.withdrawn) (by simpa using hq)
  | _ =>
    simp only [record?_put_of_ne, record?_erase_of_ne, table_bridgeConfig, table_coreConfig,
      table_feeVault, table_chainRelation, table_tokenRelation, table_pool, ne_eq, reduceCtorEq,
      not_false_eq_true] at hq
    rw [hq]
    exact .same

theorem pool_of_put {b : Address} {p q' : Pool} (hp : l.record? Pool a = some p) :
    ∃ q, (l.put b q').record? Pool a = some q := by
  rw [record?_put]
  split
  · exact ⟨q', rfl⟩
  · exact ⟨p, hp⟩

theorem pool_of_command {c : Command} {p : Pool} (h : Command.Effect env caller l c r l')
    (hp : l.record? Pool a = some p) : ∃ q, l'.record? Pool a = some q := by
  by_cases hpools : .pools ∈ c.tables
  · cases h with
    | releaseCustody | setPoolFeeRate => exact pool_of_put hp
    | propose | openPool | addLiquidity | removeLiquidity | withdrawReward =>
      simpa using pool_of_put hp
    | setTokenRelation => exact ⟨p, by simpa using hp⟩
    | _ => simp [Command.tables] at hpools
  · have hsame : l'.record? Pool a = l.record? Pool a :=
      record?_congr (get?_of_command h hpools a)
    exact ⟨p, hsame.trans hp⟩

theorem poolTurn_of_call {c : Call} {q : Pool} (h : Call.Effect env l c r l')
    (hq : l'.record? Pool a = some q) :
    l.record? Pool a = some q ∨ ∃ command ∈ c.command?,
      Pool.Turn env.bridgeAuthority.address command (l.record? Pool a) q := by
  cases h with
  | instantiate => exact .inl (by simpa using hq)
  | propose effect => exact .inr ⟨_, rfl, poolTurn_of_command effect hq⟩
  | execute effect => exact .inr ⟨_, rfl, poolTurn_of_command effect hq⟩

theorem poolTurn_of_perform {c : Call} {q : Pool}
    (hq : (c.perform env l).state.record? Pool a = some q) :
    l.record? Pool a = some q ∨ ∃ command ∈ c.command?,
      Pool.Turn env.bridgeAuthority.address command (l.record? Pool a) q := by
  obtain ⟨r, heffect⟩ | hsame := Call.effect_or_unchanged env c l
  · exact poolTurn_of_call heffect hq
  · rw [hsame] at hq
    exact .inl hq

end Ledger

end CustodyBridge
