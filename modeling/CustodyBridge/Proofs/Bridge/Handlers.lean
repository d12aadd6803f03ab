import CustodyBridge.Proofs.Record.Ledger

/-!
# Parts of the handlers

What it takes for each part of a handler to succeed, and what it leaves. And why loads fail.
-/

namespace CustodyBridge

variable {l l' : Ledger} {a : Account}

/-! ## Roles -/

@[simp] theorem BridgeConfig.exec_load_eq_ok {c : BridgeConfig} :
    (load a).exec l = .ok (c, l') ↔ l.record? BridgeConfig a.address = some c ∧ l = l' := by
  simp [load]

@[simp] theorem CoreConfig.exec_load_eq_ok {c : CoreConfig} :
    (load a).exec l = .ok (c, l') ↔ l.record? CoreConfig a.address = some c ∧ l = l' := by
  simp [load]

@[simp] theorem BridgeConfig.exec_authorize_eq_ok {caller : Address} {c : BridgeConfig} :
    (authorize a caller).exec l = .ok (c, l') ↔
      l.record? BridgeConfig a.address = some c ∧ caller = c.admin ∧ l = l' := by
  simp [authorize, and_assoc, and_comm, and_left_comm]

@[simp] theorem CoreConfig.exec_authorize_eq_ok {caller : Address} {c : CoreConfig} :
    (authorize a caller).exec l = .ok (c, l') ↔
      l.record? CoreConfig a.address = some c ∧ caller = c.superAdmin ∧ l = l' := by
  simp [authorize, and_assoc, and_comm, and_left_comm]

/-! ## Relations -/

@[simp] theorem ChainRelation.exec_loadActive_eq_ok {chain : Chain} {r : ChainRelation} :
    (loadActive a chain).exec l = .ok (r, l') ↔
      (l.record? ChainRelation a.address = some r ∧ l = l') ∧ r.active = true := by
  simp [loadActive, load]

@[simp] theorem ChainRelation.exec_runUpdate_eq_ok {chain : Chain} {u : ChainRelationUpdate}
    {r : ChainRelation} :
    (runUpdate a chain u).exec l = .ok (r, l') ↔
      l.Legible ChainRelation a.address ∧
        ((l.record? ChainRelation a.address).getD (opened chain)).update u = r ∧
        l.put a.address r = l' := by
  simp [runUpdate, Record.exec_load?_eq_ok]
  rintro - rfl
  rfl

@[simp] theorem TokenRelation.exec_loadFor_eq_ok {chain : Chain} {token mint : Address}
    {r : TokenRelation} :
    (loadFor a chain token mint).exec l = .ok (r, l') ↔
      (l.record? TokenRelation a.address = some r ∧ l = l') ∧ r.localMint = mint := by
  simp [loadFor, load]

@[simp] theorem TokenRelation.exec_runRemove_eq_ok {chain : Chain} {token : Address}
    {r : TokenRelation} :
    (runRemove a chain token).exec l = .ok (r, l') ↔
      l.record? TokenRelation a.address = some r ∧ l.erase TokenRelation a.address = l' := by
  simp [runRemove, load]

/-! ## Pools -/

@[simp] theorem Pool.exec_load_eq_ok {mint : Address} {p : Pool} :
    (load a mint).exec l = .ok (p, l') ↔
      (l.record? Pool a.address = some p ∧ l = l') ∧ p.mint = mint := by
  simp [load]

@[simp] theorem Pool.exec_runLock_eq_ok {mint : Address} {amount balance : UInt64} :
    (runLock a mint amount).exec l = .ok (balance, l') ↔
      ∃ p, (l.record? Pool a.address = some p ∧ p.mint = mint) ∧
        ∃ q, p.lock amount = .ok q ∧ q.balance = balance ∧ l.put a.address q = l' := by
  simp [runLock]

@[simp] theorem Pool.exec_runRelease_eq_ok {mint : Address} {amount : UInt64} {release : Release} :
    (runRelease a mint amount).exec l = .ok (release, l') ↔
      ∃ p, (l.record? Pool a.address = some p ∧ p.mint = mint) ∧
        ∃ q, p.release amount = .ok (q, release) ∧ l.put a.address q = l' := by
  simp [runRelease]

@[simp] theorem Pool.exec_runSetFeeRate_eq_ok {mint : Address} {rate old : UInt64} :
    (runSetFeeRate a mint rate).exec l = .ok (old, l') ↔
      rate ≤ feeRateUnit ∧ ∃ p, (l.record? Pool a.address = some p ∧ p.mint = mint) ∧
        p.feeRate = old ∧ l.put a.address { p with feeRate := rate } = l' := by
  simp [runSetFeeRate]

@[simp] theorem Pool.exec_ensure_eq_ok {mint authority : Address} {created : Bool} :
    (ensure a mint authority).exec l = .ok (created, l') ↔
      if l.holds Pool a.address then created = false ∧ l = l'
      else created = true ∧ l.put a.address (opened mint authority) = l' := by
  simp [ensure]
  split <;> simp

@[simp] theorem Pool.exec_runOutstanding_eq_ok {mint : Address} {amount : UInt64} :
    (runOutstanding a mint).exec l = .ok (amount, l') ↔
      l.Legible Pool a.address ∧
        ((l.record? Pool a.address).elim 0 fun p => if p.mint = mint then p.outstanding else 0) =
          amount ∧ l = l' := by
  simp [runOutstanding, Record.exec_load?_eq_ok]
  cases l.record? Pool a.address <;> simp

/-! ## Positions -/

@[simp] theorem Position.exec_load_eq_ok {provider : Address} {p : Position} :
    (load a provider).exec l = .ok (p, l') ↔ l.record? Position a.address = some p ∧ l = l' := by
  simp [load]

@[simp] theorem Position.exec_save {b : Account} {pool : Pool} {p : Position} :
    (save a b pool p).exec l = .ok ((), (l.put a.address pool).put b.address p) := by
  simp [save]

theorem Position.exec_runAdd_eq_ok {b : Account} {mint provider : Address} {amount : UInt64}
    {p : Position} :
    (runAdd a b mint provider amount).exec l = .ok (p, l') ↔
      amount ≠ 0 ∧ ∃ pool, (l.record? Pool a.address = some pool ∧ pool.mint = mint) ∧
        l.Legible Position b.address ∧ ∃ pool', pool.addLiquidity
          ((l.record? Position b.address).getD (opened mint provider)) amount = .ok (pool', p) ∧
          (l.put a.address pool').put b.address p = l' := by
  simp [runAdd, Record.exec_load?_eq_ok]

@[simp] theorem Position.exec_runRemove_eq_ok {b : Account} {mint provider : Address}
    {amount : UInt64} {p : Position} :
    (runRemove a b mint provider amount).exec l = .ok (p, l') ↔
      amount ≠ 0 ∧ ∃ pool, (l.record? Pool a.address = some pool ∧ pool.mint = mint) ∧
        ∃ old, l.record? Position b.address = some old ∧
          ∃ pool', pool.removeLiquidity old amount = .ok (pool', p) ∧
            (l.put a.address pool').put b.address p = l' := by
  simp [runRemove]

@[simp] theorem Position.exec_runWithdraw_eq_ok {b : Account} {mint provider : Address}
    {amount remaining : UInt64} :
    (runWithdraw a b mint provider amount).exec l = .ok (remaining, l') ↔
      amount ≠ 0 ∧ ∃ pool, (l.record? Pool a.address = some pool ∧ pool.mint = mint) ∧
        ∃ old, l.record? Position b.address = some old ∧
          ∃ pool' p, pool.withdrawReward old amount = .ok (pool', p) ∧ p.remaining = remaining ∧
            (l.put a.address pool').put b.address p = l' := by
  simp [runWithdraw]

/-! ## The vault and the counters -/

@[simp] theorem FeeVault.exec_load_eq_ok {v : FeeVault} :
    (load a).exec l = .ok (v, l') ↔ l.record? FeeVault a.address = some v ∧ l = l' := by
  simp [load]

@[simp] theorem FeeVault.exec_runCredit_eq_ok {amount balance : UInt64} :
    (runCredit a amount).exec l = .ok (balance, l') ↔
      ∃ v, l.record? FeeVault a.address = some v ∧
        ∃ w, v.credit amount = .ok w ∧ w.balance = balance ∧ l.put a.address w = l' := by
  simp [runCredit]

@[simp] theorem FeeVault.exec_runWithdraw_eq_ok {config : CoreConfig} {caller : Address}
    {amount balance : UInt64} :
    (runWithdraw a config caller amount).exec l = .ok (balance, l') ↔
      caller = config.superAdmin ∧ ∃ v, l.record? FeeVault a.address = some v ∧
        ∃ w, v.withdraw amount = .ok w ∧ w.balance = balance ∧ l.put a.address w = l' := by
  simp [runWithdraw]

@[simp] theorem NonceCounter.exec_runIssue_eq_ok {chain : Chain} {nonce : UInt64} :
    (runIssue a chain).exec l = .ok (nonce, l') ↔
      l.Legible NonceCounter a.address ∧
        ∃ c, ((l.record? NonceCounter a.address).getD (opened chain)).advance = .ok c ∧
          ((l.record? NonceCounter a.address).getD (opened chain)).next = nonce ∧
          l.put a.address c = l' := by
  simp [runIssue, Record.exec_load?_eq_ok]

/-! ## Loads that fail -/

section errors

variable {e : BridgeError}

@[simp] theorem BridgeConfig.exec_load_eq_error :
    (load a).exec l = .error e ↔
      ¬ l.Legible BridgeConfig a.address ∧ e = .store .unreadable ∨
        l.holds BridgeConfig a.address = false ∧ .notInitialized = e := by
  simp [load]

@[simp] theorem CoreConfig.exec_load_eq_error :
    (load a).exec l = .error e ↔
      ¬ l.Legible CoreConfig a.address ∧ e = .store .unreadable ∨
        l.holds CoreConfig a.address = false ∧ .notInitialized = e := by
  simp [load]

@[simp] theorem ChainRelation.exec_loadActive_eq_error {chain : Chain} :
    (loadActive a chain).exec l = .error e ↔
      ¬ l.Legible ChainRelation a.address ∧ e = .store .unreadable ∨
        l.holds ChainRelation a.address = false ∧ .unknownChainRelation chain = e ∨
        ∃ r, l.record? ChainRelation a.address = some r ∧ r.active = false ∧
          .chainInactive chain = e := by
  simp [loadActive, load, and_or_left, exists_or]

@[simp] theorem TokenRelation.exec_loadFor_eq_error {chain : Chain} {token mint : Address} :
    (loadFor a chain token mint).exec l = .error e ↔
      ¬ l.Legible TokenRelation a.address ∧ e = .store .unreadable ∨
        l.holds TokenRelation a.address = false ∧ .unknownTokenRelation chain token = e ∨
        ∃ t, l.record? TokenRelation a.address = some t ∧ t.localMint ≠ mint ∧
          .tokenMintMismatch t.localMint mint = e := by
  simp [loadFor, load, and_or_left, exists_or]

@[simp] theorem Pool.exec_load_eq_error {mint : Address} :
    (load a mint).exec l = .error e ↔
      ¬ l.Legible Pool a.address ∧ e = .store .unreadable ∨
        l.holds Pool a.address = false ∧ .unknownPool mint = e ∨
        ∃ p, l.record? Pool a.address = some p ∧ p.mint ≠ mint ∧
          .tokenMintMismatch p.mint mint = e := by
  simp [load, and_or_left, exists_or]

@[simp] theorem Position.exec_load_eq_error {provider : Address} :
    (load a provider).exec l = .error e ↔
      ¬ l.Legible Position a.address ∧ e = .store .unreadable ∨
        l.holds Position a.address = false ∧ .unknownPosition provider = e := by
  simp [load]

@[simp] theorem FeeVault.exec_load_eq_error :
    (load a).exec l = .error e ↔
      ¬ l.Legible FeeVault a.address ∧ e = .store .unreadable ∨
        l.holds FeeVault a.address = false ∧ .notInitialized = e := by
  simp [load]

end errors

end CustodyBridge
