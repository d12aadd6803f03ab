import CustodyBridge.Proofs.Ledger.Transaction

/-!
# Programs run on a store

What each part of a program comes to on a store, and what it takes for a sequence to succeed.
-/

namespace CustodyBridge

/-! ## Results with errors -/

theorem except_bind_eq_ok {ε α β : Type} {x : Except ε α} {f : α → Except ε β} {b : β} :
    x >>= f = .ok b ↔ ∃ a, x = .ok a ∧ f a = .ok b := by
  cases x <;> simp [bind, Except.bind]

theorem except_map_eq_ok {ε α β : Type} {x : Except ε α} {f : α → β} {b : β} :
    f <$> x = .ok b ↔ ∃ a, x = .ok a ∧ f a = b := by
  cases x <;> simp

theorem mapError_eq_ok {ε ε' α : Type} {x : Except ε α} {f : ε → ε'} {a : α} :
    x.mapError f = .ok a ↔ x = .ok a := by
  cases x <;> simp [Except.mapError]

theorem mapError_eq_error {ε ε' α : Type} {x : Except ε α} {f : ε → ε'} {e' : ε'} :
    x.mapError f = .error e' ↔ ∃ e, x = .error e ∧ f e = e' := by
  cases x <;> simp [Except.mapError]

theorem except_bind_eq_error {ε α β : Type} {x : Except ε α} {f : α → Except ε β} {e : ε} :
    x >>= f = .error e ↔ x = .error e ∨ ∃ a, x = .ok a ∧ f a = .error e := by
  cases x <;> simp [bind, Except.bind]

/-! ## Outcomes -/

namespace Outcome

variable {ε α β : Type}

@[simp] theorem pure_eq (a : α) : (pure a : Outcome ε α) = .ok a := rfl

@[simp] theorem bind_eq (o : Outcome ε α) (f : α → Outcome ε β) : o >>= f = o.bind f := rfl

@[simp] theorem ok_bind (a : α) (f : α → Outcome ε β) : (ok a).bind f = f a := rfl

@[simp] theorem ok_map (a : α) (f : α → β) : (ok a : Outcome ε α).map f = .ok (f a) := rfl

@[simp] theorem bind_eq_ok {o : Outcome ε α} {f : α → Outcome ε β} {b : β} :
    o.bind f = .ok b ↔ ∃ a, o = .ok a ∧ f a = .ok b := by
  cases o <;> simp [bind]

@[simp] theorem map_eq_ok {o : Outcome ε α} {f : α → β} {b : β} :
    o.map f = .ok b ↔ ∃ a, o = .ok a ∧ f a = b := by
  cases o <;> simp [map]

@[simp] theorem require_eq_ok {a? : Option α} {e : ε} {a : α} :
    require a? e = .ok a ↔ a? = some a := by
  cases a? <;> simp [require]

@[simp] theorem ofExcept_eq_ok {x : Except ε α} {a : α} : ofExcept x = .ok a ↔ x = .ok a := by
  cases x <;> simp [ofExcept]

@[simp] theorem ite_error_eq_ok {c : Prop} [Decidable c] {e : ε} {o : Outcome ε α} {a : α} :
    (if c then .error e else o) = .ok a ↔ ¬ c ∧ o = .ok a := by
  by_cases h : c <;> simp [h]

@[simp] theorem ite_else_error_eq_ok {c : Prop} [Decidable c] {e : ε} {o : Outcome ε α} {a : α} :
    (if c then o else .error e) = .ok a ↔ c ∧ o = .ok a := by
  by_cases h : c <;> simp [h]

/-! ### Errors -/

@[simp] theorem bind_eq_error {o : Outcome ε α} {f : α → Outcome ε β} {e : ε} :
    o.bind f = .error e ↔ o = .error e ∨ ∃ a, o = .ok a ∧ f a = .error e := by
  cases o <;> simp [bind]

@[simp] theorem map_eq_error {o : Outcome ε α} {f : α → β} {e : ε} :
    o.map f = .error e ↔ o = .error e := by
  cases o <;> simp [map]

@[simp] theorem require_eq_error {a? : Option α} {e e' : ε} :
    require a? e = .error e' ↔ a? = none ∧ e = e' := by
  cases a? <;> simp [require]

@[simp] theorem ofExcept_eq_error {x : Except ε α} {e : ε} :
    ofExcept x = .error e ↔ x = .error e := by
  cases x <;> simp [ofExcept]

@[simp] theorem ite_error_eq_error {c : Prop} [Decidable c] {e e' : ε} {o : Outcome ε α} :
    (if c then .error e else o) = .error e' ↔ c ∧ e = e' ∨ ¬ c ∧ o = .error e' := by
  by_cases h : c <;> simp [h]

@[simp] theorem ite_else_error_eq_error {c : Prop} [Decidable c] {e e' : ε} {o : Outcome ε α} :
    (if c then o else .error e) = .error e' ↔ c ∧ o = .error e' ∨ ¬ c ∧ e = e' := by
  by_cases h : c <;> simp [h]

/-! ### Panics -/

@[simp] theorem bind_eq_panic {o : Outcome ε α} {f : α → Outcome ε β} {p : Panic} :
    o.bind f = .panic p ↔ o = .panic p ∨ ∃ a, o = .ok a ∧ f a = .panic p := by
  cases o <;> simp [bind]

@[simp] theorem map_eq_panic {o : Outcome ε α} {f : α → β} {p : Panic} :
    o.map f = .panic p ↔ o = .panic p := by
  cases o <;> simp [map]

@[simp] theorem require_ne_panic (a? : Option α) (e : ε) (p : Panic) :
    require a? e ≠ .panic p := by
  cases a? <;> exact nofun

@[simp] theorem ofExcept_ne_panic (x : Except ε α) (p : Panic) : ofExcept x ≠ .panic p := by
  cases x <;> exact nofun

@[simp] theorem ite_error_eq_panic {c : Prop} [Decidable c] {e : ε} {o : Outcome ε α}
    {p : Panic} : (if c then .error e else o) = .panic p ↔ ¬ c ∧ o = .panic p := by
  by_cases h : c <;> simp [h]

@[simp] theorem ite_else_error_eq_panic {c : Prop} [Decidable c] {e : ε} {o : Outcome ε α}
    {p : Panic} : (if c then o else .error e) = .panic p ↔ c ∧ o = .panic p := by
  by_cases h : c <;> simp [h]

end Outcome

namespace Program

variable {ν ε α β : Type}

/-! ## Steps -/

@[simp] theorem exec_pure (a : α) (s : Store ν) :
    (pure a : Program ν ε α).exec s = .ok (a, s) := rfl

@[simp] theorem exec_fail (e : ε) (s : Store ν) : (fail e : Program ν ε α).exec s = .error e := rfl

@[simp] theorem exec_get (key : Bytes) (s : Store ν) :
    (get key : Program ν ε _).exec s = .ok (s.get? key, s) := rfl

@[simp] theorem exec_set (key : Bytes) (value : ν) (s : Store ν) :
    (set key value : Program ν ε _).exec s = .ok ((), s.insert key value) := rfl

@[simp] theorem exec_remove (key : Bytes) (s : Store ν) :
    (remove key : Program ν ε _).exec s = .ok ((), s.erase key) := rfl

@[simp] theorem exec_range (start stop : Option Bytes) (order : Order) (s : Store ν) :
    (range start stop order : Program ν ε _).exec s =
      .ok (Store.inOrder order (SortedMap.range s start stop), s) := rfl

@[simp] theorem exec_report (event : Event) (s : Store ν) :
    (report event : Program ν ε _).exec s = .ok ((), s) := rfl

@[simp] theorem exec_require (a? : Option α) (e : ε) (s : Store ν) :
    (require a? e : Program ν ε α).exec s = (Outcome.require a? e).map (·, s) := by
  cases a? <;> rfl

@[simp] theorem exec_ofExcept (x : Except ε α) (s : Store ν) :
    (ofExcept x : Program ν ε α).exec s = (Outcome.ofExcept x).map (·, s) := by
  cases x <;> rfl

@[simp] theorem exec_ofOutcome (o : Outcome ε α) (s : Store ν) :
    (ofOutcome o : Program ν ε α).exec s = o.map (·, s) := by
  cases o <;> rfl

/-! ## Sequences and branches -/

@[simp] theorem exec_bind (p : Program ν ε α) (f : α → Program ν ε β) (s : Store ν) :
    (p >>= f).exec s = (p.exec s).bind fun r => (f r.1).exec r.2 := by
  change (p.bind f).exec s = _
  unfold exec runOn
  rw [run_bind]
  cases h : (p.run (fun op t => .ok (Store.perform op t)) s).outcome <;>
    simp only [h, Outcome.map, Outcome.bind]

theorem exec_bind_of_ok {p : Program ν ε α} {a : α} {s t : Store ν} (h : p.exec s = .ok (a, t))
    (f : α → Program ν ε β) : (p >>= f).exec s = (f a).exec t := by
  rw [exec_bind, h, Outcome.ok_bind]

@[simp] theorem exec_map (p : Program ν ε α) (f : α → β) (s : Store ν) :
    (f <$> p).exec s = (p.exec s).map fun r => (f r.1, r.2) := by
  rw [← bind_pure_comp, exec_bind]
  cases p.exec s <;> rfl

@[simp] theorem exec_ite (c : Prop) [Decidable c] (p q : Program ν ε α) (s : Store ν) :
    (if c then p else q).exec s = if c then p.exec s else q.exec s := by
  split <;> rfl

/-! ## Answers to queries -/

theorem query_eq (p : Program ν ε α) (s : Store ν) : p.query s = (p.exec s).map Prod.fst := by
  unfold query exec
  cases h : (p.runOn s).outcome <;> simp only [h, Outcome.map]

end Program

end CustodyBridge
