import CustodyBridge.Proofs.Ledger.Transaction
import CustodyBridge.Record.Program

/-!
# What an access set permits

The accounts that a set declares, those that it lets be written, and the programs that keep to them.
-/

namespace CustodyBridge

namespace AccessSet

/-! ## Declared accounts -/

def Declares (s : AccessSet) (a : Address) : Prop := (s.access? a).isSome = true

def Writes (s : AccessSet) (a : Address) : Prop := s.access? a = some .write

@[simp] theorem declares_empty (a : Address) : ¬ empty.Declares a := by
  simp [Declares, access?, empty]

@[simp] theorem writes_empty (a : Address) : ¬ empty.Writes a := by simp [Writes, access?, empty]

section declarations

variable {s : AccessSet} {b : Account} {a : Address}

theorem access?_write :
    (s.write b).access? a = if b.address = a then some .write else s.access? a :=
  SortedMap.get?_insert _ _ _ _

theorem access?_read : (s.read b).access? a =
    if b.address = a then some ((s.access? a).getD .read) else s.access? a := by
  unfold read declare access?
  cases h : s.accounts.get? b.address with
  | some access =>
    dsimp only
    split
    · rename_i hb
      rw [← hb, h, Option.getD_some]
    · rfl
  | none =>
    dsimp only
    rw [SortedMap.get?_insert]
    split
    · rename_i hb
      rw [← hb, h, Option.getD_none]
    · rfl

@[simp] theorem declares_write : (s.write b).Declares a ↔ b.address = a ∨ s.Declares a := by
  rw [Declares, access?_write, Declares]
  by_cases h : b.address = a <;> simp [h]

@[simp] theorem declares_read : (s.read b).Declares a ↔ b.address = a ∨ s.Declares a := by
  rw [Declares, access?_read, Declares]
  by_cases h : b.address = a <;> simp [h]

@[simp] theorem writes_write : (s.write b).Writes a ↔ b.address = a ∨ s.Writes a := by
  rw [Writes, access?_write, Writes]
  by_cases h : b.address = a <;> simp [h]

@[simp] theorem writes_read : (s.read b).Writes a ↔ s.Writes a := by
  rw [Writes, access?_read, Writes]
  by_cases h : b.address = a
  · cases s.access? a <;> simp [h]
  · simp [h]

end declarations

/-! ## Keys -/

theorem accountOf?_key (t : Table) (a : Address) : accountOf? (t.key a) = some a := by
  have hlength : (t.key a).length = t.lead.length + 32 := by
    rw [Table.key, List.length_append, a.length_bytes]
  unfold accountOf?
  rw [if_neg (by omega), hlength, Nat.add_sub_cancel, Table.key, List.drop_left,
    Bytes32.ofBytes?_bytes]

theorem permitsWrite_key {s : AccessSet} {t : Table} {a : Address} :
    s.permitsWrite (t.key a) = true ↔ s.Writes a := by
  simp [permitsWrite, accountOf?_key, Writes]

end AccessSet

/-! ## Programs that keep to a set -/

/-- An access that keeps to a set asks for a record of a declared account, or changes that of one
declared for writing. -/
def Op.Within {ν : Type} (access : AccessSet) : Op ν → Prop
  | get key => ∃ (t : Table) (a : Address), access.Declares a ∧ t.key a = key
  | range _ _ _ => False
  | set key _ | remove key => ∃ (t : Table) (a : Address), access.Writes a ∧ t.key a = key

namespace Program

variable {ν ε α β : Type} {access : AccessSet}

/-- A program that keeps to a set, whatever it is answered. It leaves it to the store to refuse an
access. -/
def Within (access : AccessSet) : Program ν ε α → Prop
  | done _ | fail _ => True
  | halt p => p = .subtraction
  | note _ next => next.Within access
  | .access op next => op.Within access ∧ ∀ answer, (next answer).Within access

theorem Within.permitted {p : Program ν ε α} (h : p.Within access) : p.Permitted access := by
  induction p with
  | done | fail | halt => trivial
  | note event next ih => exact ih h
  | access op next ih =>
    refine ⟨fun key hkey => ?_, fun answer => ih answer (h.2 answer)⟩
    cases op with
    | get | range => cases hkey
    | set | remove =>
      obtain ⟨t, a, ha, rfl⟩ := h.1
      cases hkey
      exact AccessSet.permitsWrite_key.2 ha

/-- What a program may come to, whatever it is answered. -/
def Returns : Program ν ε α → α → Prop
  | done a, b => a = b
  | fail _, _ | halt _, _ => False
  | note _ next, b => next.Returns b
  | .access _ next, b => ∃ answer, (next answer).Returns b

@[simp] theorem within_bind {p : Program ν ε α} {f : α → Program ν ε β} :
    (p >>= f).Within access ↔ p.Within access ∧ ∀ a, p.Returns a → (f a).Within access := by
  change (p.bind f).Within access ↔ _
  induction p with
  | done a => simp [bind, Within, Returns]
  | fail | halt => simp [bind, Within, Returns]
  | note event next ih => simpa [bind, Within, Returns] using ih
  | access op next ih =>
    simp only [bind, Within, Returns, ih, forall_and, and_assoc]
    refine and_congr_right fun _ => and_congr_right fun _ => ?_
    constructor
    · rintro h a ⟨answer, ha⟩
      exact h answer a ha
    · intro h answer a ha
      exact h a ⟨answer, ha⟩

@[simp] theorem within_pure (a : α) : (pure a : Program ν ε α).Within access := trivial

@[simp] theorem within_fail (e : ε) : (fail e : Program ν ε α).Within access := trivial

@[simp] theorem within_report (event : Event) :
    (report event : Program ν ε Unit).Within access := trivial

@[simp] theorem within_require (a? : Option α) (e : ε) :
    (require a? e : Program ν ε α).Within access := by
  cases a? <;> trivial

@[simp] theorem within_ofExcept (x : Except ε α) :
    (ofExcept x : Program ν ε α).Within access := by
  cases x <;> trivial

@[simp] theorem within_ofOutcome {o : Outcome ε α} :
    (ofOutcome o : Program ν ε α).Within access ↔ ∀ p, o = .panic p → p = .subtraction := by
  cases o <;> simp [ofOutcome, Within]

@[simp] theorem within_map {p : Program ν ε α} {f : α → β} :
    (f <$> p).Within access ↔ p.Within access := by
  rw [← bind_pure_comp, within_bind]
  simp

@[simp] theorem within_ite {c : Prop} [Decidable c] {p q : Program ν ε α} :
    (if c then p else q).Within access ↔ (c → p.Within access) ∧ (¬ c → q.Within access) := by
  by_cases h : c <;> simp [h]

end Program

/-! ## Programs over records -/

namespace Record

variable {ρ : Type} [Record ρ] {access : AccessSet} {a : Account}

theorem within_get (h : access.Declares a.address) :
    (Program.get (key ρ a) : Handler _).Within access :=
  ⟨⟨table ρ, a.address, h, rfl⟩, fun _ => trivial⟩

@[simp] theorem within_load? (h : access.Declares a.address) : (load? ρ a).Within access := by
  refine Program.within_bind.2 ⟨within_get h, fun value? _ => ?_⟩
  cases value? with
  | none => trivial
  | some value =>
    dsimp only
    cases (JsonForm.read? value : Option ρ) <;> trivial

@[simp] theorem within_exists? (h : access.Declares a.address) : (exists? ρ a).Within access :=
  Program.within_bind.2 ⟨within_get h, fun _ _ => trivial⟩

@[simp] theorem within_save {r : ρ} (h : access.Writes a.address) : (save a r).Within access :=
  ⟨⟨table ρ, a.address, h, rfl⟩, fun _ => trivial⟩

@[simp] theorem within_remove (h : access.Writes a.address) : (remove ρ a).Within access :=
  ⟨⟨table ρ, a.address, h, rfl⟩, fun _ => trivial⟩

end Record

end CustodyBridge
