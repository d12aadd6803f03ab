import CustodyBridge.Bridge.Operation
import CustodyBridge.Proofs.Amount
import CustodyBridge.Proofs.Ledger.Exec
import CustodyBridge.Proofs.Ledger.Permission
import CustodyBridge.Proofs.Record.RoundTrip
import CustodyBridge.Proofs.SortedMap.Total

/-!
# The ledger as tables of records

Each key of the ledger belongs to one table and one address. So the ledger holds a map of records
for each table, and saving a record changes the map of its own table alone.
-/

namespace CustodyBridge

/-! ## Keys -/

namespace Table

def all : List Table := [
  .bridgeConfigs, .bridgeAuthorities, .coreConfigs, .chainRelations, .tokenRelations, .pools,
  .positions, .nonceCounters, .feeVaults]

theorem find?_lead (t : Table) : all.find? (fun u => u.lead = t.lead) = some t := by
  cases t <;> decide

theorem eq_of_lead_eq {t u : Table} (h : t.lead = u.lead) : t = u := by
  have hfind := find?_lead t
  rw [h, find?_lead u] at hfind
  exact (Option.some.inj hfind).symm

theorem key_inj {t u : Table} {a b : Address} : t.key a = u.key b ↔ t = u ∧ a = b := by
  constructor
  · intro h
    have hlength : t.lead.length = u.lead.length := by
      have := congrArg List.length h
      simp only [key, List.length_append, Bytes32.length_bytes] at this
      omega
    obtain ⟨hlead, hbytes⟩ := List.append_inj h hlength
    exact ⟨eq_of_lead_eq hlead, Bytes32.ext_bytes hbytes⟩
  · rintro ⟨rfl, rfl⟩
    rfl

theorem compare_key (t : Table) (a b : Address) : compare (t.key a) (t.key b) = compare a b := by
  have h : ∀ front : Bytes, compare (front ++ a.bytes) (front ++ b.bytes) = compare a b := by
    intro front
    induction front with
    | nil => rfl
    | cons x rest ih =>
      rw [List.cons_append, List.cons_append, List.compare_cons_cons, ih]
      simp
  exact h t.lead

/-- The address whose key in a table a byte string is. -/
def addressOf? (t : Table) (key : Bytes) : Option Address :=
  (AccessSet.accountOf? key).filter fun a => t.key a = key

@[simp] theorem addressOf?_eq_some {t : Table} {key : Bytes} {a : Address} :
    t.addressOf? key = some a ↔ key = t.key a := by
  rw [addressOf?, Option.filter_eq_some_iff]
  constructor
  · rintro ⟨-, h⟩
    simpa [eq_comm] using h
  · rintro rfl
    simp [AccessSet.accountOf?_key]

end Table

/-! ## Tables of records -/

section tables

@[simp] theorem table_bridgeConfig : Record.table BridgeConfig = .bridgeConfigs := rfl

@[simp] theorem table_bridgeAuthority : Record.table BridgeAuthority = .bridgeAuthorities := rfl

@[simp] theorem table_coreConfig : Record.table CoreConfig = .coreConfigs := rfl

@[simp] theorem table_chainRelation : Record.table ChainRelation = .chainRelations := rfl

@[simp] theorem table_tokenRelation : Record.table TokenRelation = .tokenRelations := rfl

@[simp] theorem table_pool : Record.table Pool = .pools := rfl

@[simp] theorem table_position : Record.table Position = .positions := rfl

@[simp] theorem table_nonceCounter : Record.table NonceCounter = .nonceCounters := rfl

@[simp] theorem table_feeVault : Record.table FeeVault = .feeVaults := rfl

end tables

namespace Ledger

/-! ## Single records -/

/-- Whether a table has an entry at an address. -/
def holds (ρ : Type) [Record ρ] (l : Ledger) (a : Address) : Bool :=
  (l.get? ((Record.table ρ).key a)).isSome

def record? (ρ : Type) [Record ρ] (l : Ledger) (a : Address) : Option ρ :=
  (l.get? ((Record.table ρ).key a)).bind JsonForm.read?

/-- What a table has at an address, if anything, is a record. -/
def Legible (ρ : Type) [Record ρ] (l : Ledger) (a : Address) : Prop :=
  l.record? ρ a = none → l.holds ρ a = false

def put {ρ : Type} [Record ρ] (l : Ledger) (a : Address) (r : ρ) : Ledger :=
  l.insert ((Record.table ρ).key a) (JsonForm.write r)

def erase (ρ : Type) [Record ρ] (l : Ledger) (a : Address) : Ledger :=
  SortedMap.erase l ((Record.table ρ).key a)

section records

variable {ρ σ : Type} [Record ρ] [Record σ] {l : Ledger} {a b : Address}

theorem record?_of_not_holds (h : l.holds ρ a = false) : l.record? ρ a = none := by
  rw [holds, Option.isSome_eq_false_iff, Option.isNone_iff_eq_none] at h
  rw [record?, h, Option.bind_none]

theorem record?_put [LawfulRecord ρ] {r : ρ} :
    (l.put a r).record? ρ b = if a = b then some r else l.record? ρ b := by
  rw [record?, put, SortedMap.get?_insert]
  by_cases h : a = b
  · rw [if_pos h, if_pos (by rw [h]), Option.bind_some, read?_write]
  · have hkey : (Record.table ρ).key a ≠ (Record.table ρ).key b := fun hk =>
      h (Table.key_inj.1 hk).2
    rw [if_neg h, if_neg hkey, record?]

@[simp] theorem record?_put_self [LawfulRecord ρ] {r : ρ} :
    (l.put a r).record? ρ a = some r := by
  rw [record?_put, if_pos rfl]

@[simp] theorem record?_put_of_ne {r : σ} (h : Record.table σ ≠ Record.table ρ) :
    (l.put a r).record? ρ b = l.record? ρ b := by
  rw [record?, put, SortedMap.get?_insert_of_ne _ _ fun hk => h (Table.key_inj.1 hk).1, record?]

@[simp] theorem holds_put_of_ne {r : σ} (h : Record.table σ ≠ Record.table ρ) :
    (l.put a r).holds ρ b = l.holds ρ b := by
  rw [holds, put, SortedMap.get?_insert_of_ne _ _ fun hk => h (Table.key_inj.1 hk).1, holds]

@[simp] theorem legible_put_of_ne {r : σ} (h : Record.table σ ≠ Record.table ρ) :
    (l.put a r).Legible ρ b ↔ l.Legible ρ b := by
  rw [Legible, record?_put_of_ne h, holds_put_of_ne h, Legible]

@[simp] theorem record?_erase_of_ne (h : Record.table σ ≠ Record.table ρ) :
    (l.erase σ a).record? ρ b = l.record? ρ b := by
  rw [record?, erase, SortedMap.get?_erase_of_ne _ fun hk => h (Table.key_inj.1 hk).1, record?]

theorem record?_erase {ρ : Type} [Record ρ] :
    (l.erase ρ a).record? ρ b = if a = b then none else l.record? ρ b := by
  rw [record?, erase, SortedMap.get?_erase]
  by_cases h : a = b
  · rw [if_pos h, if_pos (by rw [h]), Option.bind_none]
  · rw [if_neg h, if_neg fun hk => h (Table.key_inj.1 hk).2, record?]

/-! ## Entries -/

@[simp] theorem get?_put_of_ne {t : Table} {r : σ} (h : Record.table σ ≠ t) :
    SortedMap.get? (l.put a r) (t.key b) = SortedMap.get? l (t.key b) :=
  SortedMap.get?_insert_of_ne _ _ fun hk => h (Table.key_inj.1 hk).1

@[simp] theorem get?_erase_of_ne {t : Table} (h : Record.table σ ≠ t) :
    SortedMap.get? (l.erase σ a) (t.key b) = SortedMap.get? l (t.key b) :=
  SortedMap.get?_erase_of_ne _ fun hk => h (Table.key_inj.1 hk).1

theorem get?_put {r : ρ} : SortedMap.get? (l.put a r) ((Record.table ρ).key b) =
    if a = b then some (JsonForm.write r) else SortedMap.get? l ((Record.table ρ).key b) := by
  rw [put, SortedMap.get?_insert]
  simp only [Table.key_inj, true_and]

theorem holds_put {r : σ} (there : l.holds ρ b = true) : (l.put a r).holds ρ b = true := by
  rw [holds, put, SortedMap.get?_insert]
  split
  · rfl
  · exact there

@[simp] theorem holds_put_self {r : ρ} : (l.put a r).holds ρ a = true := by
  rw [holds, get?_put, if_pos rfl]
  rfl

theorem record?_congr {l' : Ledger} (h : SortedMap.get? l' ((Record.table ρ).key a) =
    SortedMap.get? l ((Record.table ρ).key a)) : l'.record? ρ a = l.record? ρ a := by
  rw [record?, h, record?]

theorem legible_congr {l' : Ledger} (h : SortedMap.get? l' ((Record.table ρ).key a) =
    SortedMap.get? l ((Record.table ρ).key a)) : l'.Legible ρ a ↔ l.Legible ρ a := by
  rw [Legible, record?_congr h, holds, h, Legible, holds]

/-! ## All records of a table -/

/-- The record that an entry is, if it is one of the table. -/
def entryOf? (ρ : Type) [Record ρ] (entry : Bytes × String) : Option (Address × ρ) :=
  ((Record.table ρ).addressOf? entry.1).bind fun a => (JsonForm.read? entry.2).map (a, ·)

theorem entryOf?_eq_some {entry : Bytes × String} {r : ρ} :
    entryOf? ρ entry = some (a, r) ↔
      entry.1 = (Record.table ρ).key a ∧ JsonForm.read? entry.2 = some r := by
  rw [entryOf?, Option.bind_eq_some_iff]
  simp

def records (ρ : Type) [Record ρ] (l : Ledger) : SortedMap Address ρ :=
  ⟨l.entries.filterMap (entryOf? ρ), by
    refine List.pairwise_filterMap.2 (l.ascend.imp ?_)
    rintro ⟨key, text⟩ ⟨key', text'⟩ hlt ⟨a, r⟩ hentry ⟨a', r'⟩ hentry'
    obtain ⟨rfl, -⟩ := entryOf?_eq_some.1 hentry
    obtain ⟨rfl, -⟩ := entryOf?_eq_some.1 hentry'
    rwa [Table.compare_key] at hlt⟩

@[simp] theorem get?_records : (l.records ρ).get? a = l.record? ρ a := by
  apply Option.ext
  intro r
  rw [← SortedMap.mem_entries_iff, records, List.mem_filterMap, record?,
    Option.bind_eq_some_iff]
  constructor
  · rintro ⟨⟨key, text⟩, hmem, hentry⟩
    obtain ⟨rfl, hread⟩ := entryOf?_eq_some.1 hentry
    exact ⟨text, SortedMap.mem_entries_iff.1 hmem, hread⟩
  · rintro ⟨text, hget, hread⟩
    exact ⟨_, SortedMap.mem_entries_iff.2 hget, entryOf?_eq_some.2 ⟨rfl, hread⟩⟩

@[simp] theorem records_empty : records ρ SortedMap.empty = SortedMap.empty := rfl

@[simp] theorem records_put [LawfulRecord ρ] {r : ρ} :
    (l.put a r).records ρ = (l.records ρ).insert a r := by
  apply SortedMap.ext_get?
  intro b
  rw [get?_records, record?_put, SortedMap.get?_insert, get?_records]

@[simp] theorem records_put_of_ne {r : σ} (h : Record.table σ ≠ Record.table ρ) :
    (l.put a r).records ρ = l.records ρ := by
  apply SortedMap.ext_get?
  intro b
  rw [get?_records, record?_put_of_ne h, get?_records]

@[simp] theorem records_erase_of_ne (h : Record.table σ ≠ Record.table ρ) :
    (l.erase σ a).records ρ = l.records ρ := by
  apply SortedMap.ext_get?
  intro b
  rw [get?_records, record?_erase_of_ne h, get?_records]

end records

end Ledger

/-! ## Programs over records -/

namespace Record

variable {ρ : Type} [Record ρ] {l l' : Ledger} {a : Account}

theorem exec_load?_eq_ok {r? : Option ρ} :
    (load? ρ a).exec l = .ok (r?, l') ↔
      l.Legible ρ a.address ∧ l.record? ρ a.address = r? ∧ l = l' := by
  unfold load? Ledger.Legible Ledger.record? Ledger.holds key
  simp only [Program.exec_bind, Program.exec_get, Outcome.bind]
  cases hget : l.get? ((table ρ).key a.address) with
  | none => simp
  | some text =>
    dsimp only [Option.bind_some]
    cases hread : (JsonForm.read? text : Option ρ) <;> simp

@[simp] theorem exec_load?_eq_ok_some {r : ρ} :
    (load? ρ a).exec l = .ok (some r, l') ↔ l.record? ρ a.address = some r ∧ l = l' := by
  rw [exec_load?_eq_ok]
  constructor
  · rintro ⟨-, hr, rfl⟩
    exact ⟨hr, rfl⟩
  · rintro ⟨hr, rfl⟩
    exact ⟨by simp [Ledger.Legible, hr], hr, rfl⟩

@[simp] theorem exec_load?_eq_ok_none :
    (load? ρ a).exec l = .ok (none, l') ↔ l.holds ρ a.address = false ∧ l = l' := by
  rw [exec_load?_eq_ok]
  constructor
  · rintro ⟨h, hr, rfl⟩
    exact ⟨h hr, rfl⟩
  · rintro ⟨h, rfl⟩
    exact ⟨fun _ => h, Ledger.record?_of_not_holds h, rfl⟩

@[simp] theorem exec_load?_eq_error {e : BridgeError} :
    (load? ρ a).exec l = .error e ↔ ¬ l.Legible ρ a.address ∧ e = .store .unreadable := by
  unfold load? Ledger.Legible Ledger.record? Ledger.holds key
  simp only [Program.exec_bind, Program.exec_get, Outcome.bind]
  cases hget : l.get? ((table ρ).key a.address) with
  | none => simp
  | some text =>
    dsimp only [Option.bind_some]
    cases hread : (JsonForm.read? text : Option ρ) <;> simp [eq_comm]

@[simp] theorem exec_exists? : (exists? ρ a).exec l = .ok (l.holds ρ a.address, l) := rfl

@[simp] theorem exec_save {r : ρ} : (save a r).exec l = .ok ((), l.put a.address r) := rfl

@[simp] theorem exec_remove : (remove ρ a).exec l = .ok ((), l.erase ρ a.address) := rfl

end Record

end CustodyBridge
