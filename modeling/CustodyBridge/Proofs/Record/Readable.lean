import CustodyBridge.Proofs.Bridge.Purposes
import CustodyBridge.Proofs.Record.Ledger

/-!
# Ledgers of records

In a ledger that only records were saved to, each entry can be read as a record of its table, and
what is kept of every record that is saved holds of every record that is found.
-/

namespace CustodyBridge

/-- Whether a text is read as a record of a table. -/
def Table.Reads (text : String) : Table → Prop
  | bridgeConfigs => ∃ r : BridgeConfig, JsonForm.read? text = some r
  | bridgeAuthorities => ∃ r : BridgeAuthority, JsonForm.read? text = some r
  | coreConfigs => ∃ r : CoreConfig, JsonForm.read? text = some r
  | chainRelations => ∃ r : ChainRelation, JsonForm.read? text = some r
  | tokenRelations => ∃ r : TokenRelation, JsonForm.read? text = some r
  | pools => ∃ r : Pool, JsonForm.read? text = some r
  | positions => ∃ r : Position, JsonForm.read? text = some r
  | nonceCounters => ∃ r : NonceCounter, JsonForm.read? text = some r
  | feeVaults => ∃ r : FeeVault, JsonForm.read? text = some r

/-- A kind of record that the entries of its table are read as. -/
class FiledRecord (ρ : Type) [Record ρ] : Prop extends LawfulRecord ρ where
  reads_iff (text : String) : (Record.table ρ).Reads text ↔ ∃ r : ρ, JsonForm.read? text = some r

section tables

instance : FiledRecord BridgeConfig := ⟨fun _ => Iff.rfl⟩

instance : FiledRecord BridgeAuthority := ⟨fun _ => Iff.rfl⟩

instance : FiledRecord CoreConfig := ⟨fun _ => Iff.rfl⟩

instance : FiledRecord ChainRelation := ⟨fun _ => Iff.rfl⟩

instance : FiledRecord TokenRelation := ⟨fun _ => Iff.rfl⟩

instance : FiledRecord Pool := ⟨fun _ => Iff.rfl⟩

instance : FiledRecord Position := ⟨fun _ => Iff.rfl⟩

instance : FiledRecord NonceCounter := ⟨fun _ => Iff.rfl⟩

instance : FiledRecord FeeVault := ⟨fun _ => Iff.rfl⟩

end tables

namespace Ledger

/-! ## Entries that can be read -/

/-- Every entry is at a key of some table, and is a record of it. -/
def Readable (l : Ledger) : Prop :=
  ∀ key text, SortedMap.get? l key = some text → ∃ t a, key = Table.key t a ∧ t.Reads text

section readable

variable {ρ : Type} [Record ρ] {l : Ledger} {a : Address}

theorem readable_empty : Readable SortedMap.empty := nofun

theorem Readable.put [FiledRecord ρ] {r : ρ} (h : l.Readable) : Readable (l.put a r) := by
  intro key text found
  rw [Ledger.put, SortedMap.get?_insert] at found
  split at found
  · rename_i hkey
    cases found
    exact ⟨_, a, hkey.symm, (FiledRecord.reads_iff _).2 ⟨r, read?_write r⟩⟩
  · exact h key text found

theorem Readable.erase (h : l.Readable) : Readable (l.erase ρ a) := by
  intro key text found
  rw [Ledger.erase, SortedMap.get?_erase] at found
  split at found
  · cases found
  · exact h key text found

variable [FiledRecord ρ]

theorem Readable.exists_record (h : l.Readable) (there : l.holds ρ a = true) :
    ∃ r, l.record? ρ a = some r := by
  obtain ⟨text, found⟩ := Option.isSome_iff_exists.1 there
  obtain ⟨t, b, hkey, reads⟩ := h _ _ found
  obtain ⟨rfl, -⟩ := Table.key_inj.1 hkey
  obtain ⟨r, hr⟩ := (FiledRecord.reads_iff text).1 reads
  exact ⟨r, by rw [record?, found, Option.bind_some, hr]⟩

theorem Readable.legible (h : l.Readable) : l.Legible ρ a := by
  intro missing
  by_contra there
  obtain ⟨r, hr⟩ := h.exists_record (Bool.not_eq_false _ ▸ there)
  rw [missing] at hr
  cases hr

end readable

/-! ## Records at their accounts -/

/-- Every record of a kind is at the account of the purpose that its own fields name. -/
def AtHome {ρ : Type} [Record ρ] (env : Environment) (purpose : ρ → Purpose) (l : Ledger) : Prop :=
  ∀ a r, l.record? ρ a = some r → env.address? (purpose r) = some a

section home

variable {env : Environment} {ρ : Type} [Record ρ] {purpose : ρ → Purpose} {l l' : Ledger}
  {a : Address}

theorem AtHome.congr (h : l.AtHome env purpose) (same : ∀ a,
    SortedMap.get? l' ((Record.table ρ).key a) = SortedMap.get? l ((Record.table ρ).key a)) :
    l'.AtHome env purpose :=
  fun a r found => h a r (record?_congr (same a) ▸ found)

theorem AtHome.put_of_ne {σ : Type} [Record σ] {b : Address} {s : σ} (h : l.AtHome env purpose)
    (hne : Record.table σ ≠ Record.table ρ) : AtHome env purpose (l.put b s) :=
  h.congr fun _ => get?_put_of_ne hne

theorem AtHome.put [LawfulRecord ρ] {r : ρ} (h : l.AtHome env purpose)
    (account : env.address? (purpose r) = some a) : AtHome env purpose (l.put a r) := by
  intro b s found
  rw [record?_put] at found
  split at found
  · rename_i hab
    cases found
    exact hab ▸ account
  · exact h b s found

theorem AtHome.address?_getD (h : l.AtHome env purpose) (fresh : ρ)
    (account : env.address? (purpose fresh) = some a) :
    env.address? (purpose ((l.record? ρ a).getD fresh)) = some a := by
  cases found : l.record? ρ a with
  | none => exact account
  | some r => exact h a r found

end home

end Ledger

end CustodyBridge
