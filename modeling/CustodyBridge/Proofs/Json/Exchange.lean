import CustodyBridge.Command
import CustodyBridge.Funds
import CustodyBridge.Proofs.Record.Ledger
import CustodyBridge.Query

/-!
# Everything that is exchanged or stored reads back

Messages, calls, queries and proposals have plain forms that read back, as records do. So no text of
any of them loses anything, and a record is loaded from a ledger as it was saved.
-/

namespace CustodyBridge

open JsonForm

/-! ## Parts -/

@[simp] theorem plain_word32 (n : UInt32) (room : Nat) : (toJson n).Plain room :=
  Json.plain_ofNat n.toNat room

@[simp] theorem plain_null (room : Nat) : Json.null.Plain room := by
  simp only [Json.null, Json.Plain, Json.PlainWord]
  exact ⟨by decide, List.all_eq_true.1 (by decide)⟩

@[simp] theorem plain_option {α : Type} [JsonForm α] {a? : Option α} {room : Nat}
    (h : ∀ a : α, (toJson a).Plain room) : (toJson a?).Plain room := by
  cases a? with
  | none => exact plain_null room
  | some a => exact h a

instance : LawfulText Address where
  plain_toJson a := plain_address a 2

instance : LawfulText Chain where
  plain_toJson c := plain_chain c 2

instance : LawfulText Account where
  plain_toJson a := plain_account a 1

/-! ## Messages -/

instance : LawfulText MessageHeader where
  ofJson?_toJson h := by
    unfold instJsonFormMessageHeader
    dsimp only
    simp
  plain_toJson h := by
    unfold instJsonFormMessageHeader
    simp

instance : LawfulText MessageBody where
  ofJson?_toJson b := by
    unfold instJsonFormMessageBody
    dsimp only
    simp
  plain_toJson b := by
    unfold instJsonFormMessageBody
    simp

instance : LawfulText Proposal where
  ofJson?_toJson p := by
    unfold instJsonFormProposal
    dsimp only
    simp
  plain_toJson p := by
    unfold instJsonFormProposal
    simp

/-! ## Calls -/

instance : LawfulText Funds where
  ofJson?_toJson f := by
    unfold instJsonFormFunds
    dsimp only
    simp
  plain_toJson f := by
    unfold instJsonFormFunds
    simp

instance : LawfulText Instantiation where
  ofJson?_toJson i := by
    unfold instJsonFormInstantiation
    dsimp only
    simp
  plain_toJson i := by
    unfold instJsonFormInstantiation
    simp

theorem Command.ofArguments?_toJson (c : Command) :
    (c.toJson.variant?.bind fun (name, arguments) => ofArguments? name arguments) = some c := by
  cases c <;>
    dsimp only [toJson, Json.ofVariant, Json.variant?, Option.bind_some, ofArguments?] <;>
    simp

theorem Command.plain_toJson (c : Command) : c.toJson.Plain 3 := by
  cases c <;> simp [toJson, Json.ofVariant]

instance : LawfulText Command where
  ofJson?_toJson := Command.ofArguments?_toJson
  plain_toJson := Command.plain_toJson

/-! ## Queries -/

theorem Query.ofArguments?_toJson (q : Query) :
    (q.toJson.variant?.bind fun (name, arguments) => ofArguments? name arguments) = some q := by
  cases q <;>
    dsimp only [toJson, Json.ofVariant, Json.variant?, Option.bind_some, ofArguments?] <;>
    simp

theorem Query.plain_toJson (q : Query) : q.toJson.Plain 3 := by
  cases q <;> simp [toJson, Json.ofVariant]

instance : LawfulText Query where
  ofJson?_toJson := Query.ofArguments?_toJson
  plain_toJson := Query.plain_toJson

/-! ## Nothing is lost -/

/-- Every value is what its text denotes. -/
def JsonForm.Lossless (α : Type) [JsonForm α] : Prop := ∀ a : α, read? (write a) = some a

theorem JsonForm.lossless_of_lawful (α : Type) [JsonForm α] [LawfulText α] : Lossless α :=
  read?_write

/-- Every record is what its text denotes, and is loaded from any ledger as it was saved there. -/
def Record.Lossless (ρ : Type) [Record ρ] : Prop :=
  JsonForm.Lossless ρ ∧ ∀ (l : Ledger) (a : Account) (r : ρ),
    (do save a r; load? ρ a : Handler (Option ρ)).exec l = .ok (some r, l.put a.address r)

theorem Record.lossless_of_lawful (ρ : Type) [Record ρ] [LawfulRecord ρ] : Record.Lossless ρ := by
  refine ⟨JsonForm.lossless_of_lawful ρ, fun l a r => ?_⟩
  rw [Program.exec_bind_of_ok exec_save, exec_load?_eq_ok_some]
  exact ⟨Ledger.record?_put_self, rfl⟩

/-- No text of a value that is exchanged or stored loses anything. -/
theorem JsonForm.lossless :
    Lossless Address ∧ Lossless Chain ∧ Lossless MessageHeader ∧ Lossless MessageBody ∧
    Lossless Account ∧ Lossless Funds ∧ Lossless Instantiation ∧ Lossless Command ∧
    Lossless Query ∧ Lossless Proposal ∧
    Record.Lossless BridgeConfig ∧ Record.Lossless CoreConfig ∧
    Record.Lossless BridgeAuthority ∧ Record.Lossless ChainRelation ∧
    Record.Lossless TokenRelation ∧ Record.Lossless Pool ∧ Record.Lossless Position ∧
    Record.Lossless NonceCounter ∧ Record.Lossless FeeVault := by
  refine ⟨?_, ?_, ?_, ?_, ?_, ?_, ?_, ?_, ?_, ?_, ?_, ?_, ?_, ?_, ?_, ?_, ?_, ?_, ?_⟩
  all_goals first
    | exact JsonForm.lossless_of_lawful _
    | exact Record.lossless_of_lawful _

end CustodyBridge
