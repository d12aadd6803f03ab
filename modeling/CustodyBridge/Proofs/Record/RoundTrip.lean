import CustodyBridge.Config
import CustodyBridge.FeeVault
import CustodyBridge.NonceCounter
import CustodyBridge.Pool.Basic
import CustodyBridge.Proofs.Json.Forms
import CustodyBridge.Relation

/-!
# Records read back

The text that is stored for a record of any table denotes that record.
-/

namespace CustodyBridge

open JsonForm

/-- A kind of record whose text is plain and reads back. -/
class LawfulRecord (ρ : Type) [Record ρ] : Prop extends LawfulForm ρ where
  plain_toJson : ∀ r : ρ, (toJson r).Plain 3

instance {ρ : Type} [Record ρ] [LawfulRecord ρ] : LawfulText ρ where
  plain_toJson := LawfulRecord.plain_toJson

/-! ## Parts of records are plain -/

@[simp] theorem plain_word8 (n : UInt8) (room : Nat) : (toJson n).Plain room :=
  Json.plain_ofNat n.toNat room

@[simp] theorem plain_word64 (n : UInt64) (room : Nat) : (toJson n).Plain room :=
  Json.plain_ofNat n.toNat room

@[simp] theorem plain_truth (b : Bool) (room : Nat) : (toJson b).Plain room :=
  Json.plain_ofBool b room

@[simp] theorem plain_address (a : Address) (room : Nat) : (toJson a).Plain (room + 1) :=
  Json.plain_bytes a.bytes room

@[simp] theorem plain_chain (c : Chain) (room : Nat) : (toJson c).Plain (room + 1) := by
  unfold instJsonFormChain
  simp

@[simp] theorem plain_account (a : Account) (room : Nat) : (toJson a).Plain (room + 2) := by
  unfold instJsonFormAccount
  simp

/-! ## The nine tables -/

instance : LawfulRecord BridgeConfig where
  ofJson?_toJson c := by
    dsimp +instances only [instRecordBridgeConfig]
    simp
  plain_toJson c := by
    dsimp +instances only [instRecordBridgeConfig]
    simp

instance : LawfulRecord CoreConfig where
  ofJson?_toJson c := by
    dsimp +instances only [instRecordCoreConfig]
    simp
  plain_toJson c := by
    dsimp +instances only [instRecordCoreConfig]
    simp

instance : LawfulRecord BridgeAuthority where
  ofJson?_toJson a := by
    dsimp +instances only [instRecordBridgeAuthority]
    simp
  plain_toJson a := by
    dsimp +instances only [instRecordBridgeAuthority]
    simp

instance : LawfulRecord ChainRelation where
  ofJson?_toJson r := by
    dsimp +instances only [instRecordChainRelation]
    simp
  plain_toJson r := by
    dsimp +instances only [instRecordChainRelation]
    simp

instance : LawfulRecord TokenRelation where
  ofJson?_toJson r := by
    dsimp +instances only [instRecordTokenRelation]
    simp
  plain_toJson r := by
    dsimp +instances only [instRecordTokenRelation]
    simp

instance : LawfulRecord Pool where
  ofJson?_toJson p := by
    dsimp +instances only [instRecordPool]
    simp
  plain_toJson p := by
    dsimp +instances only [instRecordPool]
    simp

instance : LawfulRecord Position where
  ofJson?_toJson p := by
    dsimp +instances only [instRecordPosition]
    simp
  plain_toJson p := by
    dsimp +instances only [instRecordPosition]
    simp

instance : LawfulRecord NonceCounter where
  ofJson?_toJson c := by
    dsimp +instances only [instRecordNonceCounter]
    simp
  plain_toJson c := by
    dsimp +instances only [instRecordNonceCounter]
    simp

instance : LawfulRecord FeeVault where
  ofJson?_toJson v := by
    dsimp +instances only [instRecordFeeVault]
    simp
  plain_toJson v := by
    dsimp +instances only [instRecordFeeVault]
    simp

end CustodyBridge
