import CustodyBridge.Bytes.Lemmas
import CustodyBridge.Proposal

/-!
# Bytes of messages

The fields of a message lie at fixed places, each wide enough for its values. So different messages
have different bytes, and proposals that differ in what the message says are told apart by them.
What is read from bytes is what was written there.
-/

namespace CustodyBridge

/-! ## Fields -/

theorem Bytes.ofNat_inj {size m n : Nat} (hm : m < 256 ^ size) (hn : n < 256 ^ size) :
    ofNat size m = ofNat size n ↔ m = n := by
  refine ⟨fun h => ?_, congrArg _⟩
  have hvalue := congrArg toNat h
  rwa [toNat_ofNat, toNat_ofNat, Nat.mod_eq_of_lt hm, Nat.mod_eq_of_lt hn] at hvalue

theorem Bytes.ofNat_uint64_inj {a b : UInt64} : ofNat 8 a.toNat = ofNat 8 b.toNat ↔ a = b := by
  rw [ofNat_inj a.toNat_lt b.toNat_lt, UInt64.toNat_inj]

theorem Bytes.ofNat_word128_inj {a b : Word128} : ofNat 16 a.toNat = ofNat 16 b.toNat ↔ a = b := by
  rw [ofNat_inj a.isLt b.isLt, BitVec.toNat_inj]

theorem Chain.key_inj {c d : Chain} : c.key = d.key ↔ c = d := by
  refine ⟨fun h => ?_, congrArg key⟩
  obtain ⟨hfamily, hnumber⟩ := List.cons.inj h
  cases c
  cases d
  rw [mk.injEq]
  exact ⟨hfamily, Bytes.ofNat_uint64_inj.1 hnumber⟩

theorem Bytes32.bytes_inj {a b : Bytes32} : a.bytes = b.bytes ↔ a = b :=
  ⟨ext_bytes, congrArg bytes⟩

/-! ## Reading fields -/

theorem Bytes.ofNat_uint64_toNat {bytes : Bytes} (h : bytes.length = 8) :
    ofNat 8 (UInt64.ofNat (toNat bytes)).toNat = bytes := by
  have hlt := toNat_lt bytes
  rw [h] at hlt
  have hword : (UInt64.ofNat (toNat bytes)).toNat = toNat bytes := Nat.mod_eq_of_lt hlt
  have hbytes := ofNat_toNat bytes
  rwa [hword, ← h]

theorem Bytes.ofNat_word128_toNat {bytes : Bytes} (h : bytes.length = 16) :
    ofNat 16 (BitVec.ofNat 128 (toNat bytes)).toNat = bytes := by
  have hlt := toNat_lt bytes
  rw [h] at hlt
  have hword : (BitVec.ofNat 128 (toNat bytes)).toNat = toNat bytes := Nat.mod_eq_of_lt hlt
  have hbytes := ofNat_toNat bytes
  rwa [hword, ← h]

namespace Chain

theorem ofKey?_eq_some {bytes : Bytes} {c : Chain} : ofKey? bytes = some c ↔ c.key = bytes := by
  cases bytes with
  | nil => simp [ofKey?, key]
  | cons family number =>
    simp only [ofKey?, Option.ite_none_right_eq_some, Option.some.injEq]
    constructor
    · rintro ⟨hlength, rfl⟩
      rw [key, Bytes.ofNat_uint64_toNat hlength]
    · intro h
      have hlength : number.length = 8 := by
        have hall := congrArg List.length h
        rw [length_key, List.length_cons] at hall
        omega
      refine ⟨hlength, ?_⟩
      rw [← key_inj, h, key, Bytes.ofNat_uint64_toNat hlength]

theorem ofKey_eq_ok {bytes : Bytes} {c : Chain} : ofKey bytes = .ok c ↔ c.key = bytes := by
  rw [← ofKey?_eq_some, ofKey]
  cases ofKey? bytes <;> simp

theorem exists_key_eq {bytes : Bytes} : (∃ c : Chain, c.key = bytes) ↔ bytes.length = 9 := by
  constructor
  · rintro ⟨c, rfl⟩
    exact c.length_key
  · intro h
    cases bytes with
    | nil => cases h
    | cons family number =>
      have hlength : number.length = 8 := by simpa using h
      exact ⟨_, ofKey?_eq_some.1 (if_pos hlength)⟩

end Chain

/-! ## Messages -/

theorem MessageHeader.wire_inj {h k : MessageHeader} : h.wire = k.wire ↔ h = k := by
  refine ⟨fun heq => ?_, congrArg wire⟩
  unfold wire at heq
  obtain ⟨heq, hgas⟩ := List.append_inj' heq (by simp)
  obtain ⟨heq, hexecutor⟩ := List.append_inj' heq (by simp [Bytes32.length_bytes])
  obtain ⟨heq, hdestination⟩ := List.append_inj' heq (by simp)
  obtain ⟨heq, hprogram⟩ := List.append_inj' heq (by simp [Bytes32.length_bytes])
  obtain ⟨heq, hsource⟩ := List.append_inj' heq (by simp)
  obtain ⟨hkind, hnonce⟩ := List.append_inj' heq (by simp)
  cases h
  cases k
  rw [mk.injEq]
  exact ⟨List.singleton_inj.1 hkind, Bytes.ofNat_uint64_inj.1 hnonce, Chain.key_inj.1 hsource,
    Bytes32.ext_bytes hprogram, Chain.key_inj.1 hdestination, Bytes32.ext_bytes hexecutor,
    Bytes.ofNat_word128_inj.1 hgas⟩

theorem MessageBody.wire_inj {b c : MessageBody} : b.wire = c.wire ↔ b = c := by
  refine ⟨fun heq => ?_, congrArg wire⟩
  unfold wire at heq
  obtain ⟨heq, hrecipient⟩ := List.append_inj' heq (by simp [Bytes32.length_bytes])
  obtain ⟨heq, hsender⟩ := List.append_inj' heq (by simp [Bytes32.length_bytes])
  obtain ⟨htoken, hamount⟩ := List.append_inj' heq (by simp)
  cases b
  cases c
  rw [mk.injEq]
  exact ⟨Bytes32.ext_bytes htoken, Bytes.ofNat_word128_inj.1 hamount, Bytes32.ext_bytes hsender,
    Bytes32.ext_bytes hrecipient⟩

/-! ## Reading bodies -/

namespace MessageBody

theorem take_size (bytes : Bytes) :
    bytes.take size = bytes.take 32 ++ (bytes.drop 32).take 16 ++ (bytes.drop 48).take 32 ++
      (bytes.drop 80).take 32 := by
  rw [← List.take_add, ← List.take_add, ← List.take_add, size]

theorem wire_of_ofWire? {bytes : Bytes} {b : MessageBody} (h : ofWire? bytes = some b) :
    b.wire = bytes.take size := by
  simp only [ofWire?, Option.bind_eq_bind, Option.bind_eq_some_iff] at h
  obtain ⟨token, htoken, sender, hsender, recipient, hrecipient, hb⟩ := h
  rw [Bytes32.ofBytes?_eq_some_iff] at htoken hsender hrecipient
  cases hb
  have hamount : ((bytes.drop 32).take 16).length = 16 := by
    have hlength := congrArg List.length hrecipient
    rw [Bytes32.length_bytes, List.length_take, List.length_drop] at hlength
    rw [List.length_take, List.length_drop]
    omega
  rw [take_size, wire, Bytes.ofNat_word128_toNat hamount, htoken, hsender, hrecipient]

theorem ofWire?_append (b : MessageBody) (rest : Bytes) : ofWire? (b.wire ++ rest) = some b := by
  have hfirst : (b.wire ++ rest).take 32 = b.token.bytes := by
    simp only [wire, List.append_assoc]
    exact List.take_left' b.token.length_bytes
  have hamount : (b.wire ++ rest).drop 32 =
      Bytes.ofNat 16 b.amount.toNat ++ (b.sender.bytes ++ (b.recipient.bytes ++ rest)) := by
    simp only [wire, List.append_assoc]
    exact List.drop_left' b.token.length_bytes
  have hsender : (b.wire ++ rest).drop 48 = b.sender.bytes ++ (b.recipient.bytes ++ rest) := by
    rw [← List.drop_drop (i := 16) (j := 32), hamount]
    exact List.drop_left' (Bytes.length_ofNat 16 _)
  have hrecipient : (b.wire ++ rest).drop 80 = b.recipient.bytes ++ rest := by
    rw [← List.drop_drop (i := 32) (j := 48), hsender]
    exact List.drop_left' b.sender.length_bytes
  have hword : BitVec.ofNat 128 (Bytes.toNat (Bytes.ofNat 16 b.amount.toNat)) = b.amount := by
    have hlt : b.amount.toNat < 256 ^ 16 := b.amount.isLt
    rw [Bytes.toNat_ofNat, Nat.mod_eq_of_lt hlt, BitVec.ofNat_toNat, BitVec.setWidth_eq]
  rw [ofWire?, hfirst, hamount, hsender, hrecipient, List.take_left' b.sender.length_bytes,
    List.take_left' b.recipient.length_bytes, List.take_left' (Bytes.length_ofNat 16 _), hword]
  simp

theorem ofWire?_eq_some {bytes : Bytes} {b : MessageBody} :
    ofWire? bytes = some b ↔ b.wire = bytes.take size := by
  constructor
  · exact wire_of_ofWire?
  · intro h
    have hbytes := List.take_append_drop size bytes
    rw [← hbytes, ← h]
    exact ofWire?_append b _

theorem ofWire_eq_ok {bytes : Bytes} {b : MessageBody} :
    ofWire bytes = .ok b ↔ b.wire = bytes.take size := by
  rw [← ofWire?_eq_some, ofWire]
  cases ofWire? bytes <;> simp

theorem exists_wire_eq_take {bytes : Bytes} :
    (∃ b : MessageBody, b.wire = bytes.take size) ↔ size ≤ bytes.length := by
  constructor
  · rintro ⟨b, hb⟩
    have hlength := congrArg List.length hb
    rw [length_wire, List.length_take] at hlength
    omega
  · intro h
    unfold size at h
    have htoken : (bytes.take 32).length = 32 := by simp; omega
    have hsender : ((bytes.drop 48).take 32).length = 32 := by simp; omega
    have hrecipient : ((bytes.drop 80).take 32).length = 32 := by simp; omega
    refine ⟨⟨⟨_, htoken⟩, BitVec.ofNat 128 (Bytes.toNat ((bytes.drop 32).take 16)), ⟨_, hsender⟩,
      ⟨_, hrecipient⟩⟩, wire_of_ofWire? ?_⟩
    simp [ofWire?, Bytes32.ofBytes?, htoken, hsender, hrecipient]

end MessageBody

theorem Message.wire_inj {m n : Message} : m.wire = n.wire ↔ m = n := by
  refine ⟨fun heq => ?_, congrArg wire⟩
  obtain ⟨hheader, hbody⟩ := List.append_inj heq (by rw [MessageHeader.length_wire,
    MessageHeader.length_wire])
  cases m
  cases n
  rw [mk.injEq]
  exact ⟨MessageHeader.wire_inj.1 hheader, MessageBody.wire_inj.1 hbody⟩

/-! ## Proposals -/

theorem Word128.ofNat_uint64_inj {a b : UInt64} :
    BitVec.ofNat 128 a.toNat = BitVec.ofNat 128 b.toNat ↔ a = b := by
  have hlt : ∀ c : UInt64, c.toNat < Word128.size := fun c =>
    Nat.lt_trans c.toNat_lt (by decide)
  refine ⟨fun h => ?_, fun h => by rw [h]⟩
  have hnat := congrArg BitVec.toNat h
  rw [BitVec.toNat_ofNat, BitVec.toNat_ofNat, Nat.mod_eq_of_lt (hlt a),
    Nat.mod_eq_of_lt (hlt b)] at hnat
  exact UInt64.toNat_inj.1 hnat

namespace Proposal

variable {p q : Proposal}

/-- Neither the destination's token nor the bridge fee is on the wire, nor is the id. -/
theorem wire_eq_iff : p.wire = q.wire ↔
    p.nonce = q.nonce ∧ p.sourceChain = q.sourceChain ∧ p.sourceProgram = q.sourceProgram ∧
      p.destinationChain = q.destinationChain ∧ p.executor = q.executor ∧ p.gasFee = q.gasFee ∧
      p.sourceMint = q.sourceMint ∧ p.amount = q.amount ∧ p.sender = q.sender ∧
      p.recipient = q.recipient := by
  rw [wire, wire, Message.wire_inj, message, message]
  simp only [Message.mk.injEq, MessageHeader.mk.injEq, MessageBody.mk.injEq,
    Word128.ofNat_uint64_inj, true_and, and_assoc]

theorem eq_of_wire_eq (h : p.wire = q.wire) :
    p.nonce = q.nonce ∧ p.destinationChain = q.destinationChain := by
  obtain ⟨hnonce, -, -, hdestination, -⟩ := wire_eq_iff.1 h
  exact ⟨hnonce, hdestination⟩

/-- Two byte strings that show that the hash of messages is not injective. -/
def Collision (x y : Bytes) : Prop := x ≠ y ∧ keccak256 x = keccak256 y

theorem id_sealed (p : Proposal) : p.sealed.id = keccak256 p.sealed.wire := rfl

end Proposal

/-! ## The whole format -/

/-- The format loses nothing: keys of chains are exactly the strings of nine bytes, a body is read
from any string with room for one and is what its first bytes are, and messages with the same bytes
are the same. -/
theorem Message.wire_lossless :
    (∀ bytes c, Chain.ofKey bytes = .ok c ↔ c.key = bytes) ∧
    (∀ bytes, (∃ c, Chain.ofKey bytes = .ok c) ↔ bytes.length = 9) ∧
    (∀ bytes b, MessageBody.ofWire bytes = .ok b ↔ b.wire = bytes.take 112) ∧
    (∀ bytes, (∃ b, MessageBody.ofWire bytes = .ok b) ↔ 112 ≤ bytes.length) ∧
    (∀ b rest, MessageBody.ofWire (b.wire ++ rest) = .ok b) ∧
    (∀ m n : Message, m.wire = n.wire ↔ m = n) ∧
    (∀ m : Message, m.wire.length = 219) ∧
    ∀ p q : Proposal, p.wire = q.wire ↔
      p.nonce = q.nonce ∧ p.sourceChain = q.sourceChain ∧ p.sourceProgram = q.sourceProgram ∧
        p.destinationChain = q.destinationChain ∧ p.executor = q.executor ∧ p.gasFee = q.gasFee ∧
        p.sourceMint = q.sourceMint ∧ p.amount = q.amount ∧ p.sender = q.sender ∧
        p.recipient = q.recipient := by
  refine ⟨fun bytes c => Chain.ofKey_eq_ok, ?_, fun bytes b => MessageBody.ofWire_eq_ok, ?_, ?_,
    fun m n => wire_inj, length_wire, fun p q => Proposal.wire_eq_iff⟩
  · intro bytes
    simp only [Chain.ofKey_eq_ok]
    exact Chain.exists_key_eq
  · intro bytes
    simp only [MessageBody.ofWire_eq_ok]
    exact MessageBody.exists_wire_eq_take
  · intro b rest
    rw [MessageBody.ofWire_eq_ok]
    exact (List.take_left' b.length_wire).symm

end CustodyBridge
