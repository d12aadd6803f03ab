import CustodyBridge.Address
import CustodyBridge.Chain
import CustodyBridge.Digest.Keccak256

/-!
# Messages on the wire

A message to another chain is a header of 107 bytes and a body of 112 bytes, all fields at fixed
places and numbers most significant byte first. Its id is the Keccak-256 hash of those bytes.
-/

namespace CustodyBridge

/-! ## Header -/

structure MessageHeader where
  kind : UInt8
  nonce : UInt64
  source : Chain
  sourceProgram : Address
  destination : Chain
  executor : Address
  gasFee : Word128
deriving DecidableEq

/-- The kind of message that moves tokens. -/
def MessageHeader.tokenTransfer : UInt8 := 0

/-- 107 bytes. Numbers have their greatest byte first. -/
def MessageHeader.wire (h : MessageHeader) : Bytes :=
  [h.kind] ++ Bytes.ofNat 8 h.nonce.toNat ++ h.source.key ++ h.sourceProgram.bytes ++
    h.destination.key ++ h.executor.bytes ++ Bytes.ofNat 16 h.gasFee.toNat

theorem MessageHeader.length_wire (h : MessageHeader) : h.wire.length = 107 := by
  simp [wire, Bytes32.length_bytes]

/-! ## Body -/

/-- How much of which token goes from whom to whom. -/
structure MessageBody where
  token : Address
  amount : Word128
  sender : Address
  recipient : Address
deriving DecidableEq

namespace MessageBody

def size : Nat := 112

def wire (b : MessageBody) : Bytes :=
  b.token.bytes ++ Bytes.ofNat 16 b.amount.toNat ++ b.sender.bytes ++ b.recipient.bytes

theorem length_wire (b : MessageBody) : b.wire.length = size := by
  simp [wire, size, Bytes32.length_bytes]

/-- The body that a byte string starts with. What follows the body is ignored. -/
def ofWire? (bytes : Bytes) : Option MessageBody := do
  let token ← Bytes32.ofBytes? (bytes.take 32)
  let sender ← Bytes32.ofBytes? ((bytes.drop 48).take 32)
  let recipient ← Bytes32.ofBytes? ((bytes.drop 80).take 32)
  return ⟨token, BitVec.ofNat 128 (Bytes.toNat ((bytes.drop 32).take 16)), sender, recipient⟩

/-- How long a byte string is that is too short for a body. -/
structure WireError where
  got : Nat
deriving DecidableEq

def WireError.message (e : WireError) : String :=
  s!"Invalid message: body too short: expected 112 bytes, got {e.got}"

def ofWire (bytes : Bytes) : Except WireError MessageBody :=
  match ofWire? bytes with
  | some b => .ok b
  | none => .error ⟨bytes.length⟩

end MessageBody

/-! ## Message -/

structure Message where
  header : MessageHeader
  body : MessageBody
deriving DecidableEq

namespace Message

def wire (m : Message) : Bytes := m.header.wire ++ m.body.wire

theorem length_wire (m : Message) : m.wire.length = 219 := by
  simp [wire, MessageHeader.length_wire, MessageBody.length_wire, MessageBody.size]

/-- A message is known by the hash of its bytes. -/
def id (m : Message) : Bytes32 := keccak256 m.wire

end Message

end CustodyBridge
