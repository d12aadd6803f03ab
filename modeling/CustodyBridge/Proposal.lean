import CustodyBridge.Json.Form
import CustodyBridge.Message

/-!
# Proposals

An outgoing transfer as it is handed to the relay, named by the hash of its message.
-/

namespace CustodyBridge

open JsonForm

/-- What a sender asks for. -/
structure ProposalRequest where
  toChain : Chain
  toToken : Address
  recipient : Address
  mint : Address
  amount : UInt64
  gasFee : UInt64
deriving DecidableEq

/-- What a sender has asked for, with all that the bridge has added to it. -/
structure Proposal where
  id : Bytes32
  nonce : UInt64
  sourceChain : Chain
  sourceProgram : Address
  destinationChain : Chain
  destinationToken : Address
  executor : Address
  recipient : Address
  sourceMint : Address
  sender : Address
  amount : UInt64
  gasFee : UInt64
  bridgeFee : UInt64
deriving DecidableEq

instance : JsonForm Proposal where
  toJson p := .object [
    ("id", toJson p.id), ("nonce", toJson p.nonce), ("source_chain", toJson p.sourceChain),
    ("source_program", toJson p.sourceProgram),
    ("destination_chain", toJson p.destinationChain),
    ("destination_token", toJson p.destinationToken), ("executor", toJson p.executor),
    ("recipient", toJson p.recipient), ("source_token_mint", toJson p.sourceMint),
    ("sender", toJson p.sender), ("amount", toJson p.amount), ("gas_fee", toJson p.gasFee),
    ("bridge_fee", toJson p.bridgeFee)]
  ofJson? j := do
    let fields ← j.fields? [
      "id", "nonce", "source_chain", "source_program", "destination_chain", "destination_token",
      "executor", "recipient", "source_token_mint", "sender", "amount", "gas_fee", "bridge_fee"]
    return {
      id := ← fields.required "id"
      nonce := ← fields.required "nonce"
      sourceChain := ← fields.required "source_chain"
      sourceProgram := ← fields.required "source_program"
      destinationChain := ← fields.required "destination_chain"
      destinationToken := ← fields.required "destination_token"
      executor := ← fields.required "executor"
      recipient := ← fields.required "recipient"
      sourceMint := ← fields.required "source_token_mint"
      sender := ← fields.required "sender"
      amount := ← fields.required "amount"
      gasFee := ← fields.required "gas_fee"
      bridgeFee := ← fields.required "bridge_fee" }

namespace Proposal

/-- The message that a proposal sends. The destination finds the token by the source mint. -/
def message (p : Proposal) : Message where
  header := {
    kind := MessageHeader.tokenTransfer
    nonce := p.nonce
    source := p.sourceChain
    sourceProgram := p.sourceProgram
    destination := p.destinationChain
    executor := p.executor
    gasFee := BitVec.ofNat 128 p.gasFee.toNat }
  body := {
    token := p.sourceMint
    amount := BitVec.ofNat 128 p.amount.toNat
    sender := p.sender
    recipient := p.recipient }

def wire (p : Proposal) : Bytes := p.message.wire

/-- The proposal with the id of its message. -/
def sealed (p : Proposal) : Proposal := { p with id := p.message.id }

def idText (p : Proposal) : String := Address.toHex p.id

end Proposal

/-! ## Messages as JSON -/

instance : JsonForm MessageHeader where
  toJson h := .object [
    ("mtype", toJson h.kind), ("nonce", toJson h.nonce), ("from_chain", toJson h.source),
    ("from_addr", toJson h.sourceProgram), ("to_chain", toJson h.destination),
    ("to_addr", toJson h.executor), ("upload_gas_fee", Word128.toJson h.gasFee)]
  ofJson? j := do
    let fields ← j.fields? [
      "mtype", "nonce", "from_chain", "from_addr", "to_chain", "to_addr", "upload_gas_fee"]
    return {
      kind := ← fields.required "mtype"
      nonce := ← fields.required "nonce"
      source := ← fields.required "from_chain"
      sourceProgram := ← fields.required "from_addr"
      destination := ← fields.required "to_chain"
      executor := ← fields.required "to_addr"
      gasFee := ← (fields.lookup "upload_gas_fee").bind Word128.ofCanonicalJson? }

instance : JsonForm MessageBody where
  toJson b := .object [
    ("source_token", toJson b.token), ("all_amount", Word128.toJson b.amount),
    ("from_who", toJson b.sender), ("to_who", toJson b.recipient)]
  ofJson? j := do
    let fields ← j.fields? ["source_token", "all_amount", "from_who", "to_who"]
    return {
      token := ← fields.required "source_token"
      amount := ← (fields.lookup "all_amount").bind Word128.ofCanonicalJson?
      sender := ← fields.required "from_who"
      recipient := ← fields.required "to_who" }

end CustodyBridge
