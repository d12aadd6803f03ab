import CustodyBridge.Amount
import CustodyBridge.Record.Program

/-!
# Nonce counters

The proposals to a chain are numbered from zero, without a gap.
-/

namespace CustodyBridge

open JsonForm

/-- The number that the next proposal to a chain takes. -/
structure NonceCounter where
  chain : Chain
  next : UInt64
deriving DecidableEq

instance : Record NonceCounter where
  table := .nonceCounters
  toJson c := .object [("chain", toJson c.chain), ("next_nonce", toJson c.next)]
  ofJson? j := do
    let fields ← j.fields? ["chain", "next_nonce"]
    return ⟨← fields.required "chain", ← fields.required "next_nonce"⟩

namespace NonceCounter

def opened (chain : Chain) : NonceCounter := ⟨chain, 0⟩

/-- Goes on by one. The greatest number is never given out. -/
def advance (c : NonceCounter) : Outcome BridgeError NonceCounter := do
  let next ← Outcome.require (Amount.add? c.next 1) .amountOverflow
  return { c with next }

/-- Takes the next nonce of a chain. -/
def runIssue (a : Account) (chain : Chain) : Handler UInt64 := do
  let counter := (← Record.load? NonceCounter a).getD (opened chain)
  Record.save a (← Program.ofOutcome counter.advance)
  return counter.next

/-- The nonce that would be taken next. -/
def runCurrent (a : Account) : Handler UInt64 := do
  match ← Record.load? NonceCounter a with
  | some counter => return counter.next
  | none => return 0

end NonceCounter

end CustodyBridge
