import CustodyBridge.Amount

/-!
# Decimals

The same amount of a token in units of another precision, rounded down.
-/

namespace CustodyBridge.Decimals

/-- A power of ten that is a 128-bit word. -/
def tenTo? (exponent : Nat) : Option Nat :=
  let power := Nat.pow 10 exponent
  if power < Word128.size then some power else none

/-- Converts an amount between units with different numbers of decimals. -/
def convert? (amount : Word128) (source target : UInt8) : Option UInt64 := do
  if target ≤ source then
    let factor ← tenTo? (source.toNat - target.toNat)
    Amount.ofNat? (amount.toNat / factor)
  else
    let factor ← tenTo? (target.toNat - source.toNat)
    if amount.toNat * factor < Word128.size then Amount.ofNat? (amount.toNat * factor) else none

end CustodyBridge.Decimals
