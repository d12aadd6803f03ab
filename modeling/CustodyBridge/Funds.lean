import CustodyBridge.Amount
import CustodyBridge.Error

/-!
# Attached funds

Whoever calls may attach funds. They must be exactly what the call takes, mint by mint.
-/

namespace CustodyBridge

/-- An amount of a mint, which comes with a call. -/
structure Funds where
  mint : Address
  amount : UInt64
deriving DecidableEq

instance : JsonForm Funds where
  toJson f := .object [("mint", JsonForm.toJson f.mint), ("amount", JsonForm.toJson f.amount)]
  ofJson? j := do
    let fields ← j.fields? ["mint", "amount"]
    return ⟨← fields.required "mint", ← fields.required "amount"⟩

/-- Who calls, and what is attached to the call. -/
structure Caller where
  sender : Address
  funds : List Funds := []
deriving DecidableEq

namespace Totals

/-- Of a mint without an entry there is nothing. -/
def ofMint (totals : Totals) (mint : Address) : UInt64 := (totals.get? mint).getD 0

/-- Adds an entry. An entry of zero changes nothing. -/
def add? (totals : Totals) (f : Funds) : Option Totals :=
  if f.amount = 0 then some totals
  else (Amount.add? (totals.ofMint f.mint) f.amount).map fun sum => totals.insert f.mint sum

/-- The sums of entries, unless one is no amount. -/
def ofFunds? (funds : List Funds) : Option Totals := funds.foldlM add? SortedMap.empty

end Totals

/-- The attached funds are summed first, then the required ones. -/
def Funds.verify (attached required : List Funds) : Except FundsError Unit :=
  match Totals.ofFunds? attached with
  | none => .error .overflow
  | some attached =>
    match Totals.ofFunds? required with
    | none => .error .overflow
    | some required =>
      if attached = required then .ok () else .error (.mismatch attached required)

end CustodyBridge
