import CustodyBridge.Error
import CustodyBridge.Ledger.Program

/-!
# Programs over records

How a program loads, saves and removes the record of an account.
-/

namespace CustodyBridge

/-- A program over the bridge's store, whose values are JSON texts. -/
abbrev Handler := Program String BridgeError

namespace Record

variable {ρ : Type} [Record ρ]

/-- The record that an account holds, if it holds one. -/
def load? (ρ : Type) [Record ρ] (a : Account) : Handler (Option ρ) := do
  match ← Program.get (key ρ a) with
  | none => return none
  | some value =>
    match JsonForm.read? value with
    | some r => return some r
    | none => Program.fail (.store .unreadable)

/-- The record that an account holds; the bridge cannot be without it. -/
def load (ρ : Type) [Record ρ] (a : Account) : Handler ρ := do
  Program.require (← load? ρ a) (.store (.missingRecord (table ρ) a.address))

/-- Whether anything is stored, be it legible or not. -/
def exists? (ρ : Type) [Record ρ] (a : Account) : Handler Bool := do
  return (← Program.get (key ρ a)).isSome

def save (a : Account) (r : ρ) : Handler Unit := Program.set (key ρ a) (JsonForm.write r)

def remove (ρ : Type) [Record ρ] (a : Account) : Handler Unit := Program.remove (key ρ a)

end Record

end CustodyBridge
