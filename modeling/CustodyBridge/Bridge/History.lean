import CustodyBridge.Bridge.Operation

/-!
# Histories

What calls do to a ledger, one after another. A ledger is reachable if calls lead to it from the
empty one.
-/

namespace CustodyBridge

/-- One call of a history: the ledger that it found, and how it ended. -/
structure Step where
  before : Ledger
  call : Call
  run : Program.Run BridgeError Receipt Ledger

namespace Step

/-- The ledger behind the step. -/
def after (s : Step) : Ledger := s.run.state

/-- The receipt of a call that succeeded. -/
def receipt? (s : Step) : Option Receipt :=
  match s.run.outcome with
  | .ok receipt => some receipt
  | _ => none

end Step

namespace Call

def toStep (env : Environment) (c : Call) (ledger : Ledger) : Step :=
  ⟨ledger, c, c.perform env ledger⟩

/-- The steps of calls, each on the ledger behind the ones before it. -/
def history (env : Environment) : List Call → Ledger → List Step
  | [], _ => []
  | c :: rest, ledger =>
    let step := c.toStep env ledger
    step :: history env rest step.after

/-- The ledger that calls leave. -/
def performAll (env : Environment) (calls : List Call) (ledger : Ledger) : Ledger :=
  calls.foldl (fun l c => (c.perform env l).state) ledger

theorem performAll_append (env : Environment) (calls more : List Call) (ledger : Ledger) :
    performAll env (calls ++ more) ledger = performAll env more (performAll env calls ledger) :=
  List.foldl_append

theorem history_append (env : Environment) (calls more : List Call) (ledger : Ledger) :
    history env (calls ++ more) ledger =
      history env calls ledger ++ history env more (performAll env calls ledger) := by
  induction calls generalizing ledger with
  | nil => rfl
  | cons c rest ih => simp [history, performAll, ih, toStep, Step.after]

end Call

end CustodyBridge
