import CustodyBridge.Bridge.Answering

/-!
# Sessions

Calls and queries as they come in, one after another. A query leaves the ledger as it is.
-/

namespace CustodyBridge

/-- A call may change the ledger, a query reads it. -/
inductive Request where
  | call (c : Call)
  | query (q : Query)
deriving DecidableEq

inductive Response where
  | receipt (r : Receipt)
  | answer (a : Answer)
deriving DecidableEq

/-- How a request ended, the ledger it left, and what it reported. -/
abbrev Reply := Program.Run BridgeError Response Ledger

namespace Request

def perform (env : Environment) : Request → Ledger → Reply
  | call c, ledger =>
    let r := c.perform env ledger
    ⟨r.outcome.map .receipt, r.state, r.events⟩
  | query q, ledger => ⟨(q.perform env ledger).map .answer, ledger, []⟩

/-- Serves requests in order, each on the ledger that the one before left. -/
def performAll (env : Environment) : List Request → Ledger → List Reply
  | [], _ => []
  | r :: rest, ledger =>
    let reply := r.perform env ledger
    reply :: performAll env rest reply.state

end Request

end CustodyBridge
