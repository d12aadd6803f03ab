import CustodyBridge.Bridge.Operation
import CustodyBridge.Ledger.LockTable

/-!
# Traffic

Clients at one ledger, each with one call. A client locks everything that its operation declares,
goes ahead one access at a time while others do the same, commits or drops what it has staged, and
gives its locks back. The lock table and the store are each used by one client at a time, so a step
is one such use.
-/

namespace CustodyBridge

/-! ## Clients -/

/-- How far a client is: what is left of its handler and what that has staged, or how it ended. A
client that has ended still holds its locks, one that has finished does not. -/
inductive Phase where
  | running (rest : Handler Receipt) (staged : SortedMap Bytes (Option String))
  | ended (outcome : Outcome BridgeError Receipt)
  | finished (outcome : Outcome BridgeError Receipt)

/-- A client that is at work: its call, what the call declares, and how far it is. -/
structure Client where
  call : Call
  access : AccessSet
  phase : Phase

/-- What a client's handler sees: its own staged changes over the committed records. -/
def Client.overlay (c : Client) (ledger : Ledger) (staged : SortedMap Bytes (Option String)) :
    Transaction String :=
  ⟨ledger, c.access, staged⟩

/-- The committed records, the locks, and every client that has started. -/
structure Traffic where
  ledger : Ledger
  locks : LockTable
  clients : SortedMap Nat Client

namespace Traffic

def start (ledger : Ledger) : Traffic := ⟨ledger, .empty, SortedMap.empty⟩

def put (t : Traffic) (i : Nat) (c : Client) : Traffic :=
  { t with clients := t.clients.insert i c }

end Traffic

/-! ## Steps -/

inductive Action where
  | refuse
  | acquire
  | report
  | access
  | commit
  | drop
  | release
deriving DecidableEq

/-- A step of one client. -/
structure Move where
  client : Nat
  action : Action
deriving DecidableEq

namespace Traffic

/-- What one step leads to. A client that starts is a new one; a call that has no operation fails
before it locks anything. An access that the store refuses stops the handler. -/
inductive Step (env : Environment) (t : Traffic) : Move → Traffic → Prop where
  | refuse {i : Nat} {call : Call} {e : BridgeError}
      (fresh : t.clients.get? i = none)
      (operation : call.operation env = .error e) :
      Step env t ⟨i, .refuse⟩ (t.put i ⟨call, .empty, .finished (.error e)⟩)
  | acquire {i : Nat} {call : Call} {op : Operation Receipt}
      (fresh : t.clients.get? i = none)
      (operation : call.operation env = .ok op)
      (available : t.locks.available op.access = true) :
      Step env t ⟨i, .acquire⟩ ({ t with locks := t.locks.acquire op.access }.put i
        ⟨call, op.access, .running op.program SortedMap.empty⟩)
  | report {i : Nat} {c : Client} {event : Event} {next : Handler Receipt}
        {staged : SortedMap Bytes (Option String)}
      (found : t.clients.get? i = some c)
      (phase : c.phase = .running (.note event next) staged) :
      Step env t ⟨i, .report⟩ (t.put i { c with phase := .running next staged })
  | access {i : Nat} {c : Client} {op : Op String} {next : op.Answer → Handler Receipt}
        {staged : SortedMap Bytes (Option String)} {answer : op.Answer} {tx : Transaction String}
      (found : t.clients.get? i = some c)
      (phase : c.phase = .running (.access op next) staged)
      (performed : Transaction.perform op (c.overlay t.ledger staged) = .ok (answer, tx)) :
      Step env t ⟨i, .access⟩ (t.put i { c with phase := .running (next answer) tx.staged })
  | trap {i : Nat} {c : Client} {op : Op String} {next : op.Answer → Handler Receipt}
        {staged : SortedMap Bytes (Option String)} {cause : Panic}
      (found : t.clients.get? i = some c)
      (phase : c.phase = .running (.access op next) staged)
      (performed : Transaction.perform op (c.overlay t.ledger staged) = .error cause) :
      Step env t ⟨i, .access⟩ (t.put i { c with phase := .running (.halt cause) staged })
  | commit {i : Nat} {c : Client} {receipt : Receipt} {staged : SortedMap Bytes (Option String)}
      (found : t.clients.get? i = some c)
      (phase : c.phase = .running (.done receipt) staged) :
      Step env t ⟨i, .commit⟩
        ({ t with ledger := (c.overlay t.ledger staged).commit }.put i
          { c with phase := .ended (.ok receipt) })
  | fail {i : Nat} {c : Client} {e : BridgeError} {staged : SortedMap Bytes (Option String)}
      (found : t.clients.get? i = some c)
      (phase : c.phase = .running (.fail e) staged) :
      Step env t ⟨i, .drop⟩ (t.put i { c with phase := .ended (.error e) })
  | halt {i : Nat} {c : Client} {cause : Panic} {staged : SortedMap Bytes (Option String)}
      (found : t.clients.get? i = some c)
      (phase : c.phase = .running (.halt cause) staged) :
      Step env t ⟨i, .drop⟩ (t.put i { c with phase := .ended (.panic cause) })
  | release {i : Nat} {c : Client} {outcome : Outcome BridgeError Receipt}
      (found : t.clients.get? i = some c)
      (phase : c.phase = .ended outcome) :
      Step env t ⟨i, .release⟩
        ({ t with locks := t.locks.release c.access }.put i
          { c with phase := .finished outcome })

/-- Steps one after another, in any interleaving of the clients. -/
inductive Run (env : Environment) (t : Traffic) : List Move → Traffic → Prop where
  | nil : Run env t [] t
  | snoc {moves : List Move} {move : Move} {u v : Traffic} (run : Run env t moves u)
      (step : u.Step env move v) : Run env t (moves ++ [move]) v

end Traffic

/-- The clients that committed, in the order in which they did. -/
def Move.commits (moves : List Move) : List Nat :=
  (moves.filter (·.action = .commit)).map (·.client)

end CustodyBridge
