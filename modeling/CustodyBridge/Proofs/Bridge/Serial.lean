import CustodyBridge.Bridge.History
import CustodyBridge.Proofs.Bridge.Traffic

/-!
# Every interleaving is a sequence

Clients that run at the same time leave what the same calls leave one after another, and each ends
as it does there. The order is that in which the operations commit or fail.
-/

namespace CustodyBridge

/-! ## Turns -/

/-- A client whose operation has ended, and how. -/
structure Turn where
  client : Nat
  call : Call
  outcome : Outcome BridgeError Receipt

namespace Turn

def committed (turn : Turn) : Bool :=
  match turn.outcome with
  | .ok _ => true
  | _ => false

def calls (turns : List Turn) : List Call := turns.map Turn.call

end Turn

def Phase.outcome? : Phase → Option (Outcome BridgeError Receipt)
  | running _ _ => none
  | ended outcome | finished outcome => some outcome

def Client.turn? (c : Client) (i : Nat) : Option Turn := c.phase.outcome?.map (⟨i, c.call, ·⟩)

/-- Calls that end as the turns say and leave a ledger, when they are made one after another. -/
structure Turn.Serial (env : Environment) (start : Ledger) (turns : List Turn) (ledger : Ledger) :
    Prop where
  ledger : Call.performAll env (calls turns) start = ledger
  outcomes : (Call.history env (calls turns) start).map (·.run.outcome) = turns.map Turn.outcome

namespace Turn.Serial

variable {env : Environment} {start l l' : Ledger} {turns : List Turn}

theorem nil (env : Environment) (start : Ledger) : Serial env start [] start := ⟨rfl, rfl⟩

theorem snoc (h : Serial env start turns l) {turn : Turn}
    (outcome : (turn.call.perform env l).outcome = turn.outcome)
    (state : (turn.call.perform env l).state = l') : Serial env start (turns ++ [turn]) l' := by
  obtain ⟨rfl, houtcomes⟩ := h
  refine ⟨?_, ?_⟩
  · rw [calls, List.map_append, Call.performAll_append]
    exact state
  · rw [calls, List.map_append, Call.history_append, List.map_append, List.map_append, ← calls,
      houtcomes]
    exact congrArg (turns.map Turn.outcome ++ [·]) outcome

end Turn.Serial

/-! ## The record of what has ended -/

/-- The turns are those of the clients that have ended, each once. -/
structure Turn.Recorded (clients : SortedMap Nat Client) (turns : List Turn) : Prop where
  once : (turns.map Turn.client).Nodup
  mem_iff : ∀ turn, turn ∈ turns ↔ (clients.get? turn.client).bind (·.turn? turn.client) = some turn

namespace Turn.Recorded

variable {clients : SortedMap Nat Client} {turns : List Turn} {i : Nat} {c : Client} {turn : Turn}

theorem nil : Recorded SortedMap.empty [] := ⟨.nil, fun _ => by simp⟩

theorem keep (h : Recorded clients turns) (same : c.turn? i = (clients.get? i).bind (·.turn? i)) :
    Recorded (clients.insert i c) turns := by
  refine ⟨h.once, fun turn => ?_⟩
  rw [h.mem_iff, SortedMap.get?_insert]
  split
  · rename_i hi
    subst hi
    rw [Option.bind_some, same]
  · rfl

theorem snoc (h : Recorded clients turns) (running : (clients.get? i).bind (·.turn? i) = none)
    (ended : c.turn? i = some turn) : Recorded (clients.insert i c) (turns ++ [turn]) := by
  have hclient : turn.client = i := by
    unfold Client.turn? at ended
    obtain ⟨outcome, -, rfl⟩ := Option.map_eq_some_iff.1 ended
    rfl
  have hnew : ∀ other ∈ turns, other.client ≠ i := by
    rintro other hother rfl
    rw [(h.mem_iff other).1 hother] at running
    cases running
  refine ⟨?_, fun other => ?_⟩
  · rw [List.map_append, List.nodup_append]
    refine ⟨h.once, List.nodup_singleton _, fun j hj k hk => ?_⟩
    obtain ⟨other, hother, rfl⟩ := List.mem_map.1 hj
    obtain rfl := List.mem_singleton.1 hk
    rw [hclient]
    exact hnew other hother
  · rw [List.mem_append, List.mem_singleton, SortedMap.get?_insert]
    split
    · rename_i hi
      subst hi
      rw [Option.bind_some, ended, Option.some.injEq]
      refine ⟨?_, fun h => .inr h.symm⟩
      rintro (hother | rfl)
      · exact absurd rfl (hnew other hother)
      · rfl
    · rename_i hi
      rw [h.mem_iff]
      refine ⟨?_, .inl⟩
      rintro (hother | rfl)
      · exact hother
      · exact absurd hclient.symm hi

end Turn.Recorded

/-! ## Steps -/

theorem Move.commits_append (moves : List Move) (i : Nat) (action : Action) :
    commits (moves ++ [⟨i, action⟩]) = commits moves ++ if action = .commit then [i] else [] := by
  unfold commits
  by_cases haction : action = .commit <;> simp [haction]

namespace Traffic

variable {env : Environment} {start : Ledger} {moves moves' : List Move} {move : Move}
  {t u v : Traffic} {turns : List Turn} {i : Nat} {c : Client}

/-- The turns are an order of the operations that have ended so far. -/
structure Logged (env : Environment) (start : Ledger) (moves : List Move) (t : Traffic)
    (turns : List Turn) : Prop where
  serial : Turn.Serial env start turns t.ledger
  recorded : Turn.Recorded t.clients turns
  commits : (turns.filter Turn.committed).map Turn.client = Move.commits moves
  started : ∀ move ∈ moves, ∃ c, t.clients.get? move.client = some c

theorem started_put {action : Action} {clients : SortedMap Nat Client}
    (h : ∀ move ∈ moves, ∃ c, clients.get? move.client = some c) :
    ∀ move ∈ moves ++ [⟨i, action⟩], ∃ d, (clients.insert i c).get? move.client = some d := by
  intro move hmove
  rw [SortedMap.get?_insert]
  split
  · exact ⟨c, rfl⟩
  · rename_i hne
    rcases List.mem_append.1 hmove with hmove | hmove
    · exact h move hmove
    · obtain rfl := List.mem_singleton.1 hmove
      exact absurd rfl hne

theorem Logged.keep {locks : LockTable} {action : Action} (h : Logged env start moves t turns)
    (same : c.turn? i = (t.clients.get? i).bind (·.turn? i)) (silent : action ≠ .commit) :
    Logged env start (moves ++ [⟨i, action⟩]) ({ t with locks }.put i c) turns := by
  refine ⟨h.serial, h.recorded.keep same, ?_, started_put h.started⟩
  rw [Move.commits_append, if_neg silent, List.append_nil]
  exact h.commits

/-- A step that ends an operation as its call ends by itself adds its turn. -/
theorem Logged.snoc {ledger : Ledger} {action : Action} {outcome : Outcome BridgeError Receipt}
    (h : Logged env start moves t turns)
    (running : (t.clients.get? i).bind (·.turn? i) = none)
    (ended : c.phase.outcome? = some outcome)
    (performed : (c.call.perform env t.ledger).outcome = outcome ∧
      (c.call.perform env t.ledger).state = ledger)
    (committed : action = .commit ↔ Turn.committed ⟨i, c.call, outcome⟩ = true) :
    Logged env start (moves ++ [⟨i, action⟩]) ({ t with ledger }.put i c)
      (turns ++ [⟨i, c.call, outcome⟩]) := by
  have hturn : c.turn? i = some ⟨i, c.call, outcome⟩ := by rw [Client.turn?, ended, Option.map_some]
  refine ⟨h.serial.snoc performed.1 performed.2, h.recorded.snoc running hturn, ?_,
    started_put h.started⟩
  rw [List.filter_append, List.map_append, h.commits, Move.commits_append]
  congr 1
  by_cases haction : action = .commit
  · rw [if_pos haction, List.filter_singleton, committed.1 haction]
    rfl
  · have hnot : Turn.committed ⟨i, c.call, outcome⟩ = false := by
      rw [← Bool.not_eq_true, ← committed]
      exact haction
    rw [if_neg haction, List.filter_singleton, hnot]
    rfl

theorem turn?_of_running {rest : Handler Receipt} {staged : SortedMap Bytes (Option String)}
    (found : t.clients.get? i = some c) (phase : c.phase = .running rest staged) :
    (t.clients.get? i).bind (·.turn? i) = none := by
  rw [found, Option.bind_some, Client.turn?, phase]
  rfl

theorem Logged.step (h : Logged env start moves t turns) (onCourse : OnCourse env t)
    (step : t.Step env move u) : ∃ turns', Logged env start (moves ++ [move]) u turns' := by
  cases step with
  | @refuse i call e fresh operation =>
    refine ⟨turns ++ [⟨i, call, .error e⟩], h.snoc ?_ rfl ?_ (by simp [Turn.committed])⟩
    · rw [fresh]
      rfl
    · simp [Call.perform, operation]
  | acquire fresh =>
    refine ⟨turns, h.keep ?_ (by simp)⟩
    rw [fresh]
    rfl
  | report found phase | access found phase | trap found phase =>
    exact ⟨turns, h.keep (turn?_of_running found phase).symm (by simp)⟩
  | commit found phase =>
    have hfaithful := onCourse _ _ _ _ found phase
    exact ⟨_, h.snoc (turn?_of_running found phase) rfl hfaithful.commit (by simp [Turn.committed])⟩
  | fail found phase | halt found phase =>
    have hfaithful := onCourse _ _ _ _ found phase
    exact ⟨_, h.snoc (turn?_of_running found phase) rfl (hfaithful.drop rfl (by simp))
      (by simp [Turn.committed])⟩
  | release found phase =>
    refine ⟨turns, h.keep ?_ (by simp)⟩
    rw [found, Option.bind_some, Client.turn?, Client.turn?, phase]
    rfl

/-! ## Runs -/

theorem logged_of_run (run : Run env (.start start) moves t) :
    t.Guarded ∧ OnCourse env t ∧ ∃ turns, Logged env start moves t turns := by
  induction run with
  | nil =>
    exact ⟨guarded_start start, onCourse_start env start, [], .nil env start, .nil, rfl, by simp⟩
  | snoc _ step ih =>
    obtain ⟨guarded, onCourse, turns, logged⟩ := ih
    exact ⟨guarded.step step, onCourse.step guarded step, logged.step onCourse step⟩

def Finished (t : Traffic) : Prop :=
  ∀ i c, t.clients.get? i = some c → ∃ outcome, c.phase = .finished outcome

/-- Clients that have all finished leave the ledger that their calls leave one after another, and
each has ended as it does there. The order has every client that has made a move once, and those
that committed in the order of their commits. -/
theorem serializable (run : Run env (.start start) moves t) (finished : t.Finished) :
    ∃ turns : List Turn,
      Call.performAll env (Turn.calls turns) start = t.ledger ∧
      (Call.history env (Turn.calls turns) start).map (·.run.outcome) = turns.map Turn.outcome ∧
      (turns.map Turn.client).Nodup ∧
      (∀ turn, turn ∈ turns ↔ ∃ c, t.clients.get? turn.client = some c ∧ c.call = turn.call ∧
        c.phase = .finished turn.outcome) ∧
      (∀ move ∈ moves, ∃ turn ∈ turns, turn.client = move.client) ∧
      (turns.filter Turn.committed).map Turn.client = Move.commits moves := by
  obtain ⟨-, -, turns, logged⟩ := logged_of_run run
  have hmem : ∀ turn, turn ∈ turns ↔ ∃ c, t.clients.get? turn.client = some c ∧
      c.call = turn.call ∧ c.phase = .finished turn.outcome := by
    intro turn
    rw [logged.recorded.mem_iff, Option.bind_eq_some_iff]
    refine exists_congr fun c => and_congr_right fun found => ?_
    obtain ⟨outcome, phase⟩ := finished _ c found
    rw [Client.turn?, phase]
    obtain ⟨i, call, outcome'⟩ := turn
    simp [Phase.outcome?]
  refine ⟨turns, logged.serial.ledger, logged.serial.outcomes, logged.recorded.once, hmem,
    fun move hmove => ?_, logged.commits⟩
  obtain ⟨c, found⟩ := logged.started move hmove
  obtain ⟨outcome, phase⟩ := finished _ c found
  exact ⟨⟨move.client, c.call, outcome⟩, (hmem _).2 ⟨c, found, rfl, phase⟩, rfl⟩

/-! ## Progress -/

theorem Run.trans (run : Run env t moves u) (run' : Run env u moves' v) :
    Run env t (moves ++ moves') v := by
  induction run' with
  | nil => rwa [List.append_nil]
  | snoc _ step ih =>
    rw [← List.append_assoc]
    exact .snoc ih step

theorem Run.cons (step : t.Step env move u) (run : Run env u moves v) :
    Run env t (move :: moves) v :=
  Run.trans (.snoc .nil step) run

/-- A client can go on to an end, with the others standing still. -/
def CanFinish (env : Environment) (t : Traffic) (i : Nat) (c : Client)
    (outcome : Outcome BridgeError Receipt) : Prop :=
  ∃ moves u, Run env t moves u ∧
    u.clients = t.clients.insert i { c with phase := .finished outcome }

theorem canFinish_of_ended {outcome : Outcome BridgeError Receipt} (step : t.Step env move u)
    (ended : u.clients = t.clients.insert i { c with phase := .ended outcome }) :
    CanFinish env t i c outcome := by
  have found : u.clients.get? i = some { c with phase := .ended outcome } := by
    rw [ended, SortedMap.get?_insert_self]
  refine ⟨_, _, .cons step (.cons (.release found rfl) .nil), ?_⟩
  change u.clients.insert i _ = _
  rw [ended, SortedMap.insert_insert]

theorem canFinish_of_step {phase : Phase} {outcome : Outcome BridgeError Receipt}
    (step : t.Step env move u) (put : u.clients = t.clients.insert i { c with phase })
    (h : CanFinish env u i { c with phase } outcome) : CanFinish env t i c outcome := by
  obtain ⟨moves, v, run, hclients⟩ := h
  refine ⟨_, v, .cons step run, ?_⟩
  rw [hclients, put, SortedMap.insert_insert]

/-- No client at work is stuck, whatever the others are at. -/
theorem canFinish {rest : Handler Receipt} {staged : SortedMap Bytes (Option String)}
    (found : t.clients.get? i = some c) (phase : c.phase = .running rest staged) :
    CanFinish env t i c
      (rest.run Transaction.perform (c.overlay t.ledger staged)).outcome := by
  induction rest generalizing t c staged with
  | done => exact canFinish_of_ended (.commit found phase) rfl
  | fail => exact canFinish_of_ended (.fail found phase) rfl
  | halt => exact canFinish_of_ended (.halt found phase) rfl
  | note event next ih =>
    exact canFinish_of_step (.report found phase) rfl (ih (SortedMap.get?_insert_self _ _ _) rfl)
  | access op next ih =>
    simp only [Program.run]
    cases hop : Transaction.perform op (c.overlay t.ledger staged) with
    | error cause =>
      refine canFinish_of_step (.trap found phase hop) rfl ?_
      exact canFinish_of_ended (.halt (SortedMap.get?_insert_self _ _ _) rfl) rfl
    | ok r =>
      obtain ⟨answer, store, access, changes⟩ := r
      obtain rfl : store = t.ledger := Transaction.store_perform hop
      obtain rfl : access = c.access := Transaction.access_perform hop
      exact canFinish_of_step (.access found phase hop) rfl
        (ih answer (SortedMap.get?_insert_self _ _ _) rfl)

end Traffic

/-! ### Two clients -/

namespace Sample

def adding : Client where
  call := .execute provider (.addLiquidity mint 64)
  access := LiquidityAccounts.access ⟨poolAccount, positionAccount⟩
  phase := .running (addLiquidity provider ⟨poolAccount, positionAccount⟩ mint 64) SortedMap.empty

def relating : Client where
  call := .execute admin (.setChainRelation chain ⟨some executor, none, none⟩)
  access := chainRelationAccess .small chainAccount
  phase := .running
    (setChainRelation .small admin chainAccount chain ⟨some executor, none, none⟩) SortedMap.empty

/-- Both have their locks, and neither has made an access. -/
def busy : Traffic :=
  ⟨opened, (LockTable.empty.acquire adding.access).acquire relating.access,
    (SortedMap.empty.insert 0 adding).insert 1 relating⟩

theorem run_busy :
    Traffic.Run .small (.start opened) [⟨0, .acquire⟩, ⟨1, .acquire⟩] busy := by
  have hadding : (Traffic.start opened).Step .small ⟨0, .acquire⟩
      ⟨opened, LockTable.empty.acquire adding.access, SortedMap.empty.insert 0 adding⟩ :=
    .acquire rfl operation_addLiquidity (by decide +kernel)
  exact .cons hadding (.cons (.acquire rfl operation_setChainRelation (by decide +kernel)) .nil)

end Sample

/-- Both finish, the second before the first, and each has its place in the sequence. -/
theorem Traffic.serializable_sample : ∃ moves t turns,
    Run .small (.start Sample.opened) moves t ∧ t.Finished ∧
      (∃ turn ∈ turns, turn.client = 0 ∧ turn.call = Sample.adding.call) ∧
      (∃ turn ∈ turns, turn.client = 1 ∧ turn.call = Sample.relating.call) ∧
      Call.performAll .small (Turn.calls turns) Sample.opened = t.ledger := by
  obtain ⟨outcome, moves, u, run, hu⟩ : ∃ outcome,
      CanFinish .small Sample.busy 1 Sample.relating outcome := ⟨_, canFinish rfl rfl⟩
  have hstill : u.clients.get? 0 = some Sample.adding := by
    rw [hu]
    rfl
  obtain ⟨outcome', moves', t, run', ht⟩ : ∃ outcome,
      CanFinish .small u 0 Sample.adding outcome := ⟨_, canFinish hstill rfl⟩
  have hclients : ∀ i, t.clients.get? i =
      if 0 = i then some { Sample.adding with phase := .finished outcome' }
      else if 1 = i then some { Sample.relating with phase := .finished outcome }
      else none := by
    intro i
    rw [ht, hu, SortedMap.get?_insert, SortedMap.get?_insert]
    split_ifs with h0 h1
    · rfl
    · rfl
    · rw [Sample.busy, SortedMap.get?_insert_of_ne _ _ h1, SortedMap.get?_insert_of_ne _ _ h0]
      rfl
  have finished : t.Finished := by
    intro i c hc
    rw [hclients] at hc
    split_ifs at hc
    · cases hc
      exact ⟨_, rfl⟩
    · cases hc
      exact ⟨_, rfl⟩
  have hrun := Sample.run_busy.trans (run.trans run')
  obtain ⟨turns, hledger, -, -, hmem, -⟩ := serializable hrun finished
  refine ⟨_, t, turns, hrun, finished, ⟨⟨0, Sample.adding.call, outcome'⟩, ?_, rfl, rfl⟩,
    ⟨⟨1, Sample.relating.call, outcome⟩, ?_, rfl, rfl⟩, hledger⟩
  · exact (hmem _).2 ⟨_, hclients 0, rfl, rfl⟩
  · exact (hmem _).2 ⟨_, hclients 1, rfl, rfl⟩

end CustodyBridge
