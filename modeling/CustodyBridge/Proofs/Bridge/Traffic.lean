import CustodyBridge.Bridge.Traffic
import CustodyBridge.Proofs.Bridge.Footprint
import CustodyBridge.Proofs.Ledger.LockTable

/-!
# Clients that do not disturb each other

The locks are those of the clients that hold some, so clients at work declare nothing that another
one writes. Each handler therefore goes on as if its call were made by itself, on the ledger as it
stands.
-/

namespace CustodyBridge

/-! ## Handlers in the middle -/

/-- A handler that, with what it has staged, will end on a ledger as the whole call does. -/
structure Client.Faithful (env : Environment) (c : Client) (l : Ledger) (rest : Handler Receipt)
    (staged : SortedMap Bytes (Option String)) : Prop where
  access : c.call.access env = c.access
  within : rest.Within c.access
  outcome : (rest.run Transaction.perform (c.overlay l staged)).outcome =
    (c.call.perform env l).outcome
  staged : (rest.run Transaction.perform (c.overlay l staged)).state.staged = c.call.staged env l

theorem Call.outcome_of_operation {env : Environment} {c : Call} {op : Operation Receipt}
    {l : Ledger} (hop : c.operation env = .ok op) :
    (c.perform env l).outcome =
      (op.program.run Transaction.perform (Transaction.start op.access l)).outcome := by
  simp only [perform, hop, Operation.transact, Program.transact]
  cases (op.program.run Transaction.perform (Transaction.start op.access l)).outcome <;> rfl

namespace Client.Faithful

variable {env : Environment} {c : Client} {l l' : Ledger} {rest : Handler Receipt}
  {staged : SortedMap Bytes (Option String)}

theorem start {call : Call} {op : Operation Receipt} {phase : Phase}
    (hop : call.operation env = .ok op) :
    Faithful env ⟨call, op.access, phase⟩ l op.program SortedMap.empty where
  access := Call.access_of_operation hop
  within := Call.within_of_operation hop
  outcome := (Call.outcome_of_operation hop).symm
  staged := by
    rw [Call.staged, hop]
    rfl

theorem enter {phase : Phase} (h : c.Faithful env l rest staged) :
    Faithful env { c with phase } l rest staged :=
  ⟨h.access, h.within, h.outcome, h.staged⟩

theorem report {event : Event} {next : Handler Receipt}
    (h : c.Faithful env l (.note event next) staged) : c.Faithful env l next staged :=
  ⟨h.access, h.within, h.outcome, h.staged⟩

theorem performed {op : Op String} {next : op.Answer → Handler Receipt} {answer : op.Answer}
    {tx : Transaction String} (h : c.Faithful env l (.access op next) staged)
    (hop : Transaction.perform op (c.overlay l staged) = .ok (answer, tx)) :
    c.Faithful env l (next answer) tx.staged := by
  obtain ⟨store, access, changes⟩ := tx
  obtain rfl : store = l := Transaction.store_perform hop
  obtain rfl : access = c.access := Transaction.access_perform hop
  obtain ⟨haccess, hwithin, houtcome, hstaged⟩ := h
  simp only [Program.run, hop] at houtcome hstaged
  exact ⟨haccess, hwithin.2 answer, houtcome, hstaged⟩

theorem not_refused {op : Op String} {next : op.Answer → Handler Receipt} {cause : Panic}
    (h : c.Faithful env l (.access op next) staged) :
    Transaction.perform op (c.overlay l staged) ≠ .error cause := by
  have permitted := h.within.permitted
  obtain ⟨answer, left, hop⟩ : ∃ answer left,
      Transaction.perform op (c.overlay l staged) = .ok (answer, left) :=
    Program.perform_of_permitted permitted.1
  rw [hop]
  simp

theorem agree (h : c.Faithful env l rest staged) (agree : c.access.Agree l l') :
    c.Faithful env l' rest staged := by
  obtain ⟨haccess, hwithin, houtcome, hstaged⟩ := h
  have within : rest.Within (c.overlay l staged).access := hwithin
  have hrun := Program.run_rebase within agree
  rw [← haccess] at agree
  obtain ⟨houtcome', -, hstaged'⟩ := Call.perform_agree agree
  have hsame := congrArg Program.Run.outcome hrun
  have hsame' := congrArg (fun run => run.state.staged) hrun
  exact ⟨haccess, hwithin, hsame.trans (houtcome.trans houtcome'.symm),
    hsame'.trans (hstaged.trans hstaged'.symm)⟩

theorem commit {receipt : Receipt} (h : c.Faithful env l (.done receipt) staged) :
    (c.call.perform env l).outcome = .ok receipt ∧
      (c.call.perform env l).state = (c.overlay l staged).commit := by
  have houtcome : (c.call.perform env l).outcome = .ok receipt := h.outcome.symm
  have hstaged : staged = c.call.staged env l := h.staged
  exact ⟨houtcome, by rw [Call.state_eq_applyAll houtcome, ← hstaged]; rfl⟩

theorem drop {outcome : Outcome BridgeError Receipt} (h : c.Faithful env l rest staged)
    (ends : (rest.run Transaction.perform (c.overlay l staged)).outcome = outcome)
    (fails : ∀ receipt, outcome ≠ .ok receipt) :
    (c.call.perform env l).outcome = outcome ∧ (c.call.perform env l).state = l := by
  have houtcome : (c.call.perform env l).outcome = outcome := h.outcome.symm.trans ends
  exact ⟨houtcome, Call.state_of_failure fun r hr => fails r (houtcome.symm.trans hr)⟩

end Client.Faithful

/-! ## Held sets -/

/-- What a client holds locked: what it declares, until it has finished. -/
def Client.held? (c : Client) : Option AccessSet :=
  match c.phase with
  | .running _ _ | .ended _ => some c.access
  | .finished _ => none

namespace Traffic

variable {env : Environment} {t u : Traffic} {i j : Nat} {c d : Client} {move : Move}

/-- What all clients of a map hold locked. -/
def held (clients : SortedMap Nat Client) : List AccessSet :=
  clients.entries.filterMap fun entry => entry.2.held?

theorem held_perm {clients others : SortedMap Nat Client}
    (h : clients.entries.Perm ((i, c) :: others.entries)) :
    (held clients).Perm (c.held?.toList ++ held others) := by
  have hperm := h.filterMap fun entry => entry.2.held?
  rw [List.filterMap_cons] at hperm
  unfold held
  cases hheld : c.held? <;> simpa [hheld] using hperm

theorem held_insert (clients : SortedMap Nat Client) (i : Nat) (c : Client) :
    (held (clients.insert i c)).Perm (c.held?.toList ++ held (clients.erase i)) :=
  held_perm (SortedMap.entries_insert_perm clients i c)

theorem held_of_found {clients : SortedMap Nat Client} (found : clients.get? i = some c) :
    (held clients).Perm (c.held?.toList ++ held (clients.erase i)) :=
  held_perm (SortedMap.entries_perm_of_get? found)

theorem held_insert_of_fresh {clients : SortedMap Nat Client} (fresh : clients.get? i = none) :
    (held (clients.insert i c)).Perm (c.held?.toList ++ held clients) := by
  have hperm := held_insert clients i c
  rwa [SortedMap.erase_eq_self_of_get? fresh] at hperm

/-- The locks are those of the clients that hold some. -/
def Guarded (t : Traffic) : Prop := t.locks.Holds (held t.clients)

theorem guarded_start (ledger : Ledger) : (start ledger).Guarded := .empty

theorem Guarded.put_of_held? (h : t.Guarded) (found : t.clients.get? i = some c)
    (same : d.held? = c.held?) : (t.put i d).Guarded := by
  refine LockTable.Holds.perm h ((held_of_found found).trans ?_)
  rw [← same]
  exact (held_insert t.clients i d).symm

theorem Guarded.step (h : t.Guarded) (step : t.Step env move u) : u.Guarded := by
  cases step with
  | @refuse i call e fresh =>
    have hperm := held_insert_of_fresh (c := ⟨call, .empty, .finished (.error e)⟩) fresh
    exact LockTable.Holds.perm h hperm.symm
  | @acquire i call op fresh _ available =>
    have hperm := held_insert_of_fresh (i := i)
      (c := ⟨call, op.access, .running op.program SortedMap.empty⟩) fresh
    exact (LockTable.Holds.acquire h available).perm hperm.symm
  | report found phase | access found phase | trap found phase | commit found phase
  | fail found phase | halt found phase =>
    refine Guarded.put_of_held? h found ?_
    simp only [Client.held?, phase]
  | @release i c outcome found phase =>
    have hheld : c.held? = some c.access := by simp only [Client.held?, phase]
    have hperm := held_of_found found
    rw [hheld] at hperm
    have hperm' := held_insert t.clients i { c with phase := .finished outcome }
    exact (LockTable.Holds.perm h hperm).release.perm hperm'.symm

theorem Guarded.compatible (h : t.Guarded) (hne : i ≠ j) (found : t.clients.get? i = some c)
    (found' : t.clients.get? j = some d) (hc : c.held? = some c.access)
    (hd : d.held? = some d.access) : c.access.Compatible d.access := by
  have hperm := held_of_found found
  rw [hc] at hperm
  have hcompatible := (LockTable.Holds.perm h hperm).compatible
  refine (List.pairwise_cons.1 hcompatible).1 _ (List.mem_filterMap.2 ⟨(j, d), ?_, hd⟩)
  rw [SortedMap.mem_entries_iff, SortedMap.get?_erase_of_ne _ hne]
  exact found'

/-! ## Handlers at work -/

/-- Every handler at work will end as its call does on the ledger as it stands. -/
def OnCourse (env : Environment) (t : Traffic) : Prop :=
  ∀ i c rest staged, t.clients.get? i = some c → c.phase = .running rest staged →
    c.Faithful env t.ledger rest staged

theorem onCourse_start (env : Environment) (ledger : Ledger) : OnCourse env (start ledger) :=
  fun _ _ _ _ found => by cases found

theorem OnCourse.put (h : OnCourse env t)
    (hc : ∀ rest staged, c.phase = .running rest staged → c.Faithful env t.ledger rest staged) :
    OnCourse env (t.put i c) := by
  intro j d rest staged found phase
  unfold Traffic.put at found
  rw [SortedMap.get?_insert] at found
  split at found
  · cases found
    exact hc rest staged phase
  · exact h j d rest staged found phase

/-- A commit changes what its client has locked for itself, so it disturbs no other handler. -/
theorem OnCourse.commit {receipt : Receipt} {staged : SortedMap Bytes (Option String)}
    (h : OnCourse env t) (guarded : t.Guarded) (found : t.clients.get? i = some c)
    (phase : c.phase = .running (.done receipt) staged) :
    OnCourse env ({ t with ledger := (c.overlay t.ledger staged).commit }.put i
      { c with phase := .ended (.ok receipt) }) := by
  intro j d rest staged' found' phase'
  unfold Traffic.put at found'
  rw [SortedMap.get?_insert] at found'
  split at found'
  · cases found'
    cases phase'
  · rename_i hne
    have hfaithful := h i c _ _ found phase
    refine (h j d rest staged' found' phase').agree fun key a ha => ?_
    have hcompatible := guarded.compatible hne found found' (by simp only [Client.held?, phase])
      (by simp only [Client.held?, phase'])
    have hkept : ¬ (c.call.access env).Writes a := by
      rw [hfaithful.access]
      exact fun hwrites => (hcompatible a).1 hwrites ha
    rw [← Call.get?_of_not_writes hkept, hfaithful.commit.2]
    rfl

theorem OnCourse.step (h : OnCourse env t) (guarded : t.Guarded) (step : t.Step env move u) :
    OnCourse env u := by
  cases step with
  | refuse => exact h.put fun _ _ phase => by cases phase
  | acquire _ operation =>
    refine OnCourse.put h fun rest staged phase => ?_
    cases phase
    exact .start operation
  | report found phase =>
    refine h.put fun rest staged hphase => ?_
    cases hphase
    exact (h _ _ _ _ found phase).report.enter
  | access found phase performed =>
    refine h.put fun rest staged hphase => ?_
    cases hphase
    exact ((h _ _ _ _ found phase).performed performed).enter
  | trap found phase performed => exact absurd performed (h _ _ _ _ found phase).not_refused
  | commit found phase => exact h.commit guarded found phase
  | fail | halt => exact h.put fun _ _ phase => by cases phase
  | release => exact OnCourse.put h fun _ _ phase => by cases phase

end Traffic

end CustodyBridge
