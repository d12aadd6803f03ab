import CustodyBridge.Ledger.Transaction
import CustodyBridge.SortedMap.Lemmas
import Mathlib.Data.List.Basic

/-!
# A transaction is a run on a copy

A program that only writes where it may gets from a transaction the answers that it would get from
the store itself, and what the transaction commits is the store that it would leave.
-/

namespace CustodyBridge

namespace Transaction

variable {ν : Type}

/-! ## Staged changes made -/

theorem get?_applyOne (s : Store ν) (change : Bytes × Option ν) (key : Bytes) :
    (applyOne s change).get? key = if change.1 = key then change.2 else s.get? key := by
  obtain ⟨k, v?⟩ := change
  cases v? with
  | none => exact SortedMap.get?_erase s k key
  | some v => exact SortedMap.get?_insert s k key v

theorem get?_applyAll_of_not_mem (s : Store ν) {changes : List (Bytes × Option ν)} {key : Bytes}
    (h : ∀ change, (key, change) ∉ changes) : (applyAll s changes).get? key = s.get? key := by
  induction changes generalizing s with
  | nil => rfl
  | cons change rest ih =>
    have hne : change.1 ≠ key := by
      rintro rfl
      exact h change.2 List.mem_cons_self
    rw [applyAll, List.foldl_cons, ← applyAll,
      ih _ fun c hc => h c (List.mem_cons_of_mem _ hc), get?_applyOne, if_neg hne]

theorem get?_applyAll_of_mem (s : Store ν) {changes : List (Bytes × Option ν)} {key : Bytes}
    {change : Option ν} (ascend : KeysAscend changes) (h : (key, change) ∈ changes) :
    (applyAll s changes).get? key = change := by
  induction changes generalizing s with
  | nil => cases h
  | cons first rest ih =>
    have hrest := List.pairwise_cons.1 ascend
    rw [applyAll, List.foldl_cons, ← applyAll]
    rcases List.mem_cons.1 h with rfl | h
    · rw [get?_applyAll_of_not_mem, get?_applyOne, if_pos rfl]
      intro c hc
      simpa using hrest.1 _ hc
    · exact ih _ hrest.2 h

theorem get?_applyAll (s : Store ν) (changes : SortedMap Bytes (Option ν)) (key : Bytes) :
    (applyAll s changes.entries).get? key = (changes.get? key).getD (s.get? key) := by
  cases h : changes.get? key with
  | none => exact get?_applyAll_of_not_mem s (SortedMap.get?_eq_none_iff.1 h)
  | some change =>
    exact get?_applyAll_of_mem s changes.ascend (SortedMap.mem_entries_iff.2 h)

theorem get?_commit (tx : Transaction ν) (key : Bytes) : tx.commit.get? key = tx.get key := by
  rw [commit, get?_applyAll, get]
  cases tx.staged.get? key <;> rfl

theorem commit_start (access : AccessSet) (s : Store ν) : (start access s).commit = s := rfl

theorem commit_stage (tx : Transaction ν) (key : Bytes) (change : Option ν) :
    (tx.stage key change).commit = applyOne tx.commit (key, change) := by
  apply SortedMap.ext_get?
  intro k
  rw [get?_applyOne, get?_commit, get?_commit, get, stage, get]
  dsimp only
  rw [SortedMap.get?_insert]
  by_cases hk : key = k
  · rw [if_pos hk, if_pos hk]
  · rw [if_neg hk, if_neg hk]

theorem range_eq (tx : Transaction ν) (start stop : Option Bytes) :
    tx.range start stop = tx.commit.range start stop := by
  have hmaps : applyAll (tx.store.filter fun e => SortedMap.inRange start stop e.1)
      (tx.staged.filter fun e => SortedMap.inRange start stop e.1).entries =
      tx.commit.filter fun e => SortedMap.inRange start stop e.1 := by
    apply SortedMap.ext_get?
    intro key
    rw [get?_applyAll, SortedMap.get?_filter, SortedMap.get?_filter, SortedMap.get?_filter, commit,
      get?_applyAll]
    cases hin : SortedMap.inRange start stop key <;> cases tx.staged.get? key with
    | none => simp
    | some change => cases change <;> cases tx.store.get? key <;> simp [Option.filter, hin]
  exact congrArg SortedMap.entries hmaps

/-! ## Accesses -/

theorem perform_eq_ok {tx left : Transaction ν} {op : Op ν} {answer : op.Answer}
    (h : perform op tx = .ok (answer, left)) :
    Store.perform op tx.commit = (answer, left.commit) := by
  cases op with
  | get key =>
    cases h
    simp only [Store.perform, get?_commit]
  | range start stop order =>
    cases h
    simp only [Store.perform, range_eq]
  | set key value =>
    simp only [perform] at h
    split at h
    · cases h
      simp only [Store.perform, commit_stage]
      rfl
    · cases h
  | remove key =>
    simp only [perform] at h
    split at h
    · cases h
      simp only [Store.perform, commit_stage]
      rfl
    · cases h

theorem access_perform {tx left : Transaction ν} {op : Op ν} {answer : op.Answer}
    (h : perform op tx = .ok (answer, left)) : left.access = tx.access := by
  cases op <;> simp only [perform] at h
  case get | range => cases h; rfl
  case set | remove => split at h <;> cases h; rfl

end Transaction

/-! ## Programs that write where they may -/

namespace Op

/-- The key that an access changes. -/
def changes? {ν : Type} : Op ν → Option Bytes
  | set key _ | remove key => some key
  | get _ | range _ _ _ => none

end Op

namespace Program

variable {ν ε α β : Type}

/-- A program that changes only what an access set permits, whatever it is answered. -/
def Permitted (access : AccessSet) : Program ν ε α → Prop
  | done _ | fail _ | halt _ => True
  | note _ next => next.Permitted access
  | .access op next =>
    (∀ key ∈ op.changes?, access.permitsWrite key = true) ∧
      ∀ answer, (next answer).Permitted access

theorem perform_of_permitted {tx : Transaction ν} {op : Op ν}
    (h : ∀ key ∈ op.changes?, tx.access.permitsWrite key = true) :
    ∃ answer left, Transaction.perform op tx = .ok (answer, left) := by
  cases op with
  | get | range => exact ⟨_, _, rfl⟩
  | set key value =>
    have hkey := h key rfl
    exact ⟨(), tx.stage key (some value), by simp only [Transaction.perform, hkey, ↓reduceIte]⟩
  | remove key =>
    have hkey := h key rfl
    exact ⟨(), tx.stage key none, by simp only [Transaction.perform, hkey, ↓reduceIte]⟩

/-! ## The accesses of a run -/

/-- The accesses of a run on a store itself. -/
def answersOn (p : Program ν ε α) (s : Store ν) : List ((op : Op ν) × op.Answer) :=
  p.answers (fun op t => .ok (Store.perform op t)) s

end Program

/-- A copy of a store on which given accesses have been made, one after the other. -/
def Store.after {ν : Type} (s : Store ν) (steps : List ((op : Op ν) × op.Answer)) : Store ν :=
  steps.foldl (fun t step => (Store.perform step.1 t).2) s

/-- An access set that declares all that given accesses change. -/
def AccessSet.Covers {ν : Type} (access : AccessSet) (steps : List ((op : Op ν) × op.Answer)) :
    Prop :=
  ∀ step ∈ steps, ∀ key ∈ step.1.changes?, access.permitsWrite key = true

instance {ν : Type} {access : AccessSet} {steps : List ((op : Op ν) × op.Answer)} :
    Decidable (access.Covers steps) :=
  inferInstanceAs (Decidable (∀ step ∈ steps, _))

theorem AccessSet.covers_cons {ν : Type} {access : AccessSet} {step : (op : Op ν) × op.Answer}
    {rest : List ((op : Op ν) × op.Answer)} :
    access.Covers (step :: rest) ↔
      (∀ key ∈ step.1.changes?, access.permitsWrite key = true) ∧ access.Covers rest :=
  List.forall_mem_cons

namespace Program

variable {ν ε α : Type}

theorem answersOn_access (op : Op ν) (next : op.Answer → Program ν ε α) (s : Store ν) :
    (Program.access op next).answersOn s =
      ⟨op, (Store.perform op s).1⟩ ::
        (next (Store.perform op s).1).answersOn (Store.perform op s).2 :=
  rfl

theorem Permitted.covers {p : Program ν ε α} {access : AccessSet} (h : p.Permitted access)
    (s : Store ν) : access.Covers (p.answersOn s) := by
  induction p generalizing s with
  | done | fail | halt =>
    intro step hstep
    cases hstep
  | note event next ih => exact ih h s
  | access op next ih =>
    rw [answersOn_access, AccessSet.covers_cons]
    exact ⟨h.1, ih _ (h.2 _) _⟩

theorem state_runOn (p : Program ν ε α) (s : Store ν) :
    (p.runOn s).state = s.after (p.answersOn s) := by
  induction p generalizing s with
  | done | fail | halt => rfl
  | note event next ih => exact ih s
  | access op next ih => exact ih _ _

theorem answer_of_answersOn {p : Program ν ε α} {s : Store ν} {op : Op ν} {answer : op.Answer}
    {earlier later : List ((op : Op ν) × op.Answer)}
    (h : p.answersOn s = earlier ++ ⟨op, answer⟩ :: later) :
    answer = (Store.perform op (s.after earlier)).1 := by
  induction p generalizing s earlier with
  | done | fail | halt =>
    have hlength := congrArg List.length h
    simp [answersOn, answers] at hlength
  | note event next ih => exact ih h
  | access first next ih =>
    rw [answersOn_access] at h
    cases earlier with
    | nil =>
      cases h
      rfl
    | cons step earlier =>
      obtain ⟨rfl, hrest⟩ := List.cons.inj h
      have hanswer := ih _ hrest
      exact hanswer

/-- A transaction takes every access that a run on the store with all changes takes, with the same
answers. -/
theorem run_transaction (p : Program ν ε α) (tx : Transaction ν)
    (h : tx.access.Covers (p.answersOn tx.commit)) :
    p.answers Transaction.perform tx = p.answersOn tx.commit ∧
      (p.run Transaction.perform tx).outcome = (p.runOn tx.commit).outcome ∧
      (p.run Transaction.perform tx).state.commit = (p.runOn tx.commit).state := by
  induction p generalizing tx with
  | done | fail | halt => exact ⟨rfl, rfl, rfl⟩
  | note event next ih => exact ih tx h
  | access op next ih =>
    rw [answersOn_access, AccessSet.covers_cons] at h
    obtain ⟨hop, hrest⟩ := h
    obtain ⟨answer, left, hleft⟩ := perform_of_permitted hop
    have hstore := Transaction.perform_eq_ok hleft
    rw [hstore, ← Transaction.access_perform hleft] at hrest
    obtain ⟨hanswers, houtcome, hstate⟩ := ih answer left hrest
    simp only [answersOn, answers, runOn, run, hleft, hstore] at hanswers houtcome hstate ⊢
    exact ⟨by rw [hanswers], houtcome, hstate⟩

/-! ## Outcomes of runs on a store -/

/-- What a run on a store comes to: the answer with the store that is left, without reports. -/
def exec (p : Program ν ε α) (s : Store ν) : Outcome ε (α × Store ν) :=
  let r := p.runOn s
  r.outcome.map fun a => (a, r.state)

end Program

def Outcome.stateOr {ε α σ : Type} : Outcome ε (α × σ) → σ → σ
  | ok (_, left), _ => left
  | error _, s | panic _, s => s

namespace Program

variable {ν ε α : Type}

/-! ## Commit and rollback -/

theorem outcome_transact (p : Program ν ε α) (access : AccessSet) (s : Store ν) :
    (p.transact access s).outcome =
      (p.run Transaction.perform (Transaction.start access s)).outcome := by
  unfold transact
  dsimp only
  cases (p.run Transaction.perform (Transaction.start access s)).outcome <;> rfl

theorem state_transact_of_ok {p : Program ν ε α} {access : AccessSet} {s : Store ν} {a : α}
    (h : (p.transact access s).outcome = .ok a) :
    (p.transact access s).state =
      (p.run Transaction.perform (Transaction.start access s)).state.commit := by
  rw [outcome_transact] at h
  simp [transact, h]

theorem state_transact_of_ne_ok {p : Program ν ε α} {access : AccessSet} {s : Store ν}
    (h : ∀ a, (p.transact access s).outcome ≠ .ok a) : (p.transact access s).state = s := by
  rw [outcome_transact] at h
  unfold transact
  dsimp only
  cases hr : (p.run Transaction.perform (Transaction.start access s)).outcome with
  | ok a => exact absurd hr (h a)
  | error e => rfl
  | panic cause => rfl

theorem transact_eq (p : Program ν ε α) {access : AccessSet} (s : Store ν)
    (h : p.Permitted access) :
    (p.transact access s).outcome = (p.exec s).map Prod.fst ∧
      (p.transact access s).state = (p.exec s).stateOr s := by
  obtain ⟨-, houtcome, hstate⟩ := run_transaction p (Transaction.start access s) (h.covers s)
  rw [Transaction.commit_start] at houtcome hstate
  have htransact := outcome_transact p access s
  rw [houtcome] at htransact
  unfold exec
  dsimp only
  cases hr : (p.runOn s).outcome with
  | ok a =>
    rw [hr] at htransact
    exact ⟨htransact, (state_transact_of_ok htransact).trans hstate⟩
  | error e | panic cause =>
    rw [hr] at htransact
    refine ⟨htransact, state_transact_of_ne_ok fun a ha => ?_⟩
    rw [htransact] at ha
    cases ha

/-- A transaction is a run on a private copy of the store on which every write is made at once. Each
access is answered by the copy that has all earlier accesses behind it; success leaves the copy as
the store, and failure leaves the store as it was. -/
theorem transact_refines (p : Program ν ε α) (access : AccessSet) (s : Store ν)
    (covered : access.Covers (p.answersOn s)) :
    let steps := p.answers Transaction.perform (Transaction.start access s)
    let r := p.transact access s
    steps = p.answersOn s ∧
    (∀ earlier op answer later, steps = earlier ++ ⟨op, answer⟩ :: later →
      answer = (Store.perform op (s.after earlier)).1) ∧
    r.outcome = (p.runOn s).outcome ∧
    (∀ a, r.outcome = .ok a → r.state = s.after steps) ∧
    ∀ e, r.outcome = .error e → r.state = s := by
  obtain ⟨hsteps, houtcome, hcommit⟩ := run_transaction p (Transaction.start access s) covered
  rw [Transaction.commit_start] at hsteps houtcome hcommit
  dsimp only
  rw [hsteps]
  refine ⟨rfl, ?_, ?_, ?_, ?_⟩
  · intro earlier op answer later h
    exact answer_of_answersOn h
  · rw [outcome_transact, houtcome]
  · intro a ha
    rw [state_transact_of_ok ha, hcommit, state_runOn]
  · intro e he
    apply state_transact_of_ne_ok
    simp [he]

end Program

/-! ## A transaction -/

namespace Sample

def slot (n : UInt8) : Bytes := n :: Address.zero.bytes

def shelf : Store String :=
  (SortedMap.empty.insert (slot 2) "two").insert (slot 3) "three"

def shelfAccess : AccessSet := AccessSet.empty.declare .write Address.zero

/-- Moves an entry, puts another one in its place and removes one that is not there. One of the
scans in between has its end before its start. -/
def tidying : Program String Unit (List (Bytes × String)) := do
  let found ← Program.get (slot 2)
  Program.remove (slot 2)
  Program.set (slot 1) (found.getD "none")
  let rows ← Program.range none (some (slot 3)) .descending
  Program.set (slot 2) (if rows.length = 1 then "one row" else "other rows")
  Program.remove (slot 7)
  let inverted ← Program.range (some (slot 3)) (some (slot 1)) .ascending
  let all ← Program.range (some (slot 1)) none .descending
  return inverted ++ all

def tidied : Store String :=
  ((SortedMap.empty.insert (slot 1) "two").insert (slot 2) "one row").insert (slot 3) "three"

end Sample

theorem Program.transact_refines_tidying :
    let r := Sample.tidying.transact Sample.shelfAccess Sample.shelf
    Sample.shelfAccess.Covers (Sample.tidying.answersOn Sample.shelf) ∧
      r.outcome = .ok [(Sample.slot 3, "three"), (Sample.slot 2, "one row"),
        (Sample.slot 1, "two")] ∧ r.state = Sample.tidied := by
  intro r
  have covered : Sample.shelfAccess.Covers (Sample.tidying.answersOn Sample.shelf) := by
    decide +kernel
  obtain ⟨hsteps, -, houtcome, hok, -⟩ :=
    transact_refines Sample.tidying Sample.shelfAccess Sample.shelf covered
  have hrun : (Sample.tidying.runOn Sample.shelf).outcome = .ok [(Sample.slot 3, "three"),
      (Sample.slot 2, "one row"), (Sample.slot 1, "two")] := by decide +kernel
  have hcopy : Sample.shelf.after (Sample.tidying.answersOn Sample.shelf) = Sample.tidied := by
    decide +kernel
  rw [hrun] at houtcome
  refine ⟨covered, houtcome, ?_⟩
  rw [← hcopy, ← hsteps]
  exact hok _ houtcome

end CustodyBridge
