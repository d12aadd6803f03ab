import CustodyBridge.Event
import CustodyBridge.SortedMap.Basic

/-!
# Programs over a store

A program accesses an ordered store step by step, and each step may depend on the answers so far.
What an access does is left to the one who runs the program.
-/

namespace CustodyBridge

/-! ## Accesses -/

inductive Order where
  | ascending
  | descending
deriving DecidableEq

/-- One access to a store that maps byte strings to values. -/
inductive Op (ν : Type) where
  | get (key : Bytes)
  | range (start stop : Option Bytes) (order : Order)
  | set (key : Bytes) (value : ν)
  | remove (key : Bytes)

/-- What an access answers. -/
@[reducible] def Op.Answer {ν : Type} : Op ν → Type
  | .get _ => Option ν
  | .range _ _ _ => List (Bytes × ν)
  | .set _ _ => Unit
  | .remove _ => Unit

/-! ## Outcomes -/

/-- A step that must never be taken. -/
inductive Panic where
  | undeclaredWrite
  | undeclaredRemove
  | subtraction
deriving DecidableEq

def Panic.message : Panic → String
  | .undeclaredWrite => "write to an account not declared writable"
  | .undeclaredRemove => "remove from an account not declared writable"
  | .subtraction => "attempt to subtract with overflow"

/-- An operation ends well, or with an error for the caller, or breaks off. -/
inductive Outcome (ε α : Type) where
  | ok (a : α)
  | error (e : ε)
  | panic (p : Panic)
deriving DecidableEq

namespace Outcome

variable {ε α β : Type}

def bind : Outcome ε α → (α → Outcome ε β) → Outcome ε β
  | ok a, f => f a
  | error e, _ => error e
  | panic p, _ => panic p

instance : Monad (Outcome ε) where
  pure := ok
  bind := bind

def ofExcept : Except ε α → Outcome ε α
  | .ok a => ok a
  | .error e => error e

def map (f : α → β) : Outcome ε α → Outcome ε β
  | ok a => ok (f a)
  | error e => error e
  | panic p => panic p

/-- The value that is there, and an error otherwise. -/
def require (a? : Option α) (e : ε) : Outcome ε α :=
  match a? with
  | some a => ok a
  | none => error e

end Outcome

/-! ## Programs -/

/-- What an operation does to the store, step by step, and what it reports meanwhile. -/
inductive Program (ν ε α : Type) where
  | done (a : α)
  | fail (e : ε)
  | halt (p : Panic)
  | note (event : Event) (next : Program ν ε α)
  | access (op : Op ν) (next : op.Answer → Program ν ε α)

namespace Program

variable {ν ε α β : Type}

def bind (p : Program ν ε α) (f : α → Program ν ε β) : Program ν ε β :=
  match p with
  | done a => f a
  | fail e => fail e
  | halt p => halt p
  | note event next => note event (next.bind f)
  | access op next => access op fun answer => (next answer).bind f

instance : Monad (Program ν ε) where
  pure := done
  bind := bind

theorem bind_done (p : Program ν ε α) : p.bind done = p := by
  induction p with
  | done | fail | halt => rfl
  | note event next ih => simp [bind, ih]
  | access op next ih => simp [bind, ih]

theorem bind_assoc {γ : Type} (p : Program ν ε α) (f : α → Program ν ε β)
    (g : β → Program ν ε γ) : (p.bind f).bind g = p.bind fun a => (f a).bind g := by
  induction p with
  | done | fail | halt => rfl
  | note event next ih => simp [bind, ih]
  | access op next ih => simp [bind, ih]

instance : LawfulMonad (Program ν ε) :=
  LawfulMonad.mk' (Program ν ε) bind_done (fun _ _ => rfl) bind_assoc

def get (key : Bytes) : Program ν ε (Option ν) := access (.get key) done

def range (start stop : Option Bytes) (order : Order) : Program ν ε (List (Bytes × ν)) :=
  access (.range start stop order) done

def set (key : Bytes) (value : ν) : Program ν ε Unit := access (.set key value) done

def remove (key : Bytes) : Program ν ε Unit := access (.remove key) done

def report (event : Event) : Program ν ε Unit := note event (done ())

/-- Goes on with the value that is there, and fails otherwise. -/
def require (a? : Option α) (e : ε) : Program ν ε α :=
  match a? with
  | some a => done a
  | none => fail e

def ofExcept : Except ε α → Program ν ε α
  | .ok a => done a
  | .error e => fail e

def ofOutcome : Outcome ε α → Program ν ε α
  | .ok a => done a
  | .error e => fail e
  | .panic p => halt p

/-! ## Running -/

/-- How a run ended, the state it left, and what it reported. -/
structure Run (ε α σ : Type) where
  outcome : Outcome ε α
  state : σ
  events : List Event

/-- Runs a program on states of any kind that tell what an access answers and leaves. -/
def run {σ : Type} (perform : (op : Op ν) → σ → Except Panic (op.Answer × σ)) :
    Program ν ε α → σ → Run ε α σ
  | done a, s => ⟨.ok a, s, []⟩
  | fail e, s => ⟨.error e, s, []⟩
  | halt p, s => ⟨.panic p, s, []⟩
  | note event next, s =>
    let rest := next.run perform s
    { rest with events := event :: rest.events }
  | access op next, s =>
    match perform op s with
    | .ok (answer, left) => (next answer).run perform left
    | .error p => ⟨.panic p, s, []⟩

/-- A program in two parts: the second runs where the first has succeeded. -/
theorem run_bind {σ : Type} (perform : (op : Op ν) → σ → Except Panic (op.Answer × σ))
    (p : Program ν ε α) (f : α → Program ν ε β) (s : σ) :
    (p.bind f).run perform s =
      let r := p.run perform s
      match r.outcome with
      | .ok a =>
        let rest := (f a).run perform r.state
        { rest with events := r.events ++ rest.events }
      | .error e => ⟨.error e, r.state, r.events⟩
      | .panic p => ⟨.panic p, r.state, r.events⟩ := by
  induction p generalizing s with
  | done | fail | halt => rfl
  | note event next ih =>
    simp only [bind, run, ih]
    split <;> simp
  | access op next ih =>
    simp only [bind, run]
    split
    · exact ih _ _
    · rfl

/-- The accesses of a run, in order, with what each was answered. -/
def answers {σ : Type} (perform : (op : Op ν) → σ → Except Panic (op.Answer × σ)) :
    Program ν ε α → σ → List ((op : Op ν) × op.Answer)
  | done _, _ | fail _, _ | halt _, _ => []
  | note _ next, s => next.answers perform s
  | access op next, s =>
    match perform op s with
    | .ok (answer, left) => ⟨op, answer⟩ :: (next answer).answers perform left
    | .error _ => []

/-- Given accesses, one after the other. -/
def ofOps : List (Op ν) → Program ν ε Unit
  | [] => done ()
  | op :: rest => access op fun _ => ofOps rest

end Program

end CustodyBridge
