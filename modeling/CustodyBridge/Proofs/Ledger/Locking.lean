import CustodyBridge.Proofs.Ledger.LockTable

/-!
# Locks granted and given back

A lock table in use: sets are acquired where the table grants them, and those that are held are
given back, in any order. What the table tells of an account is then a count over the held sets.
-/

namespace CustodyBridge

/-! ## Accounts that nobody holds -/

theorem LockState.ofHeld_eq_free {held : List AccessSet} {a : Address} :
    ofHeld held a = .free ↔ ∀ s ∈ held, ¬ s.Declares a := by
  have hstate : ofHeld held a = .free ↔
      (ofHeld held a).readers = 0 ∧ (ofHeld held a).writer = false := by
    cases ofHeld held a
    simp [free]
  rw [hstate, readers_ofHeld, ← Bool.not_eq_true, writer_ofHeld]
  simp only [AccessSet.declares_iff, not_or, not_exists, not_and]
  exact forall₂_and.symm

/-! ## Uses of a table -/

inductive LockUse where
  | acquire (set : AccessSet)
  | release (set : AccessSet)
deriving DecidableEq

namespace LockTable

/-- Uses in a row from the empty table, what they make of it, and the sets that are then held. One
set may be held more than once. -/
inductive Run : List LockUse → LockTable → List AccessSet → Prop where
  | nil : Run [] .empty []
  | acquire {uses : List LockUse} {t : LockTable} {held : List AccessSet} {s : AccessSet}
      (run : Run uses t held) (granted : t.available s = true) :
      Run (uses ++ [.acquire s]) (t.acquire s) (s :: held)
  | release {uses : List LockUse} {t : LockTable} {held : List AccessSet} {s : AccessSet}
      (run : Run uses t held) (is_held : s ∈ held) :
      Run (uses ++ [.release s]) (t.release s) (held.erase s)

/-- What a table tells of an account, which is free if it has no entry. -/
def state (t : LockTable) (a : Address) : LockState := (t.held.get? a).getD .free

/-- What a table should tell of an account while some sets are held. -/
structure Counts (t : LockTable) (held : List AccessSet) (a : Address) : Prop where
  readers : (t.state a).readers = held.countP fun s => s.access? a = some .read
  writer : (t.state a).writer = true ↔ ∃ s ∈ held, s.Writes a
  alone : ∀ s others, held.Perm (s :: others) → s.Writes a → ∀ other ∈ others, ¬ other.Declares a
  entry : t.held.get? a = none ↔ ∀ s ∈ held, ¬ s.Declares a

variable {uses : List LockUse} {t : LockTable} {held : List AccessSet}

/-! ## What every use keeps -/

theorem Run.holds (h : Run uses t held) : t.Holds held := by
  induction h with
  | nil => exact .empty
  | acquire _ granted ih => exact ih.acquire granted
  | release _ is_held ih => exact (ih.perm (List.perm_cons_erase is_held)).release

theorem Holds.counts (h : t.Holds held) (a : Address) : t.Counts held a where
  readers := by
    rw [state, h.getD]
    rfl
  writer := by rw [state, h.getD, LockState.writer_ofHeld]
  alone s others hperm hwrites other hother :=
    ((List.pairwise_cons.1 (h.perm hperm).compatible).1 other hother a).1 hwrites
  entry := by
    rw [h.entry, ← LockState.ofHeld_eq_free]
    split <;> simp_all

theorem Holds.eq_empty (h : t.Holds []) : t = .empty := by
  suffices hheld : t.held = SortedMap.empty by
    cases t
    exact congrArg LockTable.mk hheld
  refine SortedMap.ext_get? fun a => ?_
  rw [h.entry]
  rfl

/-- Whatever was acquired and given back, every account has as many readers, and the one writer, as
the held sets declare for it. So a set is granted exactly where it is compatible with every set that
is held, no two that are held conflict, and nothing is left when all have been given back. -/
theorem locking_exact (h : Run uses t held) :
    (∀ a, t.Counts held a) ∧
    (∀ s, t.available s = true ↔ ∀ other ∈ held, s.Compatible other) ∧
    held.Pairwise AccessSet.Compatible ∧
    (held = [] → t = .empty) := by
  have holds := h.holds
  refine ⟨holds.counts, fun s => holds.available_iff, holds.compatible, ?_⟩
  rintro rfl
  exact holds.eq_empty

end LockTable

/-! ## A table in use -/

namespace Sample

def vault : Address := ⟨Bytes.ofNat 32 90, by simp⟩

def slip : Address := ⟨Bytes.ofNat 32 91, by simp⟩

def looking : AccessSet := AccessSet.empty.declare .read vault

def noting : AccessSet := looking.declare .write slip

def looked : LockTable :=
  (((LockTable.empty.acquire noting).acquire looking).acquire looking).release noting

end Sample

/-- Two readers of an account are left when a third one, which wrote elsewhere, has gone. When they
have gone too, nothing is left. -/
theorem LockTable.locking_exact_sample :
    Run [.acquire Sample.noting, .acquire Sample.looking, .acquire Sample.looking,
        .release Sample.noting] Sample.looked [Sample.looking, Sample.looking] ∧
      (Sample.looked.state Sample.vault).readers = 2 ∧
      Sample.looked.held.get? Sample.slip = none ∧
      (∀ other ∈ [Sample.looking, Sample.looking], Sample.noting.Compatible other) ∧
      (Sample.looked.release Sample.looking).release Sample.looking = .empty := by
  have run : Run [.acquire Sample.noting, .acquire Sample.looking, .acquire Sample.looking,
      .release Sample.noting] Sample.looked [Sample.looking, Sample.looking] := by
    have started := Run.nil.acquire (s := Sample.noting) (by decide +kernel)
    have once := started.acquire (s := Sample.looking) (by decide +kernel)
    have twice := once.acquire (s := Sample.looking) (by decide +kernel)
    exact twice.release (s := Sample.noting) (by decide +kernel)
  have ended := (run.release (s := Sample.looking) (by decide)).release (s := Sample.looking)
    (by decide)
  obtain ⟨counts, available, -, -⟩ := locking_exact run
  refine ⟨run, ?_, ?_, ?_, ?_⟩
  · rw [(counts Sample.vault).readers]
    decide +kernel
  · rw [(counts Sample.slip).entry]
    unfold AccessSet.Declares
    decide +kernel
  · exact (available Sample.noting).1 (by decide +kernel)
  · exact (locking_exact ended).2.2.2 (by decide)

end CustodyBridge
