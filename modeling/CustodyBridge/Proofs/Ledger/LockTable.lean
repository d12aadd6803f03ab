import CustodyBridge.Ledger.LockTable
import CustodyBridge.Proofs.Ledger.Permission

/-!
# The lock table and the sets that it has locked

A table stands for the access sets that have been acquired and not yet released. It lets a further
set in when this conflicts with none of them, so the sets held at one time never conflict.
-/

namespace CustodyBridge

/-! ## Conflicts -/

namespace AccessSet

/-- Whether neither set declares what the other declares for writing. -/
def Compatible (s t : AccessSet) : Prop :=
  ∀ a, (s.Writes a → ¬ t.Declares a) ∧ (t.Writes a → ¬ s.Declares a)

variable {s t : AccessSet} {a : Address}

theorem Compatible.symm (h : s.Compatible t) : t.Compatible s := fun a => ⟨(h a).2, (h a).1⟩

theorem Writes.declares (h : s.Writes a) : s.Declares a := by
  rw [Declares, h]
  rfl

theorem compatible_of_disjoint (h : ∀ a, s.Declares a → ¬ t.Declares a) : s.Compatible t :=
  fun a => ⟨fun hwrites => h a hwrites.declares, fun hwrites hdeclares =>
    h a hdeclares hwrites.declares⟩

theorem declares_iff : s.Declares a ↔ s.access? a = some .read ∨ s.Writes a := by
  rw [Declares, Writes]
  cases s.access? a with
  | none => simp
  | some access => cases access <;> simp

end AccessSet

/-! ## What the locks of sets come to -/

/-- The state of an account that the given sets lock. -/
def LockState.ofHeld (held : List AccessSet) (a : Address) : LockState :=
  ⟨held.countP fun s => s.access? a = some .read, held.any fun s => s.access? a = some .write⟩

namespace LockState

variable {held held' : List AccessSet} {s : AccessSet} {a : Address} {access : Access}

theorem acquire_ne_free (state : LockState) (access : Access) : state.acquire access ≠ .free := by
  cases access <;> simp [acquire, free]

theorem ofHeld_cons : ofHeld (s :: held) a =
    (s.access? a).elim (ofHeld held a) (ofHeld held a).acquire := by
  unfold ofHeld
  cases h : s.access? a with
  | none => simp [h]
  | some access => cases access <;> simp [acquire, h]

theorem ofHeld_perm (h : held.Perm held') : ofHeld held a = ofHeld held' a := by
  rw [ofHeld, ofHeld, h.countP_eq, h.any_eq]

theorem writer_ofHeld : (ofHeld held a).writer = true ↔ ∃ s ∈ held, s.Writes a := by
  simp [ofHeld, AccessSet.Writes]

theorem readers_ofHeld :
    (ofHeld held a).readers = 0 ↔ ∀ s ∈ held, s.access? a ≠ some .read := by
  simp [ofHeld, List.countP_eq_zero]

theorem admits_ofHeld : (ofHeld held a).admits access = true ↔
    ∀ s ∈ held, ¬ s.Writes a ∧ (access = .write → ¬ s.Declares a) := by
  have hwriter : (ofHeld held a).writer = false ↔ ∀ s ∈ held, ¬ s.Writes a := by
    rw [← Bool.not_eq_true, writer_ofHeld]
    simp
  cases access with
  | read => simp [admits, hwriter]
  | write =>
    simp only [admits, Bool.and_eq_true, Bool.not_eq_true', beq_iff_eq, hwriter, readers_ofHeld,
      forall_true_left, AccessSet.declares_iff, not_or]
    exact ⟨fun h s hs => ⟨h.1 s hs, h.2 s hs, h.1 s hs⟩,
      fun h => ⟨fun s hs => (h s hs).1, fun s hs => (h s hs).2.1⟩⟩

end LockState

/-! ## Tables of held sets -/

namespace LockTable

variable {t : LockTable} {held held' : List AccessSet} {s : AccessSet} {a : Address}
  {access : Access}

/-! ### The entries of a set, one after another -/

section entries

/-- What a step does to an account of its own; it leaves the others. -/
def Turns (step : LockTable → Address × Access → LockTable)
    (turn : Access → Option LockState → Option LockState) : Prop :=
  ∀ t entry a, (step t entry).held.get? a =
    if entry.1 = a then turn entry.2 (t.held.get? a) else t.held.get? a

variable {step : LockTable → Address × Access → LockTable}
  {turn : Access → Option LockState → Option LockState} {entries : List (Address × Access)}

theorem Turns.foldl_of_not_mem (h : Turns step turn) (hout : ∀ access, (a, access) ∉ entries) :
    (entries.foldl step t).held.get? a = t.held.get? a := by
  induction entries generalizing t with
  | nil => rfl
  | cons entry rest ih =>
    have hne : entry.1 ≠ a := by
      rintro rfl
      exact hout entry.2 List.mem_cons_self
    rw [List.foldl_cons, ih fun access ha => hout access (List.mem_cons_of_mem _ ha), h,
      if_neg hne]

theorem Turns.foldl_of_mem (h : Turns step turn) (ascend : KeysAscend entries)
    (hmem : (a, access) ∈ entries) :
    (entries.foldl step t).held.get? a = turn access (t.held.get? a) := by
  induction entries generalizing t with
  | nil => cases hmem
  | cons entry rest ih =>
    have hrest := List.pairwise_cons.1 ascend
    rw [List.foldl_cons]
    rcases List.mem_cons.1 hmem with rfl | hmem
    · rw [h.foldl_of_not_mem, h, if_pos rfl]
      intro other ha
      simpa using hrest.1 _ ha
    · have hne : entry.1 ≠ a := by
        rintro rfl
        simpa using hrest.1 _ hmem
      rw [ih hrest.2 hmem, h, if_neg hne]

theorem Turns.get?_foldl (h : Turns step turn) :
    (s.accounts.entries.foldl step t).held.get? a =
      (s.access? a).elim (t.held.get? a) (turn · (t.held.get? a)) := by
  cases hget : s.access? a with
  | none => exact h.foldl_of_not_mem (SortedMap.get?_eq_none_iff.1 hget)
  | some access => exact h.foldl_of_mem s.accounts.ascend (SortedMap.mem_entries_iff.2 hget)

end entries

theorem turns_acquireOne : Turns acquireOne
    fun access state => some ((state.getD .free).acquire access) := by
  intro t entry a
  rw [acquireOne, SortedMap.get?_insert]
  split
  · rename_i ha
    rw [ha]
  · rfl

theorem turns_releaseOne : Turns releaseOne fun access state => state.bind fun state =>
    if state.release access = .free then none else some (state.release access) := by
  intro t entry a
  unfold releaseOne
  by_cases ha : entry.1 = a
  · subst ha
    rw [if_pos rfl]
    cases hget : t.held.get? entry.1 with
    | none => simpa using hget
    | some state =>
      by_cases hfree : state.release entry.2 = .free <;> simp [hfree]
  · rw [if_neg ha]
    cases t.held.get? entry.1 with
    | none => rfl
    | some state =>
      by_cases hfree : state.release entry.2 = .free
      · simp [hfree, SortedMap.get?_erase_of_ne _ ha]
      · simp [hfree, SortedMap.get?_insert_of_ne _ _ ha]

theorem get?_acquire : (t.acquire s).held.get? a = (s.access? a).elim (t.held.get? a)
    fun access => some (((t.held.get? a).getD .free).acquire access) :=
  turns_acquireOne.get?_foldl

theorem get?_release : (t.release s).held.get? a = (s.access? a).elim (t.held.get? a)
    fun access => (t.held.get? a).bind fun state =>
      if state.release access = .free then none else some (state.release access) :=
  turns_releaseOne.get?_foldl

/-! ### Held sets -/

/-- A table that has locked exactly the given sets, no two of which conflict. An account that is
free has no entry. -/
structure Holds (t : LockTable) (held : List AccessSet) : Prop where
  compatible : held.Pairwise AccessSet.Compatible
  entry : ∀ a, t.held.get? a =
    if LockState.ofHeld held a = .free then none else some (LockState.ofHeld held a)

namespace Holds

theorem empty : LockTable.empty.Holds [] := ⟨.nil, fun _ => rfl⟩

theorem perm (h : t.Holds held) (hperm : held.Perm held') : t.Holds held' := by
  refine ⟨h.compatible.perm hperm AccessSet.Compatible.symm, fun a => ?_⟩
  rw [← LockState.ofHeld_perm hperm]
  exact h.entry a

theorem getD (h : t.Holds held) (a : Address) :
    (t.held.get? a).getD .free = LockState.ofHeld held a := by
  rw [h.entry]
  split
  · rename_i hfree
    exact hfree.symm
  · rfl

theorem admits (h : t.Holds held) : (t.held.get? a).all (·.admits access) = true ↔
    (LockState.ofHeld held a).admits access = true := by
  rw [h.entry]
  split
  · rename_i hfree
    rw [hfree]
    cases access <;> simp [LockState.free, LockState.admits]
  · rfl

theorem available_iff (h : t.Holds held) :
    t.available s = true ↔ ∀ other ∈ held, s.Compatible other := by
  simp only [available, List.all_eq_true, h.admits, LockState.admits_ofHeld]
  constructor
  · intro hadmits other hother a
    have hentry : ∀ access, s.access? a = some access →
        ¬ other.Writes a ∧ (access = .write → ¬ other.Declares a) := fun access haccess =>
      hadmits (a, access) (SortedMap.mem_entries_iff.2 haccess) other hother
    refine ⟨fun hwrites => (hentry _ hwrites).2 rfl, fun hother hdeclares => ?_⟩
    obtain ⟨access, haccess⟩ := Option.isSome_iff_exists.1 hdeclares
    exact (hentry access haccess).1 hother
  · rintro hcompatible ⟨a, access⟩ hentry other hother
    have haccess : s.access? a = some access := SortedMap.mem_entries_iff.1 hentry
    have hdeclares : s.Declares a := Option.isSome_iff_exists.2 ⟨access, haccess⟩
    refine ⟨fun hwrites => (hcompatible other hother a).2 hwrites hdeclares, ?_⟩
    rintro rfl
    exact (hcompatible other hother a).1 haccess

theorem acquire (h : t.Holds held) (available : t.available s = true) :
    (t.acquire s).Holds (s :: held) := by
  refine ⟨List.pairwise_cons.2 ⟨h.available_iff.1 available, h.compatible⟩, fun a => ?_⟩
  rw [get?_acquire, h.getD, LockState.ofHeld_cons]
  cases s.access? a with
  | none => exact h.entry a
  | some access =>
    rw [Option.elim_some, Option.elim_some, if_neg (LockState.acquire_ne_free _ _)]

theorem release_acquire (h : (s :: held).Pairwise AccessSet.Compatible)
    (haccess : s.access? a = some access) :
    ((LockState.ofHeld held a).acquire access).release access = LockState.ofHeld held a := by
  cases access with
  | read => rfl
  | write =>
    -- Nobody else writes an account that the set has for itself.
    have hwriter : (LockState.ofHeld held a).writer = false := by
      rw [← Bool.not_eq_true, LockState.writer_ofHeld]
      rintro ⟨other, hother, hwrites⟩
      exact ((List.pairwise_cons.1 h).1 other hother a).1 haccess hwrites.declares
    simp only [LockState.acquire, LockState.release]
    rw [← hwriter]

theorem release (h : t.Holds (s :: held)) : (t.release s).Holds held := by
  refine ⟨(List.pairwise_cons.1 h.compatible).2, fun a => ?_⟩
  rw [get?_release, h.entry, LockState.ofHeld_cons]
  cases haccess : s.access? a with
  | none => rfl
  | some access =>
    rw [Option.elim_some, Option.elim_some, if_neg (LockState.acquire_ne_free _ _),
      Option.bind_some, release_acquire h.compatible haccess]

end Holds

end LockTable

end CustodyBridge
