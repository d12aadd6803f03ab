/-!
# Sorted maps

Maps as association lists in strictly ascending key order, so that two maps with the same entries
are the same map.
-/

namespace CustodyBridge

/-- The keys ascend strictly. -/
def KeysAscend {κ ν : Type} [Ord κ] (entries : List (κ × ν)) : Prop :=
  entries.Pairwise fun a b => compare a.1 b.1 = .lt

/-- The entries of a map, each with a key that is greater than the one before. -/
structure SortedMap (κ ν : Type) [Ord κ] where
  entries : List (κ × ν)
  ascend : KeysAscend entries

namespace SortedMap

variable {κ ν : Type} [Ord κ]

theorem ext_entries {m n : SortedMap κ ν} (h : m.entries = n.entries) : m = n := by
  cases m; cases n; simp_all

instance [DecidableEq κ] [DecidableEq ν] : DecidableEq (SortedMap κ ν) := fun m n =>
  if h : m.entries = n.entries then isTrue (ext_entries h)
  else isFalse fun e => h (congrArg entries e)

def empty : SortedMap κ ν := ⟨[], List.Pairwise.nil⟩

instance : Inhabited (SortedMap κ ν) := ⟨empty⟩

/-! ## Reading -/

def get? (m : SortedMap κ ν) (k : κ) : Option ν :=
  (m.entries.find? fun e => compare e.1 k == .eq).map (·.2)

def size (m : SortedMap κ ν) : Nat := m.entries.length

def isEmpty (m : SortedMap κ ν) : Bool := m.entries.isEmpty

/-- Whether a key lies in the interval from `start`, included, to `stop`, excluded. -/
def inRange (start stop : Option κ) (k : κ) : Bool :=
  start.all (compare · k != .gt) && stop.all (compare k · == .lt)

/-- The entries with keys from `start`, included, to `stop`, excluded, in ascending order. -/
def range (m : SortedMap κ ν) (start stop : Option κ) : List (κ × ν) :=
  m.entries.filter fun e => inRange start stop e.1

/-! ## Taking out -/

theorem KeysAscend.filter (p : κ × ν → Bool) {entries : List (κ × ν)}
    (h : KeysAscend entries) : KeysAscend (entries.filter p) :=
  List.Pairwise.filter p h

def filter (m : SortedMap κ ν) (p : κ × ν → Bool) : SortedMap κ ν :=
  ⟨m.entries.filter p, KeysAscend.filter p m.ascend⟩

def erase (m : SortedMap κ ν) (k : κ) : SortedMap κ ν :=
  m.filter fun e => compare e.1 k != .eq

/-! ## Putting in -/

/-- Puts an entry at its place; an entry with the same key gives way. -/
def insertEntry (k : κ) (v : ν) : List (κ × ν) → List (κ × ν)
  | [] => [(k, v)]
  | e :: rest =>
    match compare k e.1 with
    | .lt => (k, v) :: e :: rest
    | .eq => (k, v) :: rest
    | .gt => e :: insertEntry k v rest

theorem mem_insertEntry {k : κ} {v : ν} {a : κ × ν} {entries : List (κ × ν)}
    (h : a ∈ insertEntry k v entries) : a = (k, v) ∨ a ∈ entries := by
  induction entries with
  | nil => simpa [insertEntry] using h
  | cons e rest ih =>
    rw [insertEntry] at h
    split at h
    · simpa using h
    · rcases List.mem_cons.1 h with h | h
      · exact .inl h
      · exact .inr (List.mem_cons_of_mem _ h)
    · rcases List.mem_cons.1 h with h | h
      · exact .inr (h ▸ List.mem_cons_self)
      · exact (ih h).imp_right (List.mem_cons_of_mem _)

variable [Std.TransOrd κ] [Std.LawfulEqOrd κ]

theorem KeysAscend.insertEntry (k : κ) (v : ν) {entries : List (κ × ν)}
    (h : KeysAscend entries) : KeysAscend (insertEntry k v entries) := by
  induction entries with
  | nil => exact List.pairwise_singleton _ _
  | cons e rest ih =>
    have hrest := List.pairwise_cons.1 h
    rw [SortedMap.insertEntry]
    split
    · rename_i hlt
      refine List.pairwise_cons.2 ⟨fun a ha => ?_, h⟩
      rcases List.mem_cons.1 ha with rfl | ha
      · exact hlt
      · exact Std.TransCmp.lt_trans hlt (hrest.1 a ha)
    · rename_i heq
      have hk := Std.LawfulEqOrd.eq_of_compare heq
      subst hk
      exact List.pairwise_cons.2 ⟨hrest.1, hrest.2⟩
    · rename_i hgt
      refine List.pairwise_cons.2 ⟨fun a ha => ?_, ih hrest.2⟩
      rcases mem_insertEntry ha with rfl | ha
      · exact Std.OrientedCmp.gt_iff_lt.1 hgt
      · exact hrest.1 a ha

def insert (m : SortedMap κ ν) (k : κ) (v : ν) : SortedMap κ ν :=
  ⟨insertEntry k v m.entries, KeysAscend.insertEntry k v m.ascend⟩

end SortedMap

end CustodyBridge
