import CustodyBridge.Proofs.Record.Ledger
import Mathlib.Logic.Relation

/-!
# Updates that may change places

An update makes of one record what a function makes of it. Updates of different records may follow
each other in either order, and those of one record if their functions may.
-/

namespace CustodyBridge

/-! ## Steps that pass each other -/

/-- A step of one relation behind one of another can be taken first, to the same end. -/
def Passes {α : Type} (R S : α → α → Prop) : Prop :=
  ∀ ⦃x y z⦄, R x y → S y z → ∃ y', S x y' ∧ R y' z

namespace Passes

variable {α β : Type} {R S T : α → α → Prop}

theorem comp_left (hR : Passes R T) (hS : Passes S T) : Passes (Relation.Comp R S) T := by
  rintro x z w ⟨y, hxy, hyz⟩ hzw
  obtain ⟨y', hyy', hyw⟩ := hS hyz hzw
  obtain ⟨x', hxx', hxy'⟩ := hR hxy hyy'
  exact ⟨x', hxx', y', hxy', hyw⟩

theorem comp_right (hS : Passes R S) (hT : Passes R T) : Passes R (Relation.Comp S T) := by
  rintro x y w hxy ⟨z, hyz, hzw⟩
  obtain ⟨y', hxy', hyz'⟩ := hS hxy hyz
  obtain ⟨z', hyz'', hzw'⟩ := hT hyz' hzw
  exact ⟨z', ⟨y', hxy', hyz''⟩, hzw'⟩

end Passes

/-- Steps of labels, one after another. -/
def Sequence {α β : Type} (step : β → α → α → Prop) : List β → α → α → Prop
  | [], x, y => x = y
  | b :: rest, x, z => ∃ y, step b x y ∧ Sequence step rest y z

/-- Where the steps of all labels pass each other, their order makes no difference. -/
theorem Sequence.perm {α β : Type} {step : β → α → α → Prop} {labels labels' : List β} {x y : α}
    (sequence : Sequence step labels x y)
    (passes : ∀ a ∈ labels, ∀ b ∈ labels, Passes (step a) (step b))
    (hperm : labels.Perm labels') : Sequence step labels' x y := by
  induction hperm generalizing x y with
  | nil => exact sequence
  | cons a _ ih =>
    obtain ⟨m, hstep, hrest⟩ := sequence
    refine ⟨m, hstep, ih hrest fun b hb c hc => ?_⟩
    exact passes b (List.mem_cons_of_mem _ hb) c (List.mem_cons_of_mem _ hc)
  | swap a b rest =>
    obtain ⟨m, hb, n, ha, hrest⟩ := sequence
    obtain ⟨m', ha', hb'⟩ := passes b (by simp) a (by simp) hb ha
    exact ⟨m', ha', n, hb', hrest⟩
  | trans hperm _ ih ih' =>
    refine ih' (ih sequence passes) fun a ha b hb => ?_
    exact passes a (hperm.mem_iff.2 ha) b (hperm.mem_iff.2 hb)

namespace Ledger

/-! ## Entries put twice -/

section put

variable {ρ σ : Type} [Record ρ] [Record σ] {l : Ledger} {a b : Address}

theorem put_put (l : Ledger) (a : Address) (r s : ρ) : (l.put a r).put a s = l.put a s :=
  SortedMap.insert_insert _ _ _ _

theorem put_comm {r : ρ} {s : σ} (h : (Record.table ρ).key a ≠ (Record.table σ).key b) :
    (l.put a r).put b s = (l.put b s).put a r := by
  apply SortedMap.ext_get?
  intro key
  simp only [put, SortedMap.get?_insert]
  by_cases ha : (Record.table ρ).key a = key
  · subst ha
    rw [if_neg (Ne.symm h), if_pos rfl, if_pos rfl]
  · rw [if_neg ha, if_neg ha]

theorem put_comm_of_table_ne {r : ρ} {s : σ} (h : Record.table ρ ≠ Record.table σ) :
    (l.put a r).put b s = (l.put b s).put a r :=
  put_comm fun hkey => h (Table.key_inj.1 hkey).1

theorem get?_put_of_key_ne {r : ρ} {key : Bytes} (h : (Record.table ρ).key a ≠ key) :
    SortedMap.get? (l.put a r) key = SortedMap.get? l key :=
  SortedMap.get?_insert_of_ne _ _ h

end put

/-! ## Updates -/

/-- The record at an address is turned into what a function makes of it. -/
inductive Updates {ρ : Type} [Record ρ] (f : Option ρ → Outcome BridgeError ρ) (a : Address)
    (l : Ledger) : Ledger → Prop where
  | intro {y : ρ} (legible : l.Legible ρ a) (turned : f (l.record? ρ a) = .ok y) :
      Updates f a l (l.put a y)

/-- Functions of which one may be applied before the other, to the same end. -/
def Swaps {ρ : Type} (f g : Option ρ → Outcome BridgeError ρ) : Prop :=
  ∀ ⦃x y z⦄, f x = .ok y → g (some y) = .ok z → ∃ y', g x = .ok y' ∧ f (some y') = .ok z

section updates

variable {ρ σ : Type} [Record ρ] [Record σ] {f : Option ρ → Outcome BridgeError ρ}
  {g : Option σ → Outcome BridgeError σ} {a b : Address} {l l' : Ledger}

theorem Updates.of_found {x y : ρ} (found : l.record? ρ a = some x) (turned : f (some x) = .ok y) :
    Updates f a l (l.put a y) := by
  refine ⟨fun hnone => ?_, found ▸ turned⟩
  rw [found] at hnone
  cases hnone

theorem Updates.get?_of_ne {t : Table} (h : Updates f a l l') (ht : Record.table ρ ≠ t)
    (b : Address) : SortedMap.get? l' (t.key b) = SortedMap.get? l (t.key b) := by
  obtain ⟨-, -⟩ := h
  exact get?_put_of_ne ht

theorem passes_of_key_ne (h : (Record.table ρ).key a ≠ (Record.table σ).key b) :
    Passes (Updates f a) (Updates g b) := by
  rintro l _ _ ⟨legible, turned⟩ ⟨legible', turned'⟩
  rename_i y z
  have hb := get?_put_of_key_ne (l := l) (r := y) h
  rw [legible_congr hb] at legible'
  rw [record?_congr hb] at turned'
  have ha := get?_put_of_key_ne (l := l) (r := z) (Ne.symm h)
  refine ⟨l.put b z, ⟨legible', turned'⟩, ?_⟩
  rw [put_comm h]
  refine ⟨(legible_congr ha).2 legible, ?_⟩
  rwa [record?_congr ha]

theorem passes_of_table_ne (h : Record.table ρ ≠ Record.table σ) :
    Passes (Updates f a) (Updates g b) :=
  passes_of_key_ne fun hkey => h (Table.key_inj.1 hkey).1

theorem passes_of_swaps [LawfulRecord ρ] {g : Option ρ → Outcome BridgeError ρ}
    (h : a = b → Swaps f g) : Passes (Updates f a) (Updates g b) := by
  by_cases hab : a = b
  · subst hab
    rintro l _ _ ⟨legible, turned⟩ ⟨-, turned'⟩
    rename_i y z
    rw [record?_put_self] at turned'
    obtain ⟨y', hg, hf⟩ := h rfl turned turned'
    refine ⟨l.put a y', ⟨legible, hg⟩, ?_⟩
    rw [put_put, ← put_put l a y' z]
    exact .of_found record?_put_self hf
  · exact passes_of_key_ne fun hkey => hab (Table.key_inj.1 hkey).2

end updates

end Ledger

end CustodyBridge
