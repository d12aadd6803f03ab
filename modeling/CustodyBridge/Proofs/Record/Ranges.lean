import CustodyBridge.Proofs.Record.Readable
import CustodyBridge.Proofs.SortedMap.Pages

/-!
# Ranges of a table

All tables share one store. The keys that start with the name of a table lie next to each other, in
the order of their addresses, so a range of the store is a part of one table.
-/

namespace CustodyBridge

/-! ## Byte strings in a range -/

namespace Bytes

theorem not_inRange_nil (first : UInt8) (start : Bytes) (stop? : Option Bytes) :
    ¬ SortedMap.inRange (some (first :: start)) stop? [] = true := by
  simp [SortedMap.inRange]

theorem inRange_cons_iff {first byte : UInt8} {start stop key : Bytes} :
    SortedMap.inRange (some (first :: start)) (some (first :: stop)) (byte :: key) = true ↔
      byte = first ∧ SortedMap.inRange (some start) (some stop) key = true := by
  simp only [SortedMap.inRange, Option.all_some, List.compare_cons_cons]
  by_cases hbyte : byte = first
  · subst hbyte
    simp
  · cases hc : compare first byte with
    | lt => simp [hbyte, Std.OrientedCmp.gt_of_lt hc]
    | eq => exact absurd (Std.LawfulEqOrd.eq_of_compare hc).symm hbyte
    | gt => simp [hbyte]

theorem inRange_raised_iff {last byte : UInt8} {low key : Bytes} (raised : last < last + 1) :
    SortedMap.inRange (some (last :: low)) (some [last + 1]) (byte :: key) = true ↔
      byte = last ∧ compare low key ≠ .gt := by
  have hkey : compare key [] ≠ .lt := by cases key <;> simp
  have hstop : compare byte (last + 1) = .lt ↔ byte ≤ last := by
    rw [Std.compare_eq_lt]
    grind
  simp only [SortedMap.inRange, Option.all_some, List.compare_cons_cons]
  by_cases hbyte : byte = last
  · subst hbyte
    simp [hstop.2 (UInt8.le_refl _)]
  · cases hc : compare last byte with
    | lt =>
      -- A greater byte is not below the raised one, since no byte lies between the two.
      have habove : compare byte (last + 1) ≠ .lt := fun h =>
        UInt8.not_lt.2 (hstop.1 h) (Std.compare_eq_lt.1 hc)
      simp [hbyte, Ordering.then_eq_lt, habove, hkey]
    | eq => exact absurd (Std.LawfulEqOrd.eq_of_compare hc).symm hbyte
    | gt => simp [hbyte]

/-- Between a byte string and the one with its last byte raised are its continuations. -/
theorem inRange_iff {front low key : Bytes} {last : UInt8} (raised : last < last + 1) :
    SortedMap.inRange (some (front ++ last :: low)) (some (front ++ [last + 1])) key = true ↔
      ∃ rest, key = front ++ last :: rest ∧ compare low rest ≠ .gt := by
  induction front generalizing key with
  | nil =>
    cases key with
    | nil => simpa using not_inRange_nil _ _ _
    | cons byte key =>
      rw [List.nil_append, List.nil_append, inRange_raised_iff raised]
      simp
  | cons first front ih =>
    cases key with
    | nil => simpa using not_inRange_nil _ _ _
    | cons byte key =>
      rw [List.cons_append, List.cons_append, inRange_cons_iff, ih]
      simp [and_assoc]

theorem compare_concat_ne_gt_iff {a b : Bytes} (byte : UInt8) (h : a.length = b.length) :
    compare (a ++ [byte]) b ≠ .gt ↔ compare a b = .lt := by
  induction a generalizing b with
  | nil =>
    obtain rfl := List.length_eq_zero_iff.1 h.symm
    simp
  | cons x a ih =>
    cases b with
    | nil => simp at h
    | cons y b =>
      rw [List.cons_append, List.compare_cons_cons, List.compare_cons_cons]
      cases compare x y with
      | lt | gt => simp
      | eq => exact ih (Nat.succ.inj h)

end Bytes

namespace Table

theorem filter_prefix_lead (t : Table) : all.filter (fun u => t.lead <+: u.lead) = [t] := by
  cases t <;> decide

theorem mem_all (t : Table) : t ∈ all := by
  cases t <;> decide

/-- A lead starts with the length of its name, so no other lead starts with it. -/
theorem eq_of_prefix_lead {t u : Table} (h : t.lead <+: u.lead) : t = u := by
  have hmem : u ∈ all.filter (fun u => t.lead <+: u.lead) :=
    List.mem_filter.2 ⟨mem_all u, decide_eq_true h⟩
  rw [filter_prefix_lead] at hmem
  exact (List.mem_singleton.1 hmem).symm

theorem key_eq_append_iff {t u : Table} {a : Address} {rest : Bytes} :
    u.key a = t.lead ++ rest ↔ u = t ∧ a.bytes = rest := by
  constructor
  · intro h
    have hprefix : t.lead <+: u.key a := h ▸ List.prefix_append _ _
    obtain rfl : u = t := by
      obtain h | h := List.prefix_or_prefix_of_prefix (List.prefix_append u.lead a.bytes) hprefix
      · exact eq_of_prefix_lead h
      · exact (eq_of_prefix_lead h).symm
    exact ⟨rfl, List.append_cancel_left h⟩
  · rintro ⟨rfl, rfl⟩
    rfl

theorem lead_bound (t : Table) : ∃ front last, t.lead = front ++ [last] ∧
    t.bound = front ++ [last + 1] ∧ last < last + 1 :=
  ⟨t.lead.dropLast, t.lead.getLast?.getD 0, by cases t <;> decide⟩

theorem inRange_key_iff {t u : Table} {a : Address} {low : Bytes} :
    SortedMap.inRange (some (t.lead ++ low)) (some t.bound) (u.key a) = true ↔
      u = t ∧ compare low a.bytes ≠ .gt := by
  obtain ⟨front, last, hlead, hbound, raised⟩ := lead_bound t
  have hcons : ∀ rest, front ++ last :: rest = t.lead ++ rest := fun rest => by simp [hlead]
  rw [hbound, ← hcons, Bytes.inRange_iff raised]
  simp only [hcons, key_eq_append_iff]
  constructor
  · rintro ⟨_, ⟨rfl, rfl⟩, h⟩
    exact ⟨rfl, h⟩
  · rintro ⟨rfl, h⟩
    exact ⟨_, ⟨rfl, rfl⟩, h⟩

end Table

/-! ## What is listed -/

theorem map_filter_of_any {α β : Type} {p : α → Bool} {f : α → Option β} {q : β → Bool}
    {xs : List α} (h : ∀ x ∈ xs, p x = (f x).any q) :
    (xs.filter p).map f = ((xs.filterMap f).filter q).map some := by
  induction xs with
  | nil => rfl
  | cons x xs ih =>
    have hx := h x List.mem_cons_self
    have hrest := ih fun y hy => h y (List.mem_cons_of_mem _ hy)
    cases hf : f x with
    | none =>
      rw [hf, Option.any_none] at hx
      rw [List.filter_cons_of_neg (by simp [hx]), List.filterMap_cons_none hf, hrest]
    | some y =>
      rw [hf, Option.any_some] at hx
      rw [List.filterMap_cons_some hf, List.filter_cons, List.filter_cons, hx]
      cases q y with
      | false => exact hrest
      | true => rw [if_pos rfl, if_pos rfl, List.map_cons, List.map_cons, hf, hrest]

namespace TokenRelation

theorem inRange_listStart_iff {after? : Option Address} {t : Table} {a : Address} :
    SortedMap.inRange (some (listStart after?)) (some Table.tokenRelations.bound) (t.key a) = true ↔
      t = .tokenRelations ∧ after?.all (compare · a == .lt) = true := by
  cases after? with
  | none =>
    have hlow : compare [] a.bytes ≠ .gt := by
      cases a.bytes <;> simp
    have hstart : listStart none = Table.tokenRelations.lead ++ [] := (List.append_nil _).symm
    rw [hstart, Table.inRange_key_iff]
    simp [hlow]
  | some b =>
    have hstart : listStart (some b) = Table.tokenRelations.lead ++ (b.bytes ++ [0]) :=
      List.append_assoc _ _ _
    have hlength : b.bytes.length = a.bytes.length := by
      rw [b.length_bytes, a.length_bytes]
    rw [hstart, Table.inRange_key_iff, Bytes.compare_concat_ne_gt_iff 0 hlength]
    simp [compareOn, compare]

theorem exec_ofEntry {entry : Bytes × String} {e : Address × TokenRelation} {l : Ledger}
    (h : Ledger.entryOf? TokenRelation entry = some e) : (ofEntry entry).exec l = .ok (e, l) := by
  obtain ⟨hkey, hread⟩ := Ledger.entryOf?_eq_some.1 h
  have haddress : Address.ofBytes (entry.1.drop Table.tokenRelations.lead.length) = .ok e.1 := by
    rw [hkey, table_tokenRelation, Table.key, List.drop_left, Address.ofBytes,
      Bytes32.ofBytes?_bytes]
  simp [ofEntry, hread, haddress]

theorem exec_ofEntries {entries : List (Bytes × String)} {es : List (Address × TokenRelation)}
    {l : Ledger} (h : entries.map (Ledger.entryOf? TokenRelation) = es.map some) :
    (ofEntries entries).exec l = .ok (es, l) := by
  induction entries generalizing es with
  | nil =>
    obtain rfl := List.map_eq_nil_iff.1 h.symm
    rfl
  | cons entry rest ih =>
    cases es with
    | nil => cases h
    | cons e es =>
      obtain ⟨hentry, hrest⟩ := List.cons.inj h
      simp [ofEntries, exec_ofEntry hentry, ih hrest]

end TokenRelation

namespace Ledger

variable {l : Ledger}

theorem Readable.map_range (readable : l.Readable) (after? : Option Address) :
    (SortedMap.range l (some (TokenRelation.listStart after?))
        (some Table.tokenRelations.bound)).map (entryOf? TokenRelation) =
      ((l.records TokenRelation).behind after?).map some := by
  refine map_filter_of_any ?_
  rintro ⟨key, text⟩ hmem
  obtain ⟨t, a, rfl, reads⟩ := readable key text (SortedMap.mem_entries_iff.1 hmem)
  rw [Bool.eq_iff_iff, TokenRelation.inRange_listStart_iff]
  cases hread : entryOf? TokenRelation (t.key a, text) with
  | none =>
    have hother : t ≠ .tokenRelations := by
      rintro rfl
      obtain ⟨r, hr⟩ := reads
      have hentry : entryOf? TokenRelation (Table.tokenRelations.key a, text) = some (a, r) :=
        entryOf?_eq_some.2 ⟨rfl, hr⟩
      rw [hread] at hentry
      cases hentry
    simp [hother]
  | some e =>
    obtain ⟨hkey, -⟩ := entryOf?_eq_some.1 hread
    obtain ⟨rfl, rfl⟩ := Table.key_inj.1 hkey
    simp

end Ledger

theorem TokenRelation.exec_runList {l : Ledger} (readable : l.Readable) (after? : Option Address)
    (limit : Nat) : (runList after? limit).exec l =
      .ok (((l.records TokenRelation).behind after?).take limit, l) := by
  have hentries := congrArg (List.take limit) (readable.map_range after?)
  rw [← List.map_take, ← List.map_take] at hentries
  rw [runList, Program.exec_bind, Program.exec_range, Outcome.ok_bind]
  exact exec_ofEntries hentries

end CustodyBridge
