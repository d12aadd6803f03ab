import CustodyBridge.Bridge.Answering
import CustodyBridge.Proofs.Bridge.Integrity
import CustodyBridge.Proofs.Record.Ranges

/-!
# Token relations listed page by page

A list query answers with the first relations behind a given account. Whoever goes on behind the
last account of each page gets every relation once, whatever the sizes of the pages.
-/

namespace CustodyBridge

/-- A record of the table as an entry of a list. -/
def TokenRelationEntry.ofRecord (e : Address × TokenRelation) : TokenRelationEntry := ⟨e.2, e.1⟩

theorem TokenRelationEntry.ofRecord_injective : Function.Injective ofRecord := by
  rintro ⟨a, r⟩ ⟨b, s⟩ h
  cases h
  rfl

/-- All token relations, in the order of their accounts. -/
def Ledger.relations (l : Ledger) : List TokenRelationEntry :=
  (l.records TokenRelation).entries.map .ofRecord

namespace Query

/-- Where a reader of the list goes on: behind the last account of the page, if it has one. -/
def nextStart (after? : Option Address) : Outcome BridgeError Answer → Option Address
  | .ok (.tokenRelations page) => (page.getLast?.map (·.account)).or after?
  | _ => after?

/-- What a reader is answered who asks for pages of given limits, each behind the one before. -/
def replies (env : Environment) (l : Ledger) :
    Option Address → List (Option UInt32) → List (Outcome BridgeError Answer)
  | _, [] => []
  | after?, limit? :: limits =>
    let reply := (tokenRelations after? limit?).perform env l
    reply :: replies env l (nextStart after? reply) limits

end Query

/-! ## All relations -/

namespace Ledger

variable {l : Ledger}

theorem relations_ascend (l : Ledger) :
    l.relations.Pairwise fun e f => compare e.account f.account = .lt :=
  List.pairwise_map.2 (l.records TokenRelation).ascend

theorem mem_relations_iff {e : TokenRelationEntry} :
    e ∈ l.relations ↔ l.record? TokenRelation e.account = some e.relation := by
  rw [← get?_records, ← SortedMap.mem_entries_iff, relations, List.mem_map]
  constructor
  · rintro ⟨_, hmem, rfl⟩
    exact hmem
  · intro hmem
    exact ⟨_, hmem, rfl⟩

theorem map_behind (l : Ledger) (after? : Option Address) :
    ((l.records TokenRelation).behind after?).map .ofRecord =
      l.relations.filter fun e => after?.all (compare · e.account == .lt) := by
  rw [relations, List.filter_map]
  rfl

end Ledger

/-! ## One page and page after page -/

namespace Query

variable {env : Environment} {l : Ledger}

theorem pageSize_ne_zero {limit? : Option UInt32} (h : limit? ≠ some 0) : pageSize limit? ≠ 0 := by
  cases limit? with
  | none => decide
  | some limit =>
    have hlimit : limit.toNat ≠ 0 := fun hzero => h (congrArg some (UInt32.toNat_inj.1 hzero))
    have hmax : maxLimit.toNat ≠ 0 := by decide
    rw [pageSize, Option.getD_some]
    omega

theorem perform_tokenRelations (readable : l.Readable) (after? : Option Address)
    (limit? : Option UInt32) : (tokenRelations after? limit?).perform env l =
      .ok (.tokenRelations
        ((((l.records TokenRelation).behind after?).take (pageSize limit?)).map .ofRecord)) := by
  rw [perform, Program.query_eq, answer, Program.exec_bind, TokenRelation.exec_runList readable]
  rfl

theorem replies_eq (readable : l.Readable) (after? : Option Address)
    (limits : List (Option UInt32)) : replies env l after? limits =
      ((l.records TokenRelation).pages after? (limits.map pageSize)).map fun page =>
        .ok (.tokenRelations (page.map .ofRecord)) := by
  induction limits generalizing after? with
  | nil => rfl
  | cons limit? limits ih =>
    have hnext : ∀ page : List (Address × TokenRelation),
        nextStart after? (.ok (.tokenRelations (page.map .ofRecord))) =
          SortedMap.next? after? page := by
      intro page
      rw [nextStart, List.getLast?_map, Option.map_map]
      rfl
    rw [replies, perform_tokenRelations readable, hnext, ih, List.map_cons, SortedMap.pages,
      List.map_cons]

/-- The entries that a reader gets, page by page. -/
def pages (l : Ledger) (limits : List (Option UInt32)) : List (List TokenRelationEntry) :=
  ((l.records TokenRelation).pages none (limits.map pageSize)).map (·.map .ofRecord)

theorem flatten_pages (l : Ledger) (limits : List (Option UInt32)) :
    (pages l limits).flatten = l.relations.take (limits.map pageSize).sum := by
  rw [pages, ← List.map_flatten, SortedMap.flatten_pages, SortedMap.behind_none, List.map_take,
    Ledger.relations]

section pages

variable {limits : List (Option UInt32)} (pos : ∀ limit? ∈ limits, limit? ≠ some 0)

include pos

theorem size_ne_zero : ∀ size ∈ limits.map pageSize, size ≠ 0 := by
  rintro _ hsize
  obtain ⟨limit?, hmem, rfl⟩ := List.mem_map.1 hsize
  exact pageSize_ne_zero (pos limit? hmem)

theorem flatten_pages_of_length_le (enough : l.relations.length ≤ limits.length) :
    (pages l limits).flatten = l.relations := by
  rw [Ledger.relations, List.length_map] at enough
  rw [pages, ← List.map_flatten, SortedMap.flatten_pages_of_length_le (size_ne_zero pos),
    SortedMap.behind_none, Ledger.relations]
  rwa [SortedMap.behind_none, List.length_map]

theorem page_eq_nil_iff {done rest : List (List TokenRelationEntry)}
    {page : List TokenRelationEntry} (h : pages l limits = done ++ page :: rest) :
    page = [] ↔ done.flatten = l.relations := by
  obtain ⟨done, tail, hpages, rfl, htail⟩ := List.map_eq_append_iff.1 h
  obtain ⟨page, rest, rfl, rfl, -⟩ := List.map_eq_cons_iff.1 htail
  rw [List.map_eq_nil_iff, SortedMap.page_eq_nil_iff (size_ne_zero pos) hpages,
    SortedMap.behind_none, Ledger.relations, ← List.map_flatten,
    TokenRelationEntry.ofRecord_injective.list_map.eq_iff]

end pages

/-- Behind every run, a list query answers with the first of the relations behind the given account,
10 of them if no limit is given and 30 at most. The relations are those of the table, by ascending
account. So whoever asks page by page, for at least one relation each time, gets each one once and
in order, and an empty page only where none is left. -/
theorem relations_paged (env : Environment) (calls : List Call) :
    let l := Call.performAll env calls SortedMap.empty
    (l.relations.Pairwise fun e f => compare e.account f.account = .lt) ∧
    (∀ e, e ∈ l.relations ↔ l.record? TokenRelation e.account = some e.relation) ∧
    (∀ a, l.holds TokenRelation a = true → ∃ e ∈ l.relations, e.account = a) ∧
    (∀ e ∈ l.relations,
      env.address? (.tokenRelation e.relation.chain e.relation.foreignToken) = some e.account) ∧
    (∀ after? limit?, (tokenRelations after? limit?).perform env l =
      .ok (.tokenRelations ((l.relations.filter fun e =>
        after?.all (compare · e.account == .lt)).take (min (limit?.elim 10 UInt32.toNat) 30)))) ∧
    ∀ limits : List (Option UInt32), (∀ limit? ∈ limits, limit? ≠ some 0) →
      ∃ pages : List (List TokenRelationEntry),
        replies env l none limits = pages.map (fun page => .ok (.tokenRelations page)) ∧
        pages.flatten = l.relations.take (limits.map pageSize).sum ∧
        (l.relations.length ≤ limits.length → pages.flatten = l.relations) ∧
        ∀ done page rest, pages = done ++ page :: rest →
          (page = [] ↔ done.flatten = l.relations) := by
  intro l
  have readable : l.Readable := (Call.sound_history env calls).readable
  refine ⟨l.relations_ascend, fun _ => Ledger.mem_relations_iff, ?_, ?_, ?_, ?_⟩
  · intro a there
    obtain ⟨r, found⟩ := readable.exists_record there
    exact ⟨⟨r, a⟩, Ledger.mem_relations_iff.2 found, rfl⟩
  · intro e hmem
    exact Call.relationsPlaced_history env calls _ _ (Ledger.mem_relations_iff.1 hmem)
  · intro after? limit?
    rw [perform_tokenRelations readable, List.map_take, Ledger.map_behind]
    cases limit? <;> rfl
  · intro limits pos
    refine ⟨pages l limits, ?_, flatten_pages l limits, flatten_pages_of_length_le pos,
      fun _ _ _ => page_eq_nil_iff pos⟩
    rw [replies_eq readable, pages, List.map_map]
    rfl

end Query

/-! ## Two relations of one mint -/

namespace Sample

def secondToken : Address := ⟨Bytes.ofNat 32 10, by simp⟩

def secondAccount : Account := ⟨⟨Bytes.ofNat 32
  731561333050785223996706011491631664661211942266157233011, by simp⟩, 255⟩

/-- The second relation has the lesser account. -/
def listCalls : List Call :=
  calls.take 2 ++ [.execute admin (.setTokenRelation chain secondToken 9 mint 6)]

def listedLedger : Ledger :=
  opened.put secondAccount.address
    (⟨chain, secondToken, 9, mint, 6, poolAccount⟩ : TokenRelation)

def listedRelations : List TokenRelationEntry := [
  ⟨⟨chain, secondToken, 9, mint, 6, poolAccount⟩, secondAccount.address⟩,
  ⟨⟨chain, token, 6, mint, 6, poolAccount⟩, tokenAccount.address⟩]

theorem operation_setSecondRelation :
    (Call.execute admin (.setTokenRelation chain secondToken 9 mint 6)).operation .small =
      .ok ⟨TokenAccounts.setAccess .small ⟨secondAccount, poolAccount⟩,
        setTokenRelation .small admin ⟨secondAccount, poolAccount⟩ chain secondToken 9 mint 6⟩ := by
  have hsecond : Environment.small.account (.tokenRelation chain secondToken) =
      .ok secondAccount := by
    decide +kernel
  simp only [Call.operation, Command.operation, TokenAccounts.resolve, except_bind_eq_ok]
  exact ⟨_, ⟨_, hsecond, _, account_pool, rfl⟩, rfl⟩

theorem exec_setSecondRelation :
    (setTokenRelation .small admin ⟨secondAccount, poolAccount⟩ chain secondToken 9 mint 6).exec
      opened =
        .ok (.tokenRelationSet chain secondToken mint poolAccount.address false, listedLedger) := by
  simp [setTokenRelation, TokenRelation.runSet, opened, initialized]
  rfl

theorem run_list : Call.performAll .small listCalls SortedMap.empty = listedLedger := by
  have hsecond := Call.run_cons operation_setSecondRelation exec_setSecondRelation
    (Call.run_nil _ _)
  have hfirst := Call.run_cons operation_setTokenRelation exec_setTokenRelation hsecond
  exact (Call.run_cons rfl exec_instantiate hfirst).2

theorem relations_listed : listedLedger.relations = listedRelations := by
  simp [listedLedger, opened, initialized, Ledger.relations]
  decide +kernel

end Sample

/-- Pages of one relation each hold both, the one of the lesser account first. -/
theorem Query.relations_paged_sample :
    ∃ pages : List (List TokenRelationEntry),
      replies .small (Call.performAll .small Sample.listCalls SortedMap.empty) none
        [some 1, some 1, none] = pages.map (fun page => .ok (.tokenRelations page)) ∧
      pages.flatten = Sample.listedRelations := by
  obtain ⟨-, -, -, -, -, paged⟩ := relations_paged .small Sample.listCalls
  obtain ⟨pages, hreplies, -, hall, -⟩ := paged [some 1, some 1, none] (by simp)
  refine ⟨pages, hreplies, ?_⟩
  rw [Sample.run_list, Sample.relations_listed] at hall
  exact hall (by decide)

end CustodyBridge
