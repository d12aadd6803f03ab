import CustodyBridge.Derivation
import Mathlib.Tactic.Common

/-!
# What a derived address is the hash of

The string that is hashed for a candidate has no separators, but its bump, its program and its
marker have fixed sizes: seeds are confused with other seeds only if they are the same bytes in a
row. A found account has the greatest bump whose string's hash is off the curve, and if none is
found there is no such bump, or no room for one.
-/

namespace CustodyBridge.AddressScheme

variable {s : AddressScheme} {seeds : List Bytes} {program : Address} {a : Account}

/-! ## Strings -/

/-- Strings are read from their ends, since the seeds in front are of any length. -/
theorem preimage_bump_inj {seeds' : List Bytes} {b c : UInt8} {program' : Address} :
    preimage (seeds ++ [[b]]) program = preimage (seeds' ++ [[c]]) program' ↔
      seeds.flatten = seeds'.flatten ∧ b = c ∧ program = program' := by
  constructor
  · intro h
    unfold preimage at h
    have hunmarked := List.append_cancel_right h
    obtain ⟨hseeds, hprogram⟩ := List.append_inj' hunmarked
      (program.length_bytes.trans program'.length_bytes.symm)
    rw [List.flatten_concat, List.flatten_concat] at hseeds
    obtain ⟨hflat, hbump⟩ := List.append_inj' hseeds rfl
    exact ⟨hflat, List.head_eq_of_cons_eq hbump, Bytes32.ext_bytes hprogram⟩
  · rintro ⟨hflat, rfl, rfl⟩
    simp only [preimage, List.flatten_concat, hflat]

/-- Different strings of one hash. -/
structure Collides (s : AddressScheme) (x y : Bytes) : Prop where
  ne : x ≠ y
  digest_eq : s.digest x = s.digest y

/-! ## Candidates -/

theorem candidate?_eq_some {address : Address} :
    s.candidate? seeds program = some address ↔
      s.digest (preimage seeds program) = address ∧ s.onCurve address = false := by
  unfold candidate?
  dsimp only
  constructor
  · intro h
    split at h
    · cases h
    · rename_i hcurve
      cases h
      exact ⟨rfl, Bool.eq_false_iff.2 hcurve⟩
  · rintro ⟨rfl, hcurve⟩
    exact if_neg (Bool.eq_false_iff.1 hcurve)

/-! ## The search for the bump -/

/-- An account has the greatest bump up to a given one whose candidate is off the curve. -/
structure Finds (s : AddressScheme) (seeds : List Bytes) (program : Address) (top : Nat)
    (a : Account) : Prop where
  bump_pos : 0 < a.bump.toNat
  bump_le : a.bump.toNat ≤ top
  candidate : s.candidate? (seeds ++ [[a.bump]]) program = some a.address
  greatest : ∀ b : UInt8, a.bump.toNat < b.toNat → b.toNat ≤ top →
    s.candidate? (seeds ++ [[b]]) program = none

namespace Finds

variable {top : Nat} {bump : UInt8}

theorem of_candidate {address : Address} (hbump : bump.toNat = top + 1)
    (h : s.candidate? (seeds ++ [[bump]]) program = some address) :
    s.Finds seeds program (top + 1) ⟨address, bump⟩ where
  bump_pos := by rw [hbump]; exact Nat.succ_pos top
  bump_le := Nat.le_of_eq hbump
  candidate := h
  greatest b hlt hle := by
    dsimp only at hlt
    omega

theorem eq_of_candidate {address : Address} (hbump : bump.toNat = top + 1)
    (h : s.candidate? (seeds ++ [[bump]]) program = some address)
    (found : s.Finds seeds program (top + 1) a) : a = ⟨address, bump⟩ := by
  obtain ⟨x, b⟩ := a
  have hb : b = bump := by
    have hnlt : ¬ b.toNat < bump.toNat := fun hlt => by
      have hnone := found.greatest bump hlt (Nat.le_of_eq hbump)
      rw [h] at hnone
      cases hnone
    have hle := found.bump_le
    apply UInt8.toNat_inj.1
    dsimp only at hle
    omega
  subst hb
  have hx := found.candidate
  rw [h] at hx
  cases hx
  rfl

theorem succ_iff (hbump : bump.toNat = top + 1)
    (h : s.candidate? (seeds ++ [[bump]]) program = none) :
    s.Finds seeds program (top + 1) a ↔ s.Finds seeds program top a := by
  have eq_bump {b : UInt8} (hb : b.toNat = top + 1) : b = bump :=
    UInt8.toNat_inj.1 (hb.trans hbump.symm)
  constructor
  · rintro ⟨hpos, hle, hcandidate, hgreatest⟩
    have hne : a.bump.toNat ≠ top + 1 := fun htop => by
      rw [eq_bump htop, h] at hcandidate
      cases hcandidate
    exact ⟨hpos, by omega, hcandidate, fun b hlt hb => hgreatest b hlt (by omega)⟩
  · rintro ⟨hpos, hle, hcandidate, hgreatest⟩
    refine ⟨hpos, by omega, hcandidate, fun b hlt hb => ?_⟩
    by_cases htop : b.toNat = top + 1
    · rw [eq_bump htop]
      exact h
    · exact hgreatest b hlt (by omega)

end Finds

theorem search_eq_some {top : Nat} (h : top < 256) :
    s.search seeds program top = some a ↔ s.Finds seeds program top a := by
  induction top with
  | zero =>
    constructor
    · intro hnone
      cases hnone
    · rintro ⟨hpos, hle, -, -⟩
      omega
  | succ top ih =>
    have hbump : (UInt8.ofNat (top + 1)).toNat = top + 1 := UInt8.toNat_ofNat_of_lt' h
    rw [search, bumpSeed]
    cases hcandidate : s.candidate? (seeds ++ [[UInt8.ofNat (top + 1)]]) program with
    | some address =>
      rw [Option.some.injEq]
      constructor
      · rintro rfl
        exact .of_candidate hbump hcandidate
      · intro found
        exact (found.eq_of_candidate hbump hcandidate).symm
    | none =>
      rw [Finds.succ_iff hbump hcandidate]
      exact ih (by omega)

/-! ## Accounts of seeds -/

theorem checkSeeds_eq_ok {limit : Nat} :
    checkSeeds limit seeds = .ok () ↔
      seeds.length ≤ limit ∧ ∀ seed ∈ seeds, seed.length ≤ maxSeedLength := by
  unfold checkSeeds
  by_cases hcount : limit < seeds.length
  · rw [if_pos hcount]
    simp only [reduceCtorEq, Nat.not_le.2 hcount, false_and]
  · rw [if_neg hcount]
    simp only [Nat.not_lt.1 hcount, true_and]
    split
    · rename_i seed hlong
      have hlength := List.find?_some hlong
      simp only [reduceCtorEq, false_iff]
      intro hshort
      have hle := hshort seed (List.mem_of_find?_eq_some hlong)
      simp only [decide_eq_true_eq] at hlength
      omega
    · rename_i hshort
      simpa using hshort

theorem find_eq_ok :
    s.find seeds program = .ok a ↔
      checkSeeds (maxSeeds - 1) seeds = .ok () ∧ s.Finds seeds program 255 a := by
  rw [← search_eq_some (by decide), find]
  cases checkSeeds (maxSeeds - 1) seeds with
  | error e => simp [bind, Except.bind]
  | ok =>
    cases s.search seeds program 255 with
    | none => simp [bind, Except.bind]
    | some found => simp [bind, Except.bind, pure, Except.pure]

theorem deriveUntagged_of_nonempty (h : ∀ seed ∈ seeds, seed ≠ []) :
    s.deriveUntagged program seeds = s.find seeds program := by
  refine if_neg fun hempty => ?_
  obtain ⟨seed, hmem, hseed⟩ := List.any_eq_true.1 hempty
  exact h seed hmem (List.isEmpty_iff.1 hseed)

theorem derive_of_nonempty {tag : Bytes} (h : ∀ seed ∈ seeds ++ [tag], seed ≠ []) :
    s.derive program tag seeds = s.find (seeds ++ [tag]) program := by
  have htag : ¬ tag.isEmpty = true := fun hempty =>
    h tag (List.mem_append_right _ List.mem_cons_self) (List.isEmpty_iff.1 hempty)
  rw [derive, if_neg htag, deriveUntagged_of_nonempty h]

/-! ## Searches that fail -/

theorem search_eq_none {top : Nat} (h : top < 256) :
    s.search seeds program top = none ↔ ∀ b : UInt8, 0 < b.toNat → b.toNat ≤ top →
      s.candidate? (seeds ++ [[b]]) program = none := by
  induction top with
  | zero => exact ⟨fun _ b hpos hle => absurd hpos (Nat.not_lt.2 hle), fun _ => rfl⟩
  | succ top ih =>
    have hbump : (UInt8.ofNat (top + 1)).toNat = top + 1 := UInt8.toNat_ofNat_of_lt' h
    rw [search, bumpSeed]
    cases hcandidate : s.candidate? (seeds ++ [[UInt8.ofNat (top + 1)]]) program with
    | some address =>
      constructor
      · intro hnone
        cases hnone
      · intro hall
        rw [hall _ (by omega) (by omega)] at hcandidate
        cases hcandidate
    | none =>
      dsimp only
      rw [ih (by omega)]
      constructor
      · intro hnone b hpos hle
        by_cases htop : b.toNat = top + 1
        · rw [show b = UInt8.ofNat (top + 1) from UInt8.toNat_inj.1 (htop.trans hbump.symm)]
          exact hcandidate
        · exact hnone b hpos (by omega)
      · intro hall b hpos hle
        exact hall b hpos (Nat.le_succ_of_le hle)

theorem seed_of_checkSeeds {limit : Nat} {e : DerivationError}
    (h : checkSeeds limit seeds = .error e) : ∃ cause, e = .seed cause := by
  unfold checkSeeds at h
  split at h
  · cases h
    exact ⟨_, rfl⟩
  · split at h
    · cases h
      exact ⟨_, rfl⟩
    · cases h

theorem find_eq_noBump :
    s.find seeds program = .error .noBump ↔
      checkSeeds (maxSeeds - 1) seeds = .ok () ∧ s.search seeds program 255 = none := by
  unfold find
  cases hcheck : checkSeeds (maxSeeds - 1) seeds with
  | error e =>
    obtain ⟨cause, rfl⟩ := seed_of_checkSeeds hcheck
    simp [bind, Except.bind]
  | ok => cases s.search seeds program 255 <;> simp [bind, Except.bind, pure, Except.pure]

theorem find_eq_seed :
    (∃ cause, s.find seeds program = .error (.seed cause)) ↔
      checkSeeds (maxSeeds - 1) seeds ≠ .ok () := by
  unfold find
  cases hcheck : checkSeeds (maxSeeds - 1) seeds with
  | error e =>
    obtain ⟨cause, rfl⟩ := seed_of_checkSeeds hcheck
    simp [bind, Except.bind]
  | ok => cases s.search seeds program 255 <;> simp [bind, Except.bind, pure, Except.pure]

theorem deriveUntagged_eq : s.deriveUntagged program seeds =
    if [] ∈ seeds then .error (.seed .empty) else s.find seeds program := by
  by_cases hempty : [] ∈ seeds
  · rw [if_pos hempty]
    exact if_pos (List.any_eq_true.2 ⟨[], hempty, rfl⟩)
  · rw [if_neg hempty]
    exact deriveUntagged_of_nonempty fun seed hmem hseed => hempty (hseed ▸ hmem)

theorem derive_eq {tag : Bytes} : s.derive program tag seeds =
    if tag = [] then .error (.seed .emptyTag) else if [] ∈ seeds then .error (.seed .empty)
    else s.find (seeds ++ [tag]) program := by
  unfold derive
  by_cases htag : tag = []
  · rw [if_pos htag, if_pos (List.isEmpty_iff.2 htag)]
  · rw [if_neg htag, if_neg fun h => htag (List.isEmpty_iff.1 h), deriveUntagged_eq]
    simp only [List.mem_append, List.mem_singleton, Ne.symm htag, or_false]

/-! ## Seeds that hold a bump -/

section bumps

variable {b : UInt8} {address : Address}

theorem checkSeeds_bump :
    checkSeeds maxSeeds (seeds ++ [[b]]) = .ok () ↔ checkSeeds (maxSeeds - 1) seeds = .ok () := by
  rw [checkSeeds_eq_ok, checkSeeds_eq_ok, List.length_append, List.length_singleton, maxSeeds]
  refine and_congr (by omega) ?_
  simp [maxSeedLength, or_imp, forall_and]

theorem create_of_candidate (hcheck : checkSeeds maxSeeds seeds = .ok ())
    (h : s.candidate? seeds program = some address) : s.create seeds program = .ok address := by
  unfold create
  rw [hcheck, h]
  rfl

theorem create_of_no_candidate (hcheck : checkSeeds maxSeeds seeds = .ok ())
    (h : s.candidate? seeds program = none) :
    s.create seeds program = .error (.seed .onCurve) := by
  unfold create
  rw [hcheck, h]
  rfl

end bumps

/-! ## The greatest bump -/

/-- Seeds with room for a bump: at most 15 of them, and none of more than 32 bytes. -/
def Admissible (seeds : List Bytes) : Prop :=
  seeds.length ≤ 15 ∧ ∀ seed ∈ seeds, seed.length ≤ 32

/-- The hash of seeds, a bump, a program and the marker in a row. -/
def hashOf (s : AddressScheme) (seeds : List Bytes) (program : Address) (bump : UInt8) : Address :=
  s.digest (seeds.flatten ++ [bump] ++ program.bytes ++ marker)

theorem checkSeeds_iff_admissible : checkSeeds (maxSeeds - 1) seeds = .ok () ↔ Admissible seeds :=
  checkSeeds_eq_ok

theorem candidate?_bump (s : AddressScheme) (seeds : List Bytes) (program : Address) (b : UInt8) :
    s.candidate? (seeds ++ [[b]]) program =
      if s.onCurve (s.hashOf seeds program b) then none else some (s.hashOf seeds program b) := by
  unfold candidate? hashOf preimage
  rw [List.flatten_concat]

theorem finds_iff : s.Finds seeds program 255 a ↔ 1 ≤ a.bump.toNat ∧
    s.hashOf seeds program a.bump = a.address ∧ s.onCurve a.address = false ∧
      ∀ b, a.bump < b → s.onCurve (s.hashOf seeds program b) = true := by
  constructor
  · rintro ⟨hpos, -, hcandidate, hgreatest⟩
    rw [candidate?_bump, Option.ite_none_left_eq_some, Option.some.injEq] at hcandidate
    obtain ⟨hcurve, hhash⟩ := hcandidate
    refine ⟨hpos, hhash, hhash ▸ Bool.eq_false_iff.2 hcurve, fun b hlt => ?_⟩
    have hnone := hgreatest b (UInt8.lt_iff_toNat_lt.1 hlt) (Nat.le_of_lt_succ b.toNat_lt)
    rw [candidate?_bump] at hnone
    by_contra hcurve'
    rw [if_neg hcurve'] at hnone
    cases hnone
  · rintro ⟨hpos, hhash, hcurve, hgreatest⟩
    refine ⟨hpos, Nat.le_of_lt_succ a.bump.toNat_lt, ?_, fun b hlt _ => ?_⟩
    · rw [candidate?_bump, hhash, if_neg (Bool.eq_false_iff.1 hcurve)]
    · rw [candidate?_bump, if_pos (hgreatest b (UInt8.lt_iff_toNat_lt.2 hlt))]

theorem search_all_eq_none : s.search seeds program 255 = none ↔
    ∀ b : UInt8, 1 ≤ b.toNat → s.onCurve (s.hashOf seeds program b) = true := by
  rw [search_eq_none (by decide)]
  refine forall_congr' fun b => forall_congr' fun _ => ?_
  rw [candidate?_bump, forall_prop_of_true (Nat.le_of_lt_succ b.toNat_lt)]
  simp

/-- Whatever the hash and the curve, a search finds an account exactly where the seeds leave room
for a bump and the account has the greatest bump whose hash is off the curve; the address can then
be had from the seeds and the bump, and from no greater one. It fails for want of a bump exactly
where there is none, and for the seeds exactly where they leave no room. Deriving is searching with
the tag behind the seeds, except that empty tags and seeds are refused. -/
theorem find_exact (s : AddressScheme) (seeds : List Bytes) (program : Address) :
    (∀ a, s.find seeds program = .ok a ↔ Admissible seeds ∧ 1 ≤ a.bump.toNat ∧
      s.hashOf seeds program a.bump = a.address ∧ s.onCurve a.address = false ∧
        ∀ b, a.bump < b → s.onCurve (s.hashOf seeds program b) = true) ∧
    (s.find seeds program = .error .noBump ↔ Admissible seeds ∧
      ∀ b : UInt8, 1 ≤ b.toNat → s.onCurve (s.hashOf seeds program b) = true) ∧
    ((∃ cause, s.find seeds program = .error (.seed cause)) ↔ ¬ Admissible seeds) ∧
    (∀ a, s.find seeds program = .ok a →
      s.create (seeds ++ [[a.bump]]) program = .ok a.address ∧
        ∀ b, a.bump < b → s.create (seeds ++ [[b]]) program = .error (.seed .onCurve)) ∧
    (s.deriveUntagged program seeds =
      if [] ∈ seeds then .error (.seed .empty) else s.find seeds program) ∧
    ∀ tag, s.derive program tag seeds =
      if tag = [] then .error (.seed .emptyTag) else if [] ∈ seeds then .error (.seed .empty)
      else s.find (seeds ++ [tag]) program := by
  refine ⟨fun a => ?_, ?_, ?_, fun a found => ?_, deriveUntagged_eq, fun tag => derive_eq⟩
  · rw [find_eq_ok, checkSeeds_iff_admissible, finds_iff]
  · rw [find_eq_noBump, checkSeeds_iff_admissible, search_all_eq_none]
  · rw [find_eq_seed, ne_eq, checkSeeds_iff_admissible]
  · obtain ⟨hcheck, hfinds⟩ := find_eq_ok.1 found
    refine ⟨create_of_candidate (checkSeeds_bump.2 hcheck) hfinds.candidate, fun b hlt => ?_⟩
    refine create_of_no_candidate (checkSeeds_bump.2 hcheck) ?_
    exact hfinds.greatest b (UInt8.lt_iff_toNat_lt.1 hlt) (Nat.le_of_lt_succ b.toNat_lt)

/-- A scheme that hashes the first two bytes to themselves, where bumps above 253 behind a seed of
one byte lead to the curve. -/
def steep : AddressScheme where
  digest bytes := ⟨Bytes.ofNat 32 (Bytes.toNat (bytes.take 2)), by simp⟩
  onCurve a := a.bytes.getLast?.any (253 < ·)

theorem find_exact_steep :
    steep.find [[7]] Address.zero = .ok ⟨⟨Bytes.ofNat 32 2045, by simp⟩, 253⟩ ∧
      steep.create ([[7]] ++ [[253]]) Address.zero = .ok ⟨Bytes.ofNat 32 2045, by simp⟩ ∧
      steep.create ([[7]] ++ [[254]]) Address.zero = .error (.seed .onCurve) := by
  have found : steep.find [[7]] Address.zero = .ok ⟨⟨Bytes.ofNat 32 2045, by simp⟩, 253⟩ := by
    decide +kernel
  obtain ⟨created, above⟩ := (find_exact steep [[7]] Address.zero).2.2.2.1 _ found
  exact ⟨found, created, above 254 (by decide)⟩

end CustodyBridge.AddressScheme
