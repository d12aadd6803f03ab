import CustodyBridge.Proofs.Derivation
import CustodyBridge.Proofs.Message
import CustodyBridge.Purpose

/-!
# Namespaces of accounts

Seeds have no lengths in front, the tag stands behind the variable parts, and token relations have
none. Yet the strings that are hashed for the accounts of two purposes differ: how long they are in
all tells how they are divided. Only the configurations of the two programs have the same seeds.
-/

namespace CustodyBridge

namespace Purpose

variable {p q : Purpose} {programs : Programs} {b c : UInt8}

/-! ## Seeds -/

/-- How long the seeds are, whatever the purpose is about. -/
def shape : Purpose → List Nat
  | bridgeConfig | bridgeAuthority | coreConfig => [6]
  | feeVault => [8]
  | pool _ => [32, 4]
  | position _ _ => [32, 32, 2]
  | chainRelation _ => [9, 14]
  | tokenRelation _ _ => [9, 32]
  | nonceCounter _ => [9, 7]

theorem map_length_seeds (p : Purpose) : p.seeds.map List.length = p.shape := by
  cases p <;> simp [seeds, subject, tag?, shape, Bytes32.length_bytes] <;> decide

theorem length_of_mem_seeds {seed : Bytes} (h : seed ∈ p.seeds) :
    0 < seed.length ∧ seed.length ≤ AddressScheme.maxSeedLength := by
  have hmem : seed.length ∈ p.shape := by
    rw [← map_length_seeds]
    exact List.mem_map_of_mem h
  have hshape : ∀ n ∈ p.shape, 0 < n ∧ n ≤ 32 := by
    cases p <;> simp [shape]
  exact hshape _ hmem

/-- How long the seeds are in all. -/
def size (p : Purpose) : Nat := p.shape.foldr (· + ·) 0

theorem length_flatten_seeds (p : Purpose) : p.seeds.flatten.length = p.size := by
  rw [List.length_flatten, map_length_seeds]
  rfl

theorem shape_eq_of_size_eq (h : p.size = q.size) : p.shape = q.shape := by
  unfold size at h
  cases p <;> cases q <;> first | rfl | simp [shape] at h

/-- The configurations of the two programs, in either order. -/
def Twins (p q : Purpose) : Prop :=
  p = bridgeConfig ∧ q = coreConfig ∨ p = coreConfig ∧ q = bridgeConfig

theorem seeds_eq_iff : p.seeds = q.seeds ↔ p = q ∨ Twins p q := by
  constructor
  · intro h
    have hshape : p.shape = q.shape := by
      rw [← map_length_seeds, h, map_length_seeds]
    -- purposes of one shape are of one kind, or singletons with tags of one length
    cases p <;> cases q <;> simp [shape] at hshape
    case bridgeConfig.bridgeConfig | bridgeAuthority.bridgeAuthority | coreConfig.coreConfig
        | feeVault.feeVault => exact .inl rfl
    case bridgeConfig.coreConfig | coreConfig.bridgeConfig => simp [Twins]
    case bridgeConfig.bridgeAuthority | bridgeAuthority.bridgeConfig
        | bridgeAuthority.coreConfig | coreConfig.bridgeAuthority =>
      exact absurd h (by decide)
    all_goals
      left
      simpa [seeds, subject, tag?, Chain.key_inj, Bytes32.bytes_inj] using h
  · rintro (rfl | ⟨rfl, rfl⟩ | ⟨rfl, rfl⟩) <;> rfl

theorem flatten_seeds_eq_iff : p.seeds.flatten = q.seeds.flatten ↔ p = q ∨ Twins p q := by
  rw [← seeds_eq_iff]
  constructor
  · intro h
    have hsize : p.size = q.size := by
      rw [← length_flatten_seeds, h, length_flatten_seeds]
    refine List.eq_iff_flatten_eq.2 ⟨h, ?_⟩
    rw [map_length_seeds, map_length_seeds]
    exact shape_eq_of_size_eq hsize
  · exact congrArg List.flatten

/-! ## Strings -/

/-- The string that is hashed for a bump. -/
def hashed (p : Purpose) (programs : Programs) (bump : UInt8) : Bytes :=
  AddressScheme.preimage (p.seeds ++ [[bump]]) (p.owner programs)

theorem Twins.owner_eq_iff (h : Twins p q) :
    p.owner programs = q.owner programs ↔ programs.bridge = programs.message := by
  obtain ⟨rfl, rfl⟩ | ⟨rfl, rfl⟩ := h
  · exact Iff.rfl
  · exact eq_comm

theorem hashed_eq_iff :
    p.hashed programs b = q.hashed programs c ↔
      b = c ∧ (p = q ∨ Twins p q ∧ programs.bridge = programs.message) := by
  rw [hashed, hashed, AddressScheme.preimage_bump_inj, flatten_seeds_eq_iff]
  constructor
  · rintro ⟨rfl | twins, rfl, howner⟩
    · exact ⟨rfl, .inl rfl⟩
    · exact ⟨rfl, .inr ⟨twins, twins.owner_eq_iff.1 howner⟩⟩
  · rintro ⟨rfl, rfl | ⟨twins, hprograms⟩⟩
    · exact ⟨.inl rfl, rfl, rfl⟩
    · exact ⟨.inr twins, rfl, twins.owner_eq_iff.2 hprograms⟩

/-! ## Accounts -/

variable {s : AddressScheme} {a : Account}

theorem account_eq_find (s : AddressScheme) :
    p.account s programs = s.find p.seeds (p.owner programs) := by
  have hne : ∀ seed ∈ p.seeds, seed ≠ [] := fun seed h =>
    List.ne_nil_of_length_pos (length_of_mem_seeds h).1
  unfold account
  cases htag : p.tag? with
  | none =>
    have hseeds : p.seeds = p.subject := by simp [seeds, htag]
    rw [hseeds] at hne ⊢
    exact AddressScheme.deriveUntagged_of_nonempty hne
  | some tag =>
    have hseeds : p.seeds = p.subject ++ [Bytes.ofText tag] := by simp [seeds, htag]
    rw [hseeds] at hne ⊢
    exact AddressScheme.derive_of_nonempty hne

theorem account_eq_ok :
    p.account s programs = .ok a ↔ s.Finds p.seeds (p.owner programs) 255 a := by
  have hcheck : AddressScheme.checkSeeds (AddressScheme.maxSeeds - 1) p.seeds = .ok () := by
    rw [AddressScheme.checkSeeds_eq_ok, ← List.length_map List.length, map_length_seeds]
    refine ⟨?_, fun seed h => (length_of_mem_seeds h).2⟩
    cases p <;> simp [shape, AddressScheme.maxSeeds]
  rw [account_eq_find, AddressScheme.find_eq_ok]
  exact and_iff_right hcheck

theorem digest_hashed (h : p.account s programs = .ok a) :
    s.digest (p.hashed programs a.bump) = a.address :=
  (AddressScheme.candidate?_eq_some.1 (account_eq_ok.1 h).candidate).1

theorem eq_or_collides {a' : Account} (hp : p.account s programs = .ok a)
    (hq : q.account s programs = .ok a') (h : a.address = a'.address) :
    (p = q ∨ Twins p q ∧ programs.bridge = programs.message) ∨
      s.Collides (p.hashed programs a.bump) (q.hashed programs a'.bump) := by
  by_cases hstring : p.hashed programs a.bump = q.hashed programs a'.bump
  · exact .inl (hashed_eq_iff.1 hstring).2
  · refine .inr ⟨hstring, ?_⟩
    rw [digest_hashed hp, digest_hashed hq, h]

/-- No string is hashed for two purposes of two programs, nor for two bumps of one purpose. So two
accounts of one address are a collision of the hash. If the programs are one, only the two
configurations share their strings. -/
theorem namespaces_apart (programs : Programs) :
    (programs.bridge ≠ programs.message →
      (∀ (p q : Purpose) (b c : UInt8),
        p.hashed programs b = q.hashed programs c → p = q ∧ b = c) ∧
      ∀ (s : AddressScheme) (p q : Purpose) (a a' : Account), p ≠ q →
        p.account s programs = .ok a → q.account s programs = .ok a' → a.address = a'.address →
        s.Collides (p.hashed programs a.bump) (q.hashed programs a'.bump)) ∧
    (programs.bridge = programs.message → ∀ (p q : Purpose) (b c : UInt8),
      p.hashed programs b = q.hashed programs c ↔ b = c ∧ (p = q ∨ Twins p q)) := by
  refine ⟨fun hne => ⟨fun p q b c h => ?_, fun s p q a a' hpq hp hq h => ?_⟩,
    fun hprograms p q b c => ?_⟩
  · obtain ⟨hbump, hpq | ⟨-, hprograms⟩⟩ := hashed_eq_iff.1 h
    · exact ⟨hpq, hbump⟩
    · exact absurd hprograms hne
  · obtain (hsame | ⟨-, hprograms⟩) | hcollides := eq_or_collides hp hq h
    · exact absurd hsame hpq
    · exact absurd hprograms hne
    · exact hcollides
  · rw [hashed_eq_iff]
    simp only [hprograms, and_true]

end Purpose

/-- A scheme that hashes everything to one address. -/
def AddressScheme.constant (address : Address) : AddressScheme where
  digest _ := address
  onCurve _ := false

namespace Sample

def bridgeProgram : Address := ⟨List.replicate 32 201, by simp⟩

def messageProgram : Address := ⟨List.replicate 32 202, by simp⟩

def crowd : Account := ⟨⟨List.replicate 32 203, by simp⟩, 255⟩

end Sample

theorem Purpose.namespaces_apart_crowd :
    Sample.bridgeProgram ≠ Sample.messageProgram ∧
    (AddressScheme.constant Sample.crowd.address).Collides
      (Purpose.bridgeConfig.hashed ⟨Sample.bridgeProgram, Sample.messageProgram⟩ 255)
      (Purpose.feeVault.hashed ⟨Sample.bridgeProgram, Sample.messageProgram⟩ 255) ∧
    Purpose.bridgeConfig.hashed ⟨Sample.bridgeProgram, Sample.bridgeProgram⟩ 7 =
      Purpose.coreConfig.hashed ⟨Sample.bridgeProgram, Sample.bridgeProgram⟩ 7 := by
  have two : Sample.bridgeProgram ≠ Sample.messageProgram := by decide
  have apart := (Purpose.namespaces_apart ⟨Sample.bridgeProgram, Sample.messageProgram⟩).1 two
  have merged := (Purpose.namespaces_apart ⟨Sample.bridgeProgram, Sample.bridgeProgram⟩).2 rfl
  refine ⟨two, ?_, (merged _ _ _ _).2 ⟨rfl, .inr (.inl ⟨rfl, rfl⟩)⟩⟩
  exact apart.2 _ _ _ Sample.crowd Sample.crowd (by decide) rfl rfl rfl

end CustodyBridge
