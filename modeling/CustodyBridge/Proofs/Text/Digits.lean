import CustodyBridge.Bytes.Lemmas
import CustodyBridge.Proofs.Text.Radix
import CustodyBridge.Text.Base58
import CustodyBridge.Text.Hex
import Mathlib.Data.List.Forall2
import Mathlib.Tactic.Common

/-!
# Digits read from a text

Texts are read byte by byte, and every digit is a single byte. So what is read is what the
characters of the text denote, one by one.
-/

namespace CustodyBridge

/-! ## Characters and bytes -/

namespace Bytes

theorem utf8EncodeChar_of_lt {c : Char} (h : c.toNat < 128) :
    String.utf8EncodeChar c = [UInt8.ofNat c.toNat] :=
  if_pos (Nat.le_of_lt_succ h)

theorem exists_utf8EncodeChar {c : Char} (h : ¬ c.toNat < 128) :
    ∃ b rest, String.utf8EncodeChar c = b :: rest ∧ ¬ b < 128 := by
  have hone : ¬ c.val.toNat ≤ 127 := fun hle => h (Nat.lt_succ_of_le hle)
  unfold String.utf8EncodeChar
  dsimp only
  rw [if_neg hone]
  split_ifs <;>
  · refine ⟨_, _, rfl, ?_⟩
    rw [UInt8.lt_iff_toNat_lt]
    simp
    omega

/-- What reads single bytes of a text reads its characters. -/
theorem forall₂_utf8 {β : Type} {Reads : UInt8 → β → Prop}
    (ascii : ∀ b v, Reads b v → b < 128) {chars : List Char} {values : List β} :
    List.Forall₂ Reads (chars.flatMap String.utf8EncodeChar) values ↔
      List.Forall₂ (fun c v => c.toNat < 128 ∧ Reads (UInt8.ofNat c.toNat) v) chars values := by
  induction chars generalizing values with
  | nil => rw [List.flatMap_nil, List.forall₂_nil_left_iff, List.forall₂_nil_left_iff]
  | cons c chars ih =>
    rw [List.flatMap_cons, List.forall₂_cons_left_iff]
    by_cases hc : c.toNat < 128
    · rw [utf8EncodeChar_of_lt hc, List.singleton_append, List.forall₂_cons_left_iff]
      simp only [ih, hc, true_and]
    · obtain ⟨b, rest, hb, hlarge⟩ := exists_utf8EncodeChar hc
      rw [hb, List.cons_append, List.forall₂_cons_left_iff]
      constructor
      · rintro ⟨v, _, hv, -⟩
        exact absurd (ascii b v hv) hlarge
      · rintro ⟨v, _, hv, -⟩
        exact absurd hv.1 hc

theorem toNat_eq_ofDigits (bytes : Bytes) :
    toNat bytes = Radix.ofDigits 256 (bytes.map UInt8.toNat) :=
  List.foldl_map.symm

end Bytes

/-! ## Base58 -/

namespace Base58

/-- A text spells a byte string if its digits have the number of the bytes, and it starts with as
many zeros. -/
def Spells (text : List Char) (bytes : Bytes) : Prop :=
  ∃ values, text = values.map digit ∧ Radix.Matches 58 256 values (bytes.map UInt8.toNat)

theorem toNat_digit_lt : ∀ v < 58, (digit v).toNat < 128 := by decide +kernel

theorem digitValue?_digit : ∀ v < 58, digitValue? (UInt8.ofNat (digit v).toNat) = some v := by
  decide +kernel

theorem digitValue?_eq_some {b : UInt8} {v : Nat} :
    digitValue? b = some v ↔ v < 58 ∧ (digit v).toNat = b.toNat := by
  constructor
  · intro h
    obtain ⟨hv, hb, -⟩ := List.findIdx?_eq_some_iff_getElem.1 h
    refine ⟨hv, ?_⟩
    rw [digit, List.getD_eq_getElem?_getD, List.getElem?_eq_getElem hv, Option.getD_some]
    exact of_decide_eq_true hb
  · rintro ⟨hv, hb⟩
    have hdigit := digitValue?_digit v hv
    rwa [hb, UInt8.ofNat_toNat] at hdigit

theorem lt_of_digitValue? {b : UInt8} {v : Nat} (h : digitValue? b = some v) : b < 128 := by
  obtain ⟨hv, hb⟩ := digitValue?_eq_some.1 h
  rw [UInt8.lt_iff_toNat_lt, ← hb]
  exact toNat_digit_lt v hv

theorem digitValues_eq_ok (position : Nat) {text : Bytes} {values : List Nat} :
    digitValues position text = .ok values ↔
      List.Forall₂ (fun b v => digitValue? b = some v) text values := by
  induction text generalizing position values with
  | nil => simp [digitValues, eq_comm]
  | cons b text ih =>
    rw [digitValues, List.forall₂_cons_left_iff]
    split
    · rename_i hlarge
      refine ⟨nofun, fun ⟨v, _, hv, _⟩ => ?_⟩
      have hsmall := lt_of_digitValue? hv
      rw [UInt8.lt_iff_toNat_lt] at hsmall hlarge
      exact absurd hsmall (Nat.not_lt.2 hlarge)
    · cases digitValue? b with
      | none => simp
      | some v =>
        simp only [Option.some.injEq, exists_eq_left', exists_and_left, ← ih (position + 1)]
        cases digitValues (position + 1) text with
        | error => simp
        | ok rest => simp [eq_comm]

theorem reads_digit {c : Char} {v : Nat} :
    c.toNat < 128 ∧ digitValue? (UInt8.ofNat c.toNat) = some v ↔ v < 58 ∧ c = digit v := by
  rw [digitValue?_eq_some]
  constructor
  · rintro ⟨hc, hv, hdigit⟩
    rw [UInt8.toNat_ofNat_of_lt' (Nat.lt_trans hc (by decide)), Char.toNat_inj] at hdigit
    exact ⟨hv, hdigit.symm⟩
  · rintro ⟨hv, rfl⟩
    have hlt := toNat_digit_lt v hv
    exact ⟨hlt, hv, (UInt8.toNat_ofNat_of_lt' (Nat.lt_trans hlt (by decide))).symm⟩

theorem reads_text {text : List Char} {values : List Nat} :
    List.Forall₂ (fun b v => digitValue? b = some v) (text.flatMap String.utf8EncodeChar) values ↔
      text = values.map digit ∧ ∀ v ∈ values, v < 58 := by
  rw [Bytes.forall₂_utf8 fun b v => lt_of_digitValue?]
  simp only [reads_digit]
  induction text generalizing values with
  | nil => cases values <;> simp
  | cons c text ih =>
    cases values with
    | nil => simp
    | cons v values =>
      rw [List.forall₂_cons, ih, List.map_cons, List.cons.injEq, List.forall_mem_cons]
      tauto

/-! ### Byte strings and their digits -/

theorem chars_eq (bytes : Bytes) :
    chars bytes = (Radix.convert 256 58 (bytes.map UInt8.toNat)).map digit := by
  have hzeros : (bytes.map UInt8.toNat).takeWhile (· = 0) =
      (bytes.takeWhile isZero).map UInt8.toNat := by
    rw [List.takeWhile_map]
    congr 2
    funext b
    simp [isZero, ← UInt8.toNat_inj]
  rw [chars, Radix.convert, hzeros, List.map_append, List.map_map, ← Bytes.toNat_eq_ofDigits]
  congr 1
  refine List.map_congr_left fun b hb => ?_
  obtain rfl : b = 0 := by simpa [isZero] using List.mem_takeWhile_imp hb
  rfl

theorem ofDigits_eq (digits : List Nat) :
    ofDigits digits = (Radix.convert 58 256 digits).map UInt8.ofNat := by
  rw [ofDigits, Radix.convert, List.map_append]
  congr 1
  refine List.map_congr_left fun d hd => ?_
  obtain rfl : d = 0 := by simpa using List.mem_takeWhile_imp hd
  rfl

theorem toNat_lt_of_mem {bytes : Bytes} : ∀ d ∈ bytes.map UInt8.toNat, d < 256 := by
  intro d hd
  obtain ⟨b, -, rfl⟩ := List.mem_map.1 hd
  exact b.toNat_lt

theorem spells_iff {text : List Char} {bytes : Bytes} : Spells text bytes ↔ text = chars bytes := by
  rw [chars_eq]
  constructor
  · rintro ⟨values, rfl, same⟩
    rw [same.symm.eq_convert (by decide)]
  · rintro rfl
    exact ⟨_, rfl, (Radix.matches_convert toNat_lt_of_mem (by decide)).symm⟩

theorem decode_eq_ok {text : List Char} {bytes : Bytes} :
    decode (text.flatMap String.utf8EncodeChar) = .ok bytes ↔ Spells text bytes := by
  have hdecode : decode (text.flatMap String.utf8EncodeChar) = .ok bytes ↔ ∃ values,
      (text = values.map digit ∧ ∀ v ∈ values, v < 58) ∧ ofDigits values = bytes := by
    simp only [← reads_text, ← digitValues_eq_ok 0, decode]
    cases digitValues 0 (text.flatMap String.utf8EncodeChar) <;> simp [Except.map]
  rw [hdecode]
  constructor
  · rintro ⟨values, ⟨rfl, hlt⟩, rfl⟩
    have same : Radix.Matches 58 256 values (Radix.convert 58 256 values) :=
      Radix.matches_convert hlt (by decide)
    have hbytes : (ofDigits values).map UInt8.toNat = Radix.convert 58 256 values := by
      rw [ofDigits_eq, List.map_map]
      refine (List.map_congr_left fun d hd => ?_).trans (List.map_id _)
      exact UInt8.toNat_ofNat_of_lt' (same.symm.lt (by decide) d hd)
    exact ⟨values, rfl, hbytes ▸ same⟩
  · rintro ⟨values, rfl, same⟩
    refine ⟨values, ⟨rfl, same.lt (by decide)⟩, ?_⟩
    rw [ofDigits_eq, ← same.eq_convert (by decide), List.map_map]
    simp [Function.comp_def]

end Base58

/-! ## Hexadecimal digits -/

namespace Hex

/-- A digit in either case, and its value. -/
def Denotes (c : Char) (v : Nat) : Prop := v < 16 ∧ (c = digit v ∨ c = (digit v).toUpper)

instance (c : Char) (v : Nat) : Decidable (Denotes c v) := inferInstanceAs (Decidable (_ ∧ _))

theorem lt_of_denotes {digits : List Char} {values : List Nat}
    (h : List.Forall₂ Denotes digits values) : ∀ v ∈ values, v < 16 := by
  induction h with
  | nil => nofun
  | cons hv _ ih => exact List.forall_mem_cons.2 ⟨hv.1, ih⟩

theorem not_denotes_mark (v : Nat) : ¬ Denotes 'x' v := by
  rintro ⟨hv, hx⟩
  revert v
  decide

/-- The values of the two digits of each byte. -/
def nibbles (bytes : Bytes) : List Nat := bytes.flatMap fun b => [b.toNat / 16, b.toNat % 16]

theorem toNat_digit : ∀ v < 16, (digit v).toNat = if v < 10 then 48 + v else 87 + v := by decide

theorem toNat_toUpper_digit :
    ∀ v < 16, (digit v).toUpper.toNat = if v < 10 then 48 + v else 55 + v := by decide

theorem digitValue?_eq_some {b : UInt8} {v : Nat} : digitValue? b = some v ↔
    v < 16 ∧ (b.toNat = (digit v).toNat ∨ b.toNat = (digit v).toUpper.toNat) := by
  by_cases hv : v < 16
  · rw [toNat_digit v hv, toNat_toUpper_digit v hv]
    simp only [digitValue?, UInt8.le_iff_toNat_le]
    split_ifs <;> simp at * <;> omega
  · simp only [digitValue?, UInt8.le_iff_toNat_le, hv, false_and, iff_false]
    split_ifs <;> simp at * <;> omega

theorem toNat_lt_of_denotes {c : Char} {v : Nat} (h : Denotes c v) : c.toNat < 128 := by
  obtain ⟨hv, rfl | rfl⟩ := h
  · rw [toNat_digit v hv]
    split <;> omega
  · rw [toNat_toUpper_digit v hv]
    split <;> omega

theorem lt_of_digitValue? {b : UInt8} {v : Nat} (h : digitValue? b = some v) : b < 128 := by
  rw [UInt8.lt_iff_toNat_lt]
  obtain ⟨hv, hb | hb⟩ := digitValue?_eq_some.1 h
  · exact hb ▸ toNat_lt_of_denotes ⟨hv, .inl rfl⟩
  · exact hb ▸ toNat_lt_of_denotes ⟨hv, .inr rfl⟩

theorem reads_digit {c : Char} {v : Nat} :
    c.toNat < 128 ∧ digitValue? (UInt8.ofNat c.toNat) = some v ↔ Denotes c v := by
  have hread (hc : c.toNat < 128) :
      digitValue? (UInt8.ofNat c.toNat) = some v ↔ Denotes c v := by
    rw [digitValue?_eq_some, UInt8.toNat_ofNat_of_lt' (Nat.lt_trans hc (by decide)),
      Char.toNat_inj, Char.toNat_inj, Denotes]
  exact ⟨fun ⟨hc, hv⟩ => (hread hc).1 hv, fun h =>
    ⟨toNat_lt_of_denotes h, (hread (toNat_lt_of_denotes h)).2 h⟩⟩

@[simp] theorem nibbles_nil : nibbles [] = [] := rfl

@[simp] theorem nibbles_cons (b : UInt8) (bytes : Bytes) :
    nibbles (b :: bytes) = b.toNat / 16 :: b.toNat % 16 :: nibbles bytes := rfl

theorem ofNat_eq_iff {h l : Nat} {b : UInt8} (hh : h < 16) (hl : l < 16) :
    UInt8.ofNat (16 * h + l) = b ↔ h = b.toNat / 16 ∧ l = b.toNat % 16 := by
  have hbyte : (UInt8.ofNat (16 * h + l)).toNat = 16 * h + l :=
    UInt8.toNat_ofNat_of_lt' (show 16 * h + l < 256 by omega)
  rw [← UInt8.toNat_inj, hbyte]
  omega

theorem decodePairs_eq_ok {position : Nat} {text bytes : Bytes} :
    decodePairs position text = .ok bytes ↔
      List.Forall₂ (fun b v => digitValue? b = some v) text (nibbles bytes) := by
  fun_induction decodePairs position text generalizing bytes with
  | case1 | case2 => cases bytes <;> simp
  | case3 | case4 => cases bytes <;> simp [*]
  | case5 position high low rest h l hl hh ih =>
    cases bytes with
    | nil =>
      cases decodePairs (position + 2) rest with
      | error => simp
      | ok => simp [bind, Except.bind, pure, Except.pure]
    | cons b bytes =>
      rw [nibbles_cons, List.forall₂_cons, List.forall₂_cons, hh, hl, ← ih, Option.some.injEq,
        Option.some.injEq, ← and_assoc, ← ofNat_eq_iff (digitValue?_eq_some.1 hh).1
          (digitValue?_eq_some.1 hl).1]
      cases decodePairs (position + 2) rest with
      | error => simp
      | ok => simp [bind, Except.bind, pure, Except.pure]

theorem exists_nibbles : ∀ {values : List Nat}, (∀ v ∈ values, v < 16) → values.length % 2 = 0 →
    ∃ bytes, nibbles bytes = values
  | [], _, _ => ⟨[], rfl⟩
  | [_], _, even => by simp at even
  | h :: l :: rest, hlt, even => by
    simp only [List.forall_mem_cons] at hlt
    obtain ⟨hh, hl, hrest⟩ := hlt
    obtain ⟨bytes, rfl⟩ := exists_nibbles hrest (by simpa [Nat.add_assoc] using even)
    obtain ⟨hhigh, hlow⟩ := (ofNat_eq_iff hh hl).1 rfl
    exact ⟨UInt8.ofNat (16 * h + l) :: bytes, by rw [nibbles_cons, ← hhigh, ← hlow]⟩

theorem lt_of_mem_nibbles {bytes : Bytes} {v : Nat} (h : v ∈ nibbles bytes) : v < 16 := by
  obtain ⟨b, -, hv⟩ := List.mem_flatMap.1 h
  have hb := b.toNat_lt
  simp only [List.mem_cons, List.not_mem_nil, or_false] at hv
  omega

theorem length_nibbles (bytes : Bytes) : (nibbles bytes).length = 2 * bytes.length := by
  induction bytes with
  | nil => rfl
  | cons b bytes ih =>
    rw [nibbles_cons, List.length_cons, List.length_cons, List.length_cons, ih]
    omega

theorem ofDigits_nibbles (bytes : Bytes) :
    Radix.ofDigits 16 (nibbles bytes) = Bytes.toNat bytes := by
  induction bytes using List.reverseRecOn with
  | nil => rfl
  | append_singleton bytes b ih =>
    have hpair : nibbles (bytes ++ [b]) = nibbles bytes ++ [b.toNat / 16] ++ [b.toNat % 16] := by
      simp [nibbles]
    rw [hpair, Radix.ofDigits_append_singleton, Radix.ofDigits_append_singleton, ih,
      Bytes.toNat_append_singleton]
    omega

theorem decode_eq_ok {text : List Char} {bytes : Bytes} :
    decode (text.flatMap String.utf8EncodeChar) = .ok bytes ↔
      List.Forall₂ Denotes text (nibbles bytes) := by
  have hchars : List.Forall₂ (fun b v => digitValue? b = some v)
      (text.flatMap String.utf8EncodeChar) (nibbles bytes) ↔
        List.Forall₂ Denotes text (nibbles bytes) := by
    rw [Bytes.forall₂_utf8 fun b v => lt_of_digitValue?]
    simp only [reads_digit]
  rw [decode]
  split
  · rename_i odd
    refine ⟨nofun, fun h => ?_⟩
    have hlength := (hchars.2 h).length_eq
    rw [length_nibbles] at hlength
    omega
  · rw [decodePairs_eq_ok, hchars]

theorem denotes_chars (bytes : Bytes) : List.Forall₂ Denotes (chars bytes) (nibbles bytes) := by
  have hchars : chars bytes = (nibbles bytes).map digit := by
    simp [chars, nibbles, List.map_flatMap]
  rw [hchars, List.forall₂_map_left_iff, List.forall₂_same]
  exact fun v hv => ⟨lt_of_mem_nibbles hv, .inl rfl⟩

end Hex

end CustodyBridge
