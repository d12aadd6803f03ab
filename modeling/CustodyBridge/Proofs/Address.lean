import CustodyBridge.Address
import CustodyBridge.Proofs.Text.Digits

/-!
# Addresses as texts

An address has one base58 text. It has many hexadecimal ones, with or without a mark, in either case
and with or without the zeros in front, and they are read as the number that their digits denote.
-/

namespace CustodyBridge

/-! ## Padded bytes -/

theorem Bytes.ofNat_toNat_of_le {bytes : Bytes} {size : Nat} (h : bytes.length ≤ size) :
    ofNat size (toNat bytes) = List.replicate (size - bytes.length) 0 ++ bytes := by
  have hnumber : toNat (List.replicate (size - bytes.length) 0 ++ bytes) = toNat bytes := by
    rw [toNat_eq_ofDigits, toNat_eq_ofDigits, List.map_append, List.map_replicate]
    exact Radix.ofDigits_zeros 256 _ _
  have hlength : (List.replicate (size - bytes.length) 0 ++ bytes).length = size := by
    simp
    omega
  rw [← ofNat_toNat (List.replicate (size - bytes.length) 0 ++ bytes), hnumber, hlength]

namespace Address

variable {a : Address} {text : String}

theorem ofBytes_eq_ok {bytes : Bytes} : ofBytes bytes = .ok a ↔ bytes = a.bytes := by
  rw [ofBytes, ← Bytes32.ofBytes?_eq_some_iff]
  cases Bytes32.ofBytes? bytes <;> simp

theorem ofPadded_eq_ok {bytes : Bytes} :
    ofPadded bytes = .ok a ↔ bytes.length ≤ 32 ∧ a.bytes = Bytes.ofNat 32 (Bytes.toNat bytes) := by
  unfold ofPadded Bytes32.ofPadded?
  by_cases hle : bytes.length ≤ 32
  · rw [dif_pos hle, Bytes.ofNat_toNat_of_le hle]
    simp only [Except.ok.injEq, hle, true_and]
    constructor
    · rintro rfl
      rfl
    · intro h
      exact Bytes32.ext_bytes h.symm
  · rw [dif_neg hle]
    simp [hle]

/-! ## Base58 -/

theorem ofBase58_eq_ok : ofBase58 text = .ok a ↔ text = a.toBase58 := by
  have hdecode : ofBase58 text = .ok a ↔ Base58.decode (Bytes.ofText text) = .ok a.bytes := by
    unfold ofBase58
    cases Base58.decode (Bytes.ofText text) with
    | error => simp
    | ok bytes => simp [ofBytes_eq_ok]
  rw [hdecode, Bytes.ofText, Base58.decode_eq_ok, Base58.spells_iff, toBase58, Base58.encode,
    ← String.toList_inj, String.toList_ofList]

/-! ## Hexadecimal -/

theorem decode_hexDigits {bytes : Bytes} : Hex.decode (hexDigits text) = .ok bytes ↔
    ∃ digits, (text.toList = digits ∨ text.toList = '0' :: 'x' :: digits) ∧
      List.Forall₂ Hex.Denotes digits (Hex.nibbles bytes) := by
  unfold hexDigits
  split
  · rename_i digits htext
    rw [Bytes.ofText, String.toList_ofList, Hex.decode_eq_ok]
    constructor
    · exact fun h => ⟨digits, .inr htext, h⟩
    · rintro ⟨others, hothers, h⟩
      rw [htext] at hothers
      obtain rfl | hsame := hothers
      · -- The mark holds a letter that is no digit.
        obtain ⟨_, _, -, h, -⟩ := List.forall₂_cons_left_iff.1 h
        obtain ⟨v, _, hx, -, -⟩ := List.forall₂_cons_left_iff.1 h
        exact absurd hx (Hex.not_denotes_mark v)
      · cases hsame
        exact h
  · rename_i hmark
    rw [Bytes.ofText, Hex.decode_eq_ok]
    constructor
    · exact fun h => ⟨_, .inl rfl, h⟩
    · rintro ⟨others, rfl | hothers, h⟩
      · exact h
      · exact absurd hothers (hmark others)

theorem ofHex_eq_ok : ofHex text = .ok a ↔ ∃ bytes, Hex.decode (hexDigits text) = .ok bytes ∧
    bytes.length ≤ 32 ∧ a.bytes = Bytes.ofNat 32 (Bytes.toNat bytes) := by
  unfold ofHex
  cases Hex.decode (hexDigits text) with
  | error => simp
  | ok bytes => simp [ofPadded_eq_ok]

theorem ofHex_toHex (a : Address) : ofHex a.toHex = .ok a := by
  have hdigits : a.toHex.toList = '0' :: 'x' :: Hex.chars a.bytes := by
    simp [toHex, Hex.encode]
  refine ofHex_eq_ok.2 ⟨a.bytes, decode_hexDigits.2 ⟨_, .inr hdigits, Hex.denotes_chars _⟩, ?_, ?_⟩
  · exact Nat.le_of_eq a.length_bytes
  · rw [← a.length_bytes, Bytes.ofNat_toNat]

theorem ofHex_eq_ok_iff : ofHex text = .ok a ↔ ∃ digits values,
    (text.toList = digits ∨ text.toList = '0' :: 'x' :: digits) ∧
    List.Forall₂ Hex.Denotes digits values ∧ digits.length % 2 = 0 ∧ digits.length ≤ 64 ∧
    a.bytes = Bytes.ofNat 32 (Radix.ofDigits 16 values) := by
  rw [ofHex_eq_ok]
  constructor
  · rintro ⟨bytes, hdecode, hlength, ha⟩
    obtain ⟨digits, htext, hdigits⟩ := decode_hexDigits.1 hdecode
    have hcount := hdigits.length_eq
    rw [Hex.length_nibbles] at hcount
    rw [← Hex.ofDigits_nibbles] at ha
    exact ⟨digits, _, htext, hdigits, by omega, by omega, ha⟩
  · rintro ⟨digits, values, htext, hdigits, even, hlength, ha⟩
    have hcount := hdigits.length_eq
    obtain ⟨bytes, rfl⟩ := Hex.exists_nibbles (Hex.lt_of_denotes hdigits) (hcount ▸ even)
    rw [Hex.length_nibbles] at hcount
    rw [Hex.ofDigits_nibbles] at ha
    exact ⟨bytes, decode_hexDigits.2 ⟨digits, htext, hdigits⟩, by omega, ha⟩

/-- An address is read back from both of its texts. No other text is one in base58: this spells the
32 bytes. A text is one in hexadecimal exactly where, less one mark at most, it is an even number of
digits, 64 at most, and the address is then the number that they denote, in 32 bytes. -/
theorem text_exact (a : Address) (text : String) :
    ofHex a.toHex = .ok a ∧
    (ofBase58 text = .ok a ↔ text = a.toBase58) ∧
    Base58.Spells a.toBase58.toList a.bytes ∧
    (ofHex text = .ok a ↔ ∃ digits values,
      (text.toList = digits ∨ text.toList = '0' :: 'x' :: digits) ∧
      List.Forall₂ Hex.Denotes digits values ∧ digits.length % 2 = 0 ∧ digits.length ≤ 64 ∧
      a.bytes = Bytes.ofNat 32 (Radix.ofDigits 16 values)) := by
  refine ⟨ofHex_toHex a, ofBase58_eq_ok, ?_, ofHex_eq_ok_iff⟩
  rw [Base58.spells_iff, toBase58, Base58.encode, String.toList_ofList]

end Address

end CustodyBridge
