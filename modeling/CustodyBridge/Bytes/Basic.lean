/-!
# Byte strings

Byte strings, the numbers they denote, and the 32-byte strings that addresses and digests are.
-/

namespace CustodyBridge

abbrev Bytes := List UInt8

/-- A 128-bit word. -/
abbrev Word128 := BitVec 128

/-- The number of 128-bit words, 2^128. -/
abbrev Word128.size : Nat := 340282366920938463463374607431768211456

namespace Bytes

/-! ## Numbers, most significant byte first -/

/-- The number that a byte string denotes. -/
def toNat (bytes : Bytes) : Nat :=
  bytes.foldl (fun n b => n * 256 + b.toNat) 0

/-- The low `size` bytes of a number. -/
def ofNat : (size n : Nat) → Bytes
  | 0, _ => []
  | size + 1, n => ofNat size (n / 256) ++ [UInt8.ofNat n]

@[simp] theorem length_ofNat (size n : Nat) : (ofNat size n).length = size := by
  induction size generalizing n with
  | zero => rfl
  | succ size ih => simp [ofNat, ih]

theorem toNat_append_singleton (bytes : Bytes) (b : UInt8) :
    toNat (bytes ++ [b]) = toNat bytes * 256 + b.toNat := by
  simp [toNat]

/-! ## Text -/

/-- The UTF-8 form of a text. -/
def ofText (text : String) : Bytes :=
  text.toList.flatMap String.utf8EncodeChar

end Bytes

/-! ## 32-byte strings -/

/-- The bytes of an address, or of a hash. -/
structure Bytes32 where
  bytes : Bytes
  length_bytes : bytes.length = 32 := by simp
deriving DecidableEq

namespace Bytes32

def zero : Bytes32 := ⟨List.replicate 32 0, by simp⟩

def ofBytes? (bytes : Bytes) : Option Bytes32 :=
  if h : bytes.length = 32 then some ⟨bytes, h⟩ else none

/-- A byte string of at most 32 bytes, with zero bytes put in front. -/
def ofPadded? (bytes : Bytes) : Option Bytes32 :=
  if h : bytes.length ≤ 32 then
    some ⟨List.replicate (32 - bytes.length) 0 ++ bytes, by simp; omega⟩
  else none

theorem ext_bytes {a b : Bytes32} (h : a.bytes = b.bytes) : a = b := by
  cases a; cases b; simp_all

@[simp] theorem ofBytes?_bytes (a : Bytes32) : ofBytes? a.bytes = some a := by
  simp [ofBytes?, a.length_bytes]

theorem ofBytes?_eq_some_iff {bytes : Bytes} {a : Bytes32} :
    ofBytes? bytes = some a ↔ bytes = a.bytes := by
  unfold ofBytes?
  split
  · constructor
    · intro h; cases h; rfl
    · rintro rfl; rfl
  · constructor
    · intro h; cases h
    · rintro rfl; exact absurd a.length_bytes ‹_›

instance : Ord Bytes32 := ⟨compareOn Bytes32.bytes⟩

instance : Std.TransOrd Bytes32 :=
  inferInstanceAs (Std.TransCmp (compareOn Bytes32.bytes))

instance : Std.LawfulEqOrd Bytes32 where
  compare_self := Std.ReflOrd.compare_self (a := _)
  eq_of_compare h := ext_bytes (Std.LawfulEqOrd.eq_of_compare h)

end Bytes32

end CustodyBridge
