import CustodyBridge.Bytes.Basic
import Mathlib.Algebra.Group.Nat.Defs
import Mathlib.Data.List.Induction

/-!
# Numbers as bytes

A byte string of a given size holds a number modulo that power of 256, and is the only one of its
size that holds its number.
-/

namespace CustodyBridge.Bytes

theorem toNat_ofNat (size n : Nat) : toNat (ofNat size n) = n % 256 ^ size := by
  induction size generalizing n with
  | zero => simp [ofNat, toNat, Nat.mod_one]
  | succ size ih =>
    have byte : (UInt8.ofNat n).toNat = n % 256 := by simp
    rw [ofNat, toNat_append_singleton, ih, byte, Nat.pow_succ, Nat.mul_comm (256 ^ size) 256,
      Nat.mod_mul]
    omega

theorem ofNat_toNat (bytes : Bytes) : ofNat bytes.length (toNat bytes) = bytes := by
  induction bytes using List.reverseRecOn with
  | nil => rfl
  | append_singleton bytes b ih =>
    have hb := b.toNat_lt
    have hquotient : (toNat bytes * 256 + b.toNat) / 256 = toNat bytes := by omega
    have hbyte : UInt8.ofNat (toNat bytes * 256 + b.toNat) = b := by
      apply UInt8.toNat_inj.1
      simp
    rw [List.length_append, List.length_singleton, toNat_append_singleton, ofNat, hquotient, ih,
      hbyte]

theorem toNat_lt (bytes : Bytes) : toNat bytes < 256 ^ bytes.length := by
  rw [← ofNat_toNat bytes, toNat_ofNat, length_ofNat]
  exact Nat.mod_lt _ (Nat.pow_pos (by decide))

end CustodyBridge.Bytes
