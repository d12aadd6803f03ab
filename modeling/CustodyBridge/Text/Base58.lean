import CustodyBridge.Text.Quoted
import CustodyBridge.Text.Radix

/-!
# Base58 text

The bitcoin alphabet: a byte string is a number in base 58, with one `1` for each zero byte that
it starts with.
-/

namespace CustodyBridge.Base58

inductive Error where
  | notAscii (position : Nat)
  | invalidDigit (byte : UInt8) (position : Nat)
deriving DecidableEq

def Error.message : Error → String
  | .notAscii position =>
    s!"provided string contained non-ascii character starting at byte {position}"
  | .invalidDigit byte position =>
    s!"provided string contained invalid character {Quoted.byte byte} at byte {position}"

/-! ## Digits -/

/-- Letters and digits that look alike are left out. -/
def alphabet : List Char :=
  "123456789ABCDEFGHJKLMNPQRSTUVWXYZabcdefghijkmnopqrstuvwxyz".toList

def digit (n : Nat) : Char := alphabet.getD n '1'

def digitValue? (b : UInt8) : Option Nat :=
  alphabet.findIdx? fun c => c.toNat = b.toNat

/-! ## Bytes -/

def isZero (b : UInt8) : Bool := b = 0

/-- Each zero byte in front is a digit of its own. -/
def chars (bytes : Bytes) : List Char :=
  (bytes.takeWhile isZero).map (fun _ => '1') ++ (Radix.digits 58 (Bytes.toNat bytes)).map digit

def encode (bytes : Bytes) : String := String.ofList (chars bytes)

/-- The values of the digits of a text, the first of which is at `position`. -/
def digitValues (position : Nat) : Bytes → Except Error (List Nat)
  | [] => .ok []
  | b :: rest =>
    if 127 < b then .error (.notAscii position)
    else
      match digitValue? b with
      | none => .error (.invalidDigit b position)
      | some value => do
        let values ← digitValues (position + 1) rest
        return value :: values

/-- The byte string with given digits. -/
def ofDigits (digits : List Nat) : Bytes :=
  (digits.takeWhile (· = 0)).map (fun _ => 0) ++
    (Radix.digits 256 (Radix.ofDigits 58 digits)).map UInt8.ofNat

def decode (text : Bytes) : Except Error Bytes := (digitValues 0 text).map ofDigits

end CustodyBridge.Base58
