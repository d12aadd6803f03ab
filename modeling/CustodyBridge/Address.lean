import CustodyBridge.Text.Base58
import CustodyBridge.Text.Hex

/-!
# Addresses

Accounts, tokens, programs and users of every chain are named by 32 bytes. Shorter native
addresses take the trailing bytes. An address is written in base58 or in hexadecimal.
-/

namespace CustodyBridge

/-- An address of a program, an account, a mint, a caller or a token, on whatever chain. -/
abbrev Address := Bytes32

/-- Why a text or a byte string is no address. -/
inductive AddressError where
  | wrongLength (got : Nat)
  | tooLong (got : Nat)
  | hex (cause : Hex.Error)
  | base58 (cause : Base58.Error)
deriving DecidableEq

def AddressError.message : AddressError → String
  | .wrongLength got => s!"expected 32 bytes, got {got}"
  | .tooLong got => s!"address of {got} bytes exceeds 32"
  | .hex cause => s!"invalid hex: {cause.message}"
  | .base58 cause => s!"invalid base58: {cause.message}"

namespace Address

def zero : Address := Bytes32.zero

def isZero (a : Address) : Bool := a = zero

/-! ## From bytes -/

def ofBytes (bytes : Bytes) : Except AddressError Address :=
  match Bytes32.ofBytes? bytes with
  | some a => .ok a
  | none => .error (.wrongLength bytes.length)

/-- A shorter byte string gets zeros in front. -/
def ofPadded (bytes : Bytes) : Except AddressError Address :=
  match Bytes32.ofPadded? bytes with
  | some a => .ok a
  | none => .error (.tooLong bytes.length)

/-! ## Text -/

/-- The 32 bytes in hexadecimal, with the mark in front. -/
def toHex (a : Address) : String := "0x" ++ Hex.encode a.bytes

/-- A text without the `0x` that it may start with. -/
def hexDigits (text : String) : Bytes :=
  match text.toList with
  | '0' :: 'x' :: digits => Bytes.ofText (String.ofList digits)
  | _ => Bytes.ofText text

/-- Reads an even number of digits, 64 at most, with or without the mark in front. -/
def ofHex (text : String) : Except AddressError Address :=
  match Hex.decode (hexDigits text) with
  | .ok bytes => ofPadded bytes
  | .error cause => .error (.hex cause)

def toBase58 (a : Address) : String := Base58.encode a.bytes

/-- Reads a text that stands for exactly 32 bytes. -/
def ofBase58 (text : String) : Except AddressError Address :=
  match Base58.decode (Bytes.ofText text) with
  | .ok bytes => ofBytes bytes
  | .error cause => .error (.base58 cause)

end Address

end CustodyBridge
