import CustodyBridge.Bytes.Basic

/-!
# Bytes quoted in messages

A byte that a message quotes stands between single quotes as the character of that number, or as
an escape when the character cannot be printed.
-/

namespace CustodyBridge.Quoted

def hexDigits (n : Nat) : String := String.ofList (Nat.toDigits 16 n)

/-- The characters below 256 that are written as an escape of their number. -/
def isUnprintable (n : Nat) : Bool := n < 0x20 || (0x7f ≤ n && n ≤ 0xa0) || n = 0xad

def escape (n : Nat) : String :=
  if n = 0 then "\\0"
  else if n = 9 then "\\t"
  else if n = 10 then "\\n"
  else if n = 13 then "\\r"
  else if n = 39 then "\\'"
  else if n = 92 then "\\\\"
  else if isUnprintable n then "\\u\x7b" ++ hexDigits n ++ "\x7d"
  else (Char.ofNat n).toString

def byte (b : UInt8) : String := "'" ++ escape b.toNat ++ "'"

end CustodyBridge.Quoted
