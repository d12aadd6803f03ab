/-!
# Unsigned integers in text

Decimal digits, after at most one plus sign, read up to a given limit.
-/

namespace CustodyBridge.Integer

inductive Error where
  | empty
  | invalidDigit
  | tooLarge
deriving DecidableEq

def Error.message : Error → String
  | .empty => "cannot parse integer from empty string"
  | .invalidDigit => "invalid digit found in string"
  | .tooLarge => "number too large to fit in target type"

def digitValue? (c : Char) : Option Nat :=
  if '0' ≤ c ∧ c ≤ '9' then some (c.toNat - '0'.toNat) else none

/-- Appends digits to `n`; the first fault from the left decides the error. -/
def appendDigits (limit n : Nat) : List Char → Except Error Nat
  | [] => .ok n
  | c :: rest =>
    match digitValue? c with
    | none => .error .invalidDigit
    | some value =>
      if limit < 10 * n + value then .error .tooLarge
      else appendDigits limit (10 * n + value) rest

/-- The number that a text denotes, at most `limit`. -/
def parse (limit : Nat) (text : List Char) : Except Error Nat :=
  match text with
  | [] => .error .empty
  | ['+'] => .error .invalidDigit
  | '+' :: digits => appendDigits limit 0 digits
  | digits => appendDigits limit 0 digits

end CustodyBridge.Integer
