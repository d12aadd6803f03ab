/-!
# Digits in a base

Numbers as digit strings, most significant digit first, with no digit for zero.
-/

namespace CustodyBridge.Radix

/-- The number of some digits, the greatest first. -/
def ofDigits (base : Nat) (digits : List Nat) : Nat :=
  digits.foldl (fun n d => n * base + d) 0

/-- At most `count` digits, put in front of `tail`. -/
def prepend (base : Nat) : (count n : Nat) → (tail : List Nat) → List Nat
  | 0, _, tail => tail
  | count + 1, n, tail => if n = 0 then tail else prepend base count (n / base) (n % base :: tail)

/-- A number has at most as many digits as its own value. -/
def digits (base n : Nat) : List Nat := prepend base n n []

end CustodyBridge.Radix
