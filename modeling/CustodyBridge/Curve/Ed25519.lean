import CustodyBridge.Bytes.Basic

/-!
# The curve ed25519

Which 32-byte strings stand for a point of the curve -x² + y² = 1 + d·x²·y² over the integers
modulo 2^255 - 19.
-/

namespace CustodyBridge.Ed25519

/-- The field's order, 2^255 - 19. -/
def order : Nat := 57896044618658097711785492504343953926634992332820282019728792003956564819949

/-- The curve's constant, -121665 / 121666 in the field. -/
def d : Nat := 37095705934669439343138083508754565189542113879843219016388785533085940283555

/-- The power of `base` by the binary digits of an exponent, the highest digit first. -/
def power (modulus base : Nat) (digits : List Bool) : Nat :=
  digits.foldl (fun acc digit => acc * acc % modulus * (if digit then base else 1) % modulus) 1

/-- The binary digits of (order - 1) / 2, the highest first. -/
def halfOrderDigits : List Bool :=
  (List.range 254).map fun i => ((order - 1) / 2).testBit (253 - i)

/-- Whether a field element is the square of one: Euler's criterion. -/
def isSquare (a : Nat) : Bool := power order a halfOrderDigits ≤ 1

/-- The y coordinate that a string holds: its low 255 bits, the least significant byte first. -/
def yCoordinate (bytes : Bytes32) : Nat :=
  Bytes.toNat bytes.bytes.reverse % (order + 19) % order

/--
Some point has this y coordinate when x² = (y² - 1) / (d·y² + 1) can be solved. The divisor is
never zero, so the quotient is a square exactly when the product is.
-/
def isPoint (bytes : Bytes32) : Bool :=
  let y := yCoordinate bytes
  let square := y * y % order
  isSquare ((square + order - 1) * (d * square + 1) % order)

end CustodyBridge.Ed25519
