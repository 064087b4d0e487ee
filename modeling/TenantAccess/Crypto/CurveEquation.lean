import TenantAccess.Crypto.BinaryField

/-! The equations of elliptic curves, and the ways in which a point of a curve is written: whole, or as
its abscissa and one binary digit that tells which of the two ordinates is meant. -/

namespace TenantAccess.Crypto

inductive CurveEquation where
  /-- The square of the ordinate is the cubic x³ + ax + b. -/
  | prime (field a b : Nat)
  /-- Here y² + xy is x³ + ax² + b. -/
  | binary (modulus a b : Nat)
  deriving DecidableEq, Repr

/-- A point as it is written. Beside a whole point the digit may be repeated. -/
inductive WrittenPoint where
  | infinite
  | half (x : Nat) (digit : Bool)
  | whole (x y : Nat) (digit : Option Bool)
  deriving DecidableEq, Repr

/-- Reads a point whose coordinates take the given number of octets. -/
def WrittenPoint.ofOctets? (size : Nat) : List UInt8 → Option WrittenPoint
  | [] => none
  | form :: coordinates =>
    let x := natOfOctets (coordinates.take size)
    let y := natOfOctets (coordinates.drop size)
    let digit := form % 2 = 1
    if form = 0 then if coordinates.isEmpty then some .infinite else none
    else if form = 2 ∨ form = 3 then
      if coordinates.length = size then some (.half x digit) else none
    else if coordinates.length ≠ 2 * size then none
    else if form = 4 then some (.whole x y none)
    else if form = 6 ∨ form = 7 then some (.whole x y (some digit))
    else none

namespace CurveEquation

/-- How many octets a coordinate takes. -/
def octets : CurveEquation → Nat
  | .prime field _ _ => octetLength field
  | .binary modulus _ _ => (BinaryField.degree modulus + 7) / 8

def cubic (field a b x : Nat) : Nat := (x * x % field * x + a * x + b) % field

/-- Whether the numbers are coordinates of a point. -/
def holds : CurveEquation → Nat → Nat → Bool
  | .prime field a b, x, y => x < field && y < field && y * y % field == cubic field a b x
  | .binary modulus a b, x, y =>
    let times := BinaryField.times modulus
    bitLength x ≤ BinaryField.degree modulus && bitLength y ≤ BinaryField.degree modulus &&
      Nat.xor (times y y) (times x y) == Nat.xor (times (times x x) (Nat.xor x a)) b

/-- Whether a number is a square, by the power that is one for squares. -/
def isSquare (field n : Nat) : Bool := powerMod n ((field - 1) / 2) field == 1

/-- Whether a point stands above the abscissa on the side that the digit tells. A root that is zero
is even; in a binary field every number has one square root. -/
def reaches : CurveEquation → Nat → Bool → Bool
  | .prime field a b, x, digit =>
    let square := cubic field a b x
    x < field && if square = 0 then !digit else isSquare field square
  | .binary modulus a b, x, _ =>
    let inverse := BinaryField.inverse modulus x
    bitLength x ≤ BinaryField.degree modulus &&
      (x = 0 || BinaryField.trace modulus
        (Nat.xor (Nat.xor (BinaryField.times modulus b (BinaryField.square modulus inverse)) a) x) = 0)

/-- The digit of a whole point: the parity of its ordinate, or that of the quotient of its
coordinates. -/
def digit : CurveEquation → Nat → Nat → Bool
  | .prime .., _, y => y % 2 = 1
  | .binary modulus _ _, x, y =>
    BinaryField.times modulus y (BinaryField.inverse modulus x) % 2 = 1

/-- Whether what is written is a point with coordinates. -/
def isPoint (equation : CurveEquation) : WrittenPoint → Bool
  | .infinite => false
  | .half x digit => equation.reaches x digit
  | .whole x y digit => equation.holds x y && digit.all (· == equation.digit x y)

end CurveEquation
end TenantAccess.Crypto
