import TenantAccess.Crypto.CurveEquation

/-! Elliptic curves over prime fields. Points are added in projective coordinates, where a whole
multiplication needs one division at its end. -/

namespace TenantAccess.Crypto

inductive CurveName where
  | p256
  | secp256k1
  | p384
  | p521
  deriving DecidableEq, Repr

structure Curve where
  /-- The prime of the field. -/
  field : Nat
  a : Nat
  b : Nat
  /-- How many multiples the base point has. -/
  order : Nat
  baseX : Nat
  baseY : Nat

namespace CurveName

def curve : CurveName → Curve
  | .p256 => {
      field := 0xffffffff00000001000000000000000000000000ffffffffffffffffffffffff
      a := 0xffffffff00000001000000000000000000000000fffffffffffffffffffffffc
      b := 0x5ac635d8aa3a93e7b3ebbd55769886bc651d06b0cc53b0f63bce3c3e27d2604b
      order := 0xffffffff00000000ffffffffffffffffbce6faada7179e84f3b9cac2fc632551
      baseX := 0x6b17d1f2e12c4247f8bce6e563a440f277037d812deb33a0f4a13945d898c296
      baseY := 0x4fe342e2fe1a7f9b8ee7eb4a7c0f9e162bce33576b315ececbb6406837bf51f5 }
  | .secp256k1 => {
      field := 0xfffffffffffffffffffffffffffffffffffffffffffffffffffffffefffffc2f
      a := 0
      b := 7
      order := 0xfffffffffffffffffffffffffffffffebaaedce6af48a03bbfd25e8cd0364141
      baseX := 0x79be667ef9dcbbac55a06295ce870b07029bfcdb2dce28d959f2815b16f81798
      baseY := 0x483ada7726a3c4655da4fbfc0e1108a8fd17b448a68554199c47d08ffb10d4b8 }
  | .p384 => {
      field := 0xfffffffffffffffffffffffffffffffffffffffffffffffffffffffffffffffeffffffff0000000000000000ffffffff
      a := 0xfffffffffffffffffffffffffffffffffffffffffffffffffffffffffffffffeffffffff0000000000000000fffffffc
      b := 0xb3312fa7e23ee7e4988e056be3f82d19181d9c6efe8141120314088f5013875ac656398d8a2ed19d2a85c8edd3ec2aef
      order := 0xffffffffffffffffffffffffffffffffffffffffffffffffc7634d81f4372ddf581a0db248b0a77aecec196accc52973
      baseX := 0xaa87ca22be8b05378eb1c71ef320ad746e1d3b628ba79b9859f741e082542a385502f25dbf55296c3a545e3872760ab7
      baseY := 0x3617de4a96262c6f5d9e98bf9292dc29f8f41dbd289a147ce9da3113b5f0b8c00a60b1ce1d7e819d7a431d7c90ea0e5f }
  | .p521 => {
      field := Nat.pow 2 521 - 1
      a := Nat.pow 2 521 - 4
      b := 0x51953eb9618e1c9a1f929a21a0b68540eea2da725b99b315f3b8b489918ef109e156193951ec7e937b1652c0bd3bb1bf073573df883d2c34f1ef451fd46b503f00
      order := 0x1fffffffffffffffffffffffffffffffffffffffffffffffffffffffffffffffffa51868783bf2f966b7fcc0148f709a5d03bb5c9b8899c47aebb6fb71e91386409
      baseX := 0xc6858e06b70404e9cd9e3ecb662395b4429c648139053fb521f828af606b4d3dbaa14b5e77efe75928fe1dc127a2ffa8de3348b3c1856a429bf97e7e31c2e5bd66
      baseY := 0x11839296a789a3bc0045c8a5fb42c7d1bd998f54449579b446817afbd17273e662c97ee72995ef42640c550b9013fad0761353c7086a272c24088be94769fd16650 }

def all : List CurveName := [.p256, .secp256k1, .p384, .p521]

def toText : CurveName → String
  | .p256 => "P-256"
  | .secp256k1 => "secp256k1"
  | .p384 => "P-384"
  | .p521 => "P-521"

def ofText? (name : String) : Option CurveName := all.find? (·.toText == name)

end CurveName

namespace Curve

/-- The curve of the scheme SM2, whose keys are of a kind of their own. -/
def sm2 : Curve := {
  field := 0xfffffffeffffffffffffffffffffffffffffffff00000000ffffffffffffffff
  a := 0xfffffffeffffffffffffffffffffffffffffffff00000000fffffffffffffffc
  b := 0x28e9fa9e9d9f5e344d5a9e4bcf6509a7f39789f515ab8f92ddbcbd414d940e93
  order := 0xfffffffeffffffffffffffffffffffff7203df6b21c6052b53bbf40939d54123
  baseX := 0x32c4ae2c1f1981195f9904466a39c9948fe30bbff2660be1715a4589334c74c7
  baseY := 0xbc3736a2f4f6779c59bdcee36b692153d0a9877cc62a474002df32e52139f0a0 }

def minus (curve : Curve) (x y : Nat) : Nat := (x + curve.field - y % curve.field) % curve.field

def equation (curve : Curve) : CurveEquation := .prime curve.field curve.a curve.b

def isOn (curve : Curve) (x y : Nat) : Bool := curve.equation.holds x y

/-- The ordinate of the wanted parity above an abscissa. The primes of all the curves here leave
three over four, so one power is the root if there is one. -/
def ordinate? (curve : Curve) (x : Nat) (isOdd : Bool) : Option Nat :=
  let square := CurveEquation.cubic curve.field curve.a curve.b x
  let root := powerMod square ((curve.field + 1) / 4) curve.field
  let y := if (root % 2 == 1) == isOdd then root else curve.field - root
  if curve.isOn x y then some y else none

/-- The coordinates of a point that is written. -/
def point? (curve : Curve) : WrittenPoint → Option (Nat × Nat)
  | .infinite => none
  | .half x digit => (curve.ordinate? x digit).map fun y => (x, y)
  | .whole x y digit =>
    if curve.equation.isPoint (.whole x y digit) then some (x, y) else none

/-- A point whose coordinates are divided by the square and the cube of the third number; the point
without coordinates has zero there. -/
structure Point where
  x : Nat
  y : Nat
  z : Nat

def double (curve : Curve) (point : Point) : Point :=
  let p := curve.field
  let ySquare := point.y * point.y % p
  let s := 4 * point.x * ySquare % p
  let zSquare := point.z * point.z % p
  let m := (3 * point.x * point.x + curve.a * (zSquare * zSquare % p)) % p
  let x := curve.minus (m * m) (2 * s)
  ⟨x, curve.minus (m * curve.minus s x) (8 * ySquare * ySquare), 2 * point.y * point.z % p⟩

def plus (curve : Curve) (first second : Point) : Point :=
  let p := curve.field
  if first.z = 0 then second
  else if second.z = 0 then first
  else
    let z1 := first.z * first.z % p
    let z2 := second.z * second.z % p
    let u1 := first.x * z2 % p
    let u2 := second.x * z1 % p
    let s1 := first.y * (z2 * second.z % p) % p
    let s2 := second.y * (z1 * first.z % p) % p
    if u1 = u2 then
      if s1 = s2 then curve.double first else ⟨1, 1, 0⟩
    else
      let h := curve.minus u2 u1
      let r := curve.minus s2 s1
      let h2 := h * h % p
      let h3 := h2 * h % p
      let v := u1 * h2 % p
      let x := curve.minus (r * r) (h3 + 2 * v)
      ⟨x, curve.minus (r * curve.minus v x) (s1 * h3), h * (first.z * second.z % p) % p⟩

def times (curve : Curve) (n : Nat) (point : Point) : Point :=
  if n = 0 then ⟨1, 1, 0⟩
  else
    let half := curve.times (n / 2) (curve.double point)
    if n % 2 = 1 then curve.plus half point else half
termination_by n

def inverse (modulus n : Nat) : Nat := powerMod n (modulus - 2) modulus

def abscissa? (curve : Curve) (point : Point) : Option Nat :=
  if point.z = 0 then none
  else some (point.x * inverse curve.field (point.z * point.z % curve.field) % curve.field)

end Curve
end TenantAccess.Crypto
