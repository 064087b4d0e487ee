import TenantAccess.Crypto.Curve
import TenantAccess.Crypto.CurveTable
import TenantAccess.Crypto.Element

/-! Which curve a key is on. A key names its curve or spells it out; a curve that is spelled out as one
of the known ones is that one. -/

namespace TenantAccess.Crypto

inductive KeyCurve where
  | known (name : CurveName)
  /-- The curve of the scheme SM2. -/
  | sm2
  /-- A curve that serves no algorithm. -/
  | stranger (equation : CurveEquation)
  deriving DecidableEq, Repr

/-- A field as it is spelled out: its prime, or the exponents in its modulus, the highest first. -/
inductive WrittenField where
  | prime (size : Int)
  | binary (exponents : List Int)
  deriving DecidableEq, Repr

/-- A curve as it is spelled out. -/
structure WrittenCurve where
  field : WrittenField
  a : Nat
  b : Nat
  base : List UInt8
  order : Int
  cofactor : Option Int
  deriving DecidableEq, Repr

namespace WrittenField

def primeName : List UInt8 := [0x2A, 0x86, 0x48, 0xCE, 0x3D, 1, 1]
def binaryName : List UInt8 := [0x2A, 0x86, 0x48, 0xCE, 0x3D, 1, 2]
def threeTermsName : List UInt8 := [0x2A, 0x86, 0x48, 0xCE, 0x3D, 1, 2, 3, 2]
def fiveTermsName : List UInt8 := [0x2A, 0x86, 0x48, 0xCE, 0x3D, 1, 2, 3, 3]

/-- The exponents between the highest and zero, of which there are one or three. -/
def readMiddle : ElementReader (List Int) := do
  let kind ← Element.name
  if kind = threeTermsName then
    let exponent ← Element.integer
    pure [exponent]
  else if kind = fiveTermsName then
    Element.sequence do
      let first ← Element.shortInteger
      let second ← Element.shortInteger
      let third ← Element.shortInteger
      pure [third, second, first]
  else failure

def read : ElementReader WrittenField := Element.sequence do
  let kind ← Element.name
  if kind = primeName then
    let size ← Element.integer
    pure (.prime size)
  else if kind = binaryName then
    Element.sequence do
      let degree ← Element.shortInteger
      let middle ← readMiddle
      pure (.binary (degree :: middle))
  else failure

/-- How large a field may be, in binary digits. -/
def largest : Nat := 661

/-- Exponents fall, and the last one is above zero. -/
def isFalling : List Int → Bool
  | [] => true
  | [last] => 0 < last
  | first :: second :: rest => second < first && isFalling (second :: rest)

/-- How many binary digits an element takes. -/
def digits : WrittenField → Nat
  | .prime size => bitLength size.toNat
  | .binary exponents => (exponents.headD 0).toNat

/-- The equation over the field, when there is such a field; coefficients are reduced. -/
def equation? (field : WrittenField) (a b : Nat) : Option CurveEquation :=
  if largest < field.digits then none
  else match field with
    | .prime size =>
      if 3 < size ∧ size % 2 = 1 then some (.prime size.toNat (a % size.toNat) (b % size.toNat)) else none
    | .binary exponents =>
      if isFalling exponents then
        let modulus := BinaryField.ofExponents (exponents.map Int.toNat ++ [0])
        some (.binary modulus (BinaryField.reduce modulus a) (BinaryField.reduce modulus b))
      else none

end WrittenField

namespace WrittenCurve

/-- Two coefficients, and a seed that must not be empty when it is there. -/
def readCoefficients : ElementReader (Nat × Nat) := Element.sequence do
  let a ← Element.string Element.octetString
  let b ← Element.string Element.octetString
  let seed ← Element.ending Element.bits
  if seed = some [] then failure else pure (natOfOctets a, natOfOctets b)

def read : ElementReader WrittenCurve := Element.sequence do
  let _ ← Element.shortInteger
  let field ← WrittenField.read
  let (a, b) ← readCoefficients
  let base ← Element.string Element.octetString
  let order ← Element.integer
  let cofactor ← Element.ending Element.integer
  pure { field, a, b, base, order, cofactor }

/-- A curve has at most as many points as its field allows, and a cofactor is not below zero. -/
def isSound (written : WrittenCurve) : Bool :=
  0 < written.order && bitLength written.order.toNat ≤ written.field.digits + 1 &&
    written.cofactor.all (0 ≤ ·)

end WrittenCurve

namespace KeyCurve

def curveKnown : List (KeyCurve × Curve) :=
  (CurveName.all.map fun name => (.known name, name.curve)) ++ [(.sm2, Curve.sm2)]

def equation : KeyCurve → CurveEquation
  | .known name => name.curve.equation
  | .sm2 => Curve.sm2.equation
  | .stranger equation => equation

/-- The names of the curves that serve an algorithm, and that of the scheme SM2. -/
def names : List (List UInt8 × KeyCurve) :=
  [([0x2A, 0x86, 0x48, 0xCE, 0x3D, 3, 1, 7], .known .p256),
    ([0x2B, 0x81, 0x04, 0, 0x0A], .known .secp256k1),
    ([0x2B, 0x81, 0x04, 0, 0x22], .known .p384),
    ([0x2B, 0x81, 0x04, 0, 0x23], .known .p521),
    ([0x2A, 0x81, 0x1C, 0xCF, 0x55, 1, 0x82, 0x2D], .sm2)]

def ofName? (name : List UInt8) : Option KeyCurve :=
  match names.lookup name with
  | some curve => some curve
  | none => (CurveEquation.named.lookup name).map .stranger

/-- Whether a curve is spelled out with the same equation, the same base point and the same order. -/
def isSame (curve : Curve) (equation : CurveEquation) (base : WrittenPoint) (order : Int) : Bool :=
  curve.equation = equation && order = (curve.order : Int) &&
    curve.point? base == some (curve.baseX, curve.baseY)

def ofWritten? (written : WrittenCurve) : Option KeyCurve := do
  let equation ← written.field.equation? written.a written.b
  let base ← WrittenPoint.ofOctets? equation.octets written.base
  if !written.isSound || !equation.isPoint base then none
  else match curveKnown.find? fun (_, curve) => isSame curve equation base written.order with
    | some (found, _) => some found
    | none => some (.stranger equation)

/-- The curve that stands beside the name of the algorithm of a key. -/
def ofParameters? : ElementValue → Option KeyCurve
  | .name octets => ofName? octets
  | .group octets => (WrittenCurve.read octets).bind fun (written, _) => ofWritten? written
  | _ => none

end KeyCurve
end TenantAccess.Crypto
