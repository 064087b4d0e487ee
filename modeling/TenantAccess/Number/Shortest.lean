import TenantAccess.Number.Basic

/-! The text of a number: the fewest decimal digits that read back as it, and of those the nearest,
written positionally between a millionth and ten to the twenty-first. -/

namespace TenantAccess.Number

/-- A power of ten. -/
def tenTo : Int → Rat
  | .ofNat power => (Nat.pow 10 power : Rat)
  | .negSucc power => mkRat 1 (Nat.pow 10 (power + 1))

/-- The largest power of ten that a positive value reaches. -/
def decimalExponent (value : Rat) : Int :=
  let guess := (binaryExponent value.num.natAbs value.den * 30103) / 100000
  if tenTo (guess + 1) ≤ value then guess + 1
  else if value < tenTo guess then guess - 1
  else guess

/-- The point nearest to the value on the grid of the given step that still rounds to it. -/
def nearestOnGrid? (value step : Rat) : Option Nat :=
  let lower := (value / step).floor.toNat
  let readsBack (digits : Nat) : Bool := round (digits * step) == .finite value
  match readsBack lower, readsBack (lower + 1) with
  | true, true =>
    let distance := value - lower * step
    let other := (lower + 1) * step - value
    some (if distance < other then lower else if other < distance then lower + 1 else lower + lower % 2)
  | true, false => some lower
  | false, true => some (lower + 1)
  | false, false => none

/-- The first grid, from one digit on, that holds a point reading back as the value: its digits and
the power of ten they count. -/
def shortestDigits (value : Rat) (exponent : Int) : List Nat → Nat × Int
  | [] => ((value / tenTo (exponent - 16)).floor.toNat, exponent - 16)
  | more :: rest =>
    match nearestOnGrid? value (tenTo (exponent - more)) with
    | some digits => (digits, exponent - more)
    | none => shortestDigits value exponent rest

def zeros (count : Nat) : String := String.ofList (List.replicate count '0')

/-- Digits written with the point after the given number of them, or with an exponent. -/
def positional (digits : String) (point : Int) : String :=
  let count : Int := digits.length
  if count ≤ point && point ≤ 21 then digits ++ zeros (point - count).toNat
  else if 0 < point && point ≤ 21 then
    String.ofList (digits.toList.take point.toNat) ++ "." ++ String.ofList (digits.toList.drop point.toNat)
  else if -6 < point && point ≤ 0 then "0." ++ zeros (-point).toNat ++ digits
  else
    let exponent := point - 1
    let mark := if exponent < 0 then "e-" else "e+"
    let lead := String.ofList (digits.toList.take 1)
    let rest := String.ofList (digits.toList.drop 1)
    lead ++ (if rest.isEmpty then "" else "." ++ rest) ++ mark ++ toString exponent.natAbs

/-- The point a grid yields may be the next power of ten, whose last digits are zeros. -/
def positiveText (value : Rat) : String :=
  let (digits, power) := shortestDigits value (decimalExponent value) (List.range 17)
  let written := (toString digits).toList
  let kept := (written.reverse.dropWhile (· == '0')).reverse
  positional (String.ofList kept) (written.length + power)

def toText : Number → String
  | .finite value =>
    if value.num = 0 then "0"
    else if value.num < 0 then "-" ++ positiveText (-value)
    else positiveText value
  | .infinite negative => if negative then "-Infinity" else "Infinity"
  | .undefined => "NaN"

end TenantAccess.Number
