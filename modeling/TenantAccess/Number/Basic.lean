/-! Numbers as the wire formats of the service know them: exact rationals that fit a binary64, and
the values beyond them. Every operation rounds its exact result once, half to even. -/

namespace TenantAccess

/-- A zero has no sign here: no answer of the service tells two zeros apart. -/
inductive Number where
  | finite (value : Rat)
  | infinite (negative : Bool)
  | undefined
  deriving DecidableEq, Repr

namespace Number

instance : Inhabited Number := ⟨.finite 0⟩

/-- The whole number nearest to a ratio; a half goes to the even neighbour. -/
def nearestEven (numerator denominator : Nat) : Nat :=
  let whole := numerator / denominator
  let rest := 2 * (numerator % denominator)
  if rest < denominator then whole
  else if denominator < rest then whole + 1
  else whole + whole % 2

/-- Whether the ratio is at least two to the given power. -/
def reachesPower (numerator denominator : Nat) : Int → Bool
  | .ofNat power => denominator * Nat.pow 2 power ≤ numerator
  | .negSucc power => denominator ≤ numerator * Nat.pow 2 (power + 1)

/-- The largest power of two that a positive ratio reaches. -/
def binaryExponent (numerator denominator : Nat) : Int :=
  let guess : Int := numerator.log2 - denominator.log2
  if reachesPower numerator denominator guess then guess else guess - 1

/-- The binary64 nearest to a positive ratio, none when it is too large for one. Fifty-three
binary digits are kept, fewer below the smallest normal magnitude. -/
def roundRatio (numerator denominator : Nat) : Option Rat :=
  let unit := max (binaryExponent numerator denominator - 52) (-1074)
  let value : Rat := match unit with
    | .ofNat power =>
      let step := Nat.pow 2 power
      ((nearestEven numerator (denominator * step) * step : Nat) : Rat)
    | .negSucc power =>
      let parts := Nat.pow 2 (power + 1)
      mkRat (nearestEven (numerator * parts) denominator) parts
  if value < (Nat.pow 2 1024 : Rat) then some value else none

def round (exact : Rat) : Number :=
  if exact.num = 0 then .finite 0
  else match roundRatio exact.num.natAbs exact.den with
    | some value => .finite (if exact.num < 0 then -value else value)
    | none => .infinite (exact.num < 0)

def ofInt (n : Int) : Number := round n

instance (n : Nat) : OfNat Number n := ⟨.ofInt n⟩

def isFinite : Number → Bool
  | .finite _ => true
  | _ => false

def isWhole : Number → Bool
  | .finite value => value.den == 1
  | _ => false

/-- Toward zero, for a finite number. -/
def truncate (value : Rat) : Int :=
  value.num.tdiv value.den

/-- The undefined number is below nothing, and nothing is below it. -/
def below : Number → Number → Bool
  | .finite a, .finite b => a < b
  | .finite _, .infinite negative => !negative
  | .infinite negative, .finite _ => negative
  | .infinite a, .infinite b => a && !b
  | _, _ => false

def add : Number → Number → Number
  | .finite a, .finite b => round (a + b)
  | .finite _, .infinite negative => .infinite negative
  | .infinite negative, .finite _ => .infinite negative
  | .infinite a, .infinite b => if a == b then .infinite a else .undefined
  | _, _ => .undefined

def mul : Number → Number → Number
  | .finite a, .finite b => round (a * b)
  | .finite a, .infinite negative | .infinite negative, .finite a =>
    if a = 0 then .undefined else .infinite (negative != (a < 0))
  | .infinite a, .infinite b => .infinite (a != b)
  | _, _ => .undefined

end Number
end TenantAccess
