import TenantAccess.Number.Basic
import TenantAccess.Text.Blank

/-! Reading numbers from text. One scanner splits a decimal into its parts; the strict grammar of
the data format and the lenient grammar of settings and query values say which splits they take. -/

namespace TenantAccess.Number

/-- The parts of a decimal, as written. -/
structure Decimal where
  whole : List Char
  fraction : Option (List Char)
  exponent : Option (Bool × List Char)
  deriving DecidableEq, Repr

namespace Decimal

def isDigit (c : Char) : Bool := '0' ≤ c && c ≤ '9'

/-- A sign, true for minus, and the rest. -/
def scanSign : List Char → Bool × List Char
  | '-' :: rest => (true, rest)
  | '+' :: rest => (false, rest)
  | rest => (false, rest)

def scanFraction : List Char → Option (List Char) × List Char
  | '.' :: rest => (some (rest.takeWhile isDigit), rest.dropWhile isDigit)
  | rest => (none, rest)

def scanExponent : List Char → Option (Bool × List Char) × List Char
  | c :: rest =>
    if c = 'e' || c = 'E' then
      let (negative, digits) := scanSign rest
      (some (negative, digits.takeWhile isDigit), digits.dropWhile isDigit)
    else (none, c :: rest)
  | [] => (none, [])

/-- The longest reading of an unsigned decimal, and what follows it. -/
def scan (text : List Char) : Decimal × List Char :=
  let (fraction, afterFraction) := scanFraction (text.dropWhile isDigit)
  let (exponent, rest) := scanExponent afterFraction
  (⟨text.takeWhile isDigit, fraction, exponent⟩, rest)

def exponentWritten (d : Decimal) : Bool :=
  match d.exponent with
  | some (_, digits) => !digits.isEmpty
  | none => true

/-- The data format wants a digit on both sides of a point and no zero before another digit. -/
def isStrict (d : Decimal) : Bool :=
  d.exponentWritten && d.fraction != some [] &&
    match d.whole with
    | [] => false
    | '0' :: rest => rest.isEmpty
    | _ => true

/-- Settings and query values want a digit on one side of the point. -/
def isLenient (d : Decimal) : Bool :=
  d.exponentWritten && (!d.whole.isEmpty || !(d.fraction.getD []).isEmpty)

def digitsValue (base : Nat) (value : Char → Nat) (digits : List Char) : Nat :=
  digits.foldl (fun n c => n * base + value c) 0

def decimalDigit (c : Char) : Nat := c.toNat - '0'.toNat

/-- More digits than any midpoint between two binary64 values has. -/
def digitLimit : Nat := 800

/-- Digits past the limit only tell whether the value is above the digits kept. -/
def significant (digits : List Char) : List Char × Nat :=
  let kept := digits.take digitLimit
  let dropped := digits.drop digitLimit
  (kept ++ (if dropped.any (· != '0') then ['1'] else []),
    dropped.length - (if dropped.any (· != '0') then 1 else 0))

/-- The number nearest to the digits times the power of ten. Magnitudes far outside the range of
binary64 are decided by the position of their first digit. -/
def scaled (digits : List Char) (power : Int) : Number :=
  let leading := digits.dropWhile (· == '0')
  let (kept, skipped) := significant leading
  let n := digitsValue 10 decimalDigit kept
  let order : Int := leading.length + power
  if n = 0 || order < -400 then .finite 0
  else if order > 400 then .infinite false
  else match power + skipped with
    | .ofNat up => round ((n * Nat.pow 10 up : Nat) : Rat)
    | .negSucc down => round (mkRat n (Nat.pow 10 (down + 1)))

def toNumber (d : Decimal) : Number :=
  let fraction := d.fraction.getD []
  let exponent : Int := match d.exponent with
    | some (true, digits) => -(digitsValue 10 decimalDigit digits : Int)
    | some (false, digits) => digitsValue 10 decimalDigit digits
    | none => 0
  scaled (d.whole ++ fraction) (exponent - fraction.length)

end Decimal

def negate : Number → Number
  | .finite value => .finite (-value)
  | .infinite negative => .infinite (!negative)
  | .undefined => .undefined

/-- A number of the data format: an optional minus and a strict decimal. -/
def ofStrict? (text : List Char) : Option Number :=
  match text with
  | '-' :: rest => (unsigned? rest).map negate
  | rest => unsigned? rest
where
  unsigned? (text : List Char) : Option Number :=
    let (decimal, rest) := Decimal.scan text
    if rest.isEmpty && decimal.isStrict then some decimal.toNumber else none

def radixDigit (c : Char) : Nat :=
  if Decimal.isDigit c then c.toNat - '0'.toNat
  else if 'a' ≤ c && c ≤ 'z' then c.toNat - 'a'.toNat + 10
  else if 'A' ≤ c && c ≤ 'Z' then c.toNat - 'A'.toNat + 10
  else 36

/-- The whole number written by the digits of a base, rounded once. -/
def ofRadix (base : Nat) (digits : List Char) : Number :=
  if digits.isEmpty || digits.any (fun c => base ≤ radixDigit c) then .undefined
  else ofInt (Decimal.digitsValue base radixDigit digits)

/-- The number a setting or a query value stands for. A blank text is zero; a base is announced by
a zero and a letter and takes no sign; what no rule reads is undefined. -/
def ofLenient (text : String) : Number :=
  match Text.trimmed text.toList with
  | [] => .finite 0
  | '0' :: 'x' :: digits | '0' :: 'X' :: digits => ofRadix 16 digits
  | '0' :: 'o' :: digits | '0' :: 'O' :: digits => ofRadix 8 digits
  | '0' :: 'b' :: digits | '0' :: 'B' :: digits => ofRadix 2 digits
  | trimmed =>
    let (negative, unsigned) := Decimal.scanSign trimmed
    let magnitude :=
      if unsigned = "Infinity".toList then .infinite false
      else
        let (decimal, rest) := Decimal.scan unsigned
        if rest.isEmpty && decimal.isLenient then decimal.toNumber else .undefined
    if negative then negate magnitude else magnitude

end TenantAccess.Number
