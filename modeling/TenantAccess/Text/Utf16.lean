/-! Texts as units of sixteen bits, and those as pairs of octets in either order. -/

namespace TenantAccess.Utf16

/-- Two halves next to each other are one character; a half alone is unreadable. -/
def ofUnits : List Nat → List Char
  | high :: low :: rest =>
    if 0xD800 ≤ high && high < 0xDC00 && 0xDC00 ≤ low && low < 0xE000 then
      Char.ofNat (0x10000 + (high - 0xD800) * 0x400 + (low - 0xDC00)) :: ofUnits rest
    else whole high :: ofUnits (low :: rest)
  | [last] => [whole last]
  | [] => []
where
  whole (n : Nat) : Char := if n.isValidChar then Char.ofNat n else '\uFFFD'

/-- A character beyond the first plane takes two halves. -/
def unitsOf : List Char → List Nat
  | [] => []
  | c :: rest =>
    if c.toNat < 0x10000 then c.toNat :: unitsOf rest
    else
      let beyond := c.toNat - 0x10000
      (0xD800 + beyond / 0x400) :: (0xDC00 + beyond % 0x400) :: unitsOf rest

/-- An octet that is left over at the end is no unit. -/
def units (bigEndian : Bool) : List UInt8 → List Nat
  | first :: second :: rest =>
    (if bigEndian then first.toNat * 256 + second.toNat else second.toNat * 256 + first.toNat) ::
      units bigEndian rest
  | _ => []

def decode (bigEndian : Bool) (octets : List UInt8) : List Char := ofUnits (units bigEndian octets)

/-- How many units of the first ones look like plain letters when read in the given order. -/
def plainUnits (bigEndian : Bool) (octets : List UInt8) : Nat :=
  (units bigEndian (octets.take 64)).countP fun unit => 0 < unit && unit < 256

/-- The order that the mark at the start names, else the one in which more looks like plain letters. -/
def isBigEndian (octets : List UInt8) : Bool :=
  match octets with
  | 0xFE :: 0xFF :: _ => true
  | 0xFF :: 0xFE :: _ => false
  | _ => plainUnits false octets < plainUnits true octets

end TenantAccess.Utf16
