/-! Octets read as binary digits, the lowest digit of each octet first. -/

namespace TenantAccess

/-- The digits that are left of the current octet, and the octets after it. -/
structure Bits where
  digits : List Bool
  octets : List UInt8

namespace Bits

def ofOctets (octets : List UInt8) : Bits := ⟨[], octets⟩

/-- How many digits are left. -/
def count (bits : Bits) : Nat := bits.digits.length + 8 * bits.octets.length

def digitsOf (octet : UInt8) : List Bool := (List.range 8).map fun place => octet.toNat.testBit place

def next? (bits : Bits) : Option (Bool × Bits) :=
  match bits.digits, bits.octets with
  | digit :: digits, octets => some (digit, ⟨digits, octets⟩)
  | [], octet :: octets => match digitsOf octet with
    | digit :: digits => some (digit, ⟨digits, octets⟩)
    | [] => none
  | [], [] => none

/-- The number that the next digits write, lowest first. -/
def number? : Nat → Bits → Option (Nat × Bits)
  | 0, bits => some (0, bits)
  | places + 1, bits => match bits.next? with
    | none => none
    | some (digit, rest) => match number? places rest with
      | none => none
      | some (higher, rest) => some (digit.toNat + 2 * higher, rest)

/-- Leaves out what is left of the current octet. -/
def align (bits : Bits) : Bits := ⟨[], bits.octets⟩

end Bits
end TenantAccess
