/-! Whole numbers as octets, most significant first. -/

namespace TenantAccess.Crypto

def natOfOctets (octets : List UInt8) : Nat :=
  octets.foldl (fun n octet => n * 256 + octet.toNat) 0

/-- The given number of octets; higher ones are cut off. -/
def octetsOfNat (count n : Nat) : List UInt8 :=
  match count with
  | 0 => []
  | count + 1 => octetsOfNat count (n / 256) ++ [UInt8.ofNat n]

/-- How many binary digits a number has. -/
def bitLength (n : Nat) : Nat := if n = 0 then 0 else n.log2 + 1

/-- How many octets a number needs. -/
def octetLength (n : Nat) : Nat := (bitLength n + 7) / 8

def powerMod (base exponent modulus : Nat) : Nat :=
  if exponent = 0 then 1 % modulus
  else
    let half := powerMod (base * base % modulus) (exponent / 2) modulus
    if exponent % 2 = 1 then half * base % modulus else half
termination_by exponent

end TenantAccess.Crypto
