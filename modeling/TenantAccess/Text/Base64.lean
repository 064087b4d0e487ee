import TenantAccess.Text.Utf16

/-! Octets written in sixty-four characters. Writing takes the plain alphabet. Reading looks at the low octet
of each sixteen-bit unit of a text, takes both alphabets, passes over every other octet, and ends at the first
padding sign. -/

namespace TenantAccess.Base64

def sextet? (c : Char) : Option Nat :=
  if 'A' ≤ c && c ≤ 'Z' then some (c.toNat - 'A'.toNat)
  else if 'a' ≤ c && c ≤ 'z' then some (c.toNat - 'a'.toNat + 26)
  else if '0' ≤ c && c ≤ '9' then some (c.toNat - '0'.toNat + 52)
  else if c == '+' || c == '-' then some 62
  else if c == '/' || c == '_' then some 63
  else none

def octet (n : Nat) : UInt8 := UInt8.ofNat n

/-- Four sextets make three octets; two or three that are left over make one or two. -/
def pack : List Nat → List UInt8
  | a :: b :: c :: d :: rest =>
    octet (a * 4 + b / 16) :: octet (b % 16 * 16 + c / 4) :: octet (c % 4 * 64 + d) :: pack rest
  | [a, b, c] => [octet (a * 4 + b / 16), octet (b % 16 * 16 + c / 4)]
  | [a, b] => [octet (a * 4 + b / 16)]
  | _ => []

/-- The characters that the low octets of a text's units stand for. -/
def narrow (text : List Char) : List Char :=
  (Utf16.unitsOf text).map fun unit => Char.ofNat (unit % 256)

def decode (text : List Char) : List UInt8 :=
  pack (((narrow text).takeWhile (· != '=')).filterMap sextet?)

def alphabet : List Char :=
  "ABCDEFGHIJKLMNOPQRSTUVWXYZabcdefghijklmnopqrstuvwxyz0123456789+/".toList

def sign (sextet : Nat) : Char := alphabet.getD (sextet % 64) 'A'

/-- Writing leaves out the padding. -/
def encode : List UInt8 → List Char
  | a :: b :: c :: rest =>
    sign (a.toNat / 4) :: sign (a.toNat % 4 * 16 + b.toNat / 16) ::
      sign (b.toNat % 16 * 4 + c.toNat / 64) :: sign c.toNat :: encode rest
  | [a, b] => [sign (a.toNat / 4), sign (a.toNat % 4 * 16 + b.toNat / 16), sign (b.toNat % 16 * 4)]
  | [a] => [sign (a.toNat / 4), sign (a.toNat % 4 * 16)]
  | [] => []

end TenantAccess.Base64
