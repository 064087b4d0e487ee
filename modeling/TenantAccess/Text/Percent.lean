import TenantAccess.Text.Utf8

/-! Octets written as a percent sign and two digits. -/

namespace TenantAccess.Percent

def hexValue? (c : Char) : Option Nat :=
  if '0' ≤ c && c ≤ '9' then some (c.toNat - '0'.toNat)
  else if 'a' ≤ c && c ≤ 'f' then some (c.toNat - 'a'.toNat + 10)
  else if 'A' ≤ c && c ≤ 'F' then some (c.toNat - 'A'.toNat + 10)
  else none

def octet? (high low : Char) : Option UInt8 :=
  match hexValue? high, hexValue? low with
  | some high, some low => some (UInt8.ofNat (high * 16 + low))
  | _, _ => none

def plain (c : Char) : List UInt8 := Utf8.encode (String.singleton c)

/-- The octets a text stands for; a percent sign that begins no escape stands for itself. -/
def lenient : List Char → List UInt8
  | '%' :: high :: low :: rest => match octet? high low with
    | some octet => octet :: lenient rest
    | none => plain '%' ++ lenient (high :: low :: rest)
  | c :: rest => plain c ++ lenient rest
  | [] => []

/-- The octets a text stands for, none when a percent sign begins no escape. -/
def strict? : List Char → Option (List UInt8)
  | '%' :: high :: low :: rest => match octet? high low with
    | some octet => (strict? rest).map (octet :: ·)
    | none => none
  | '%' :: _ => none
  | c :: rest => (strict? rest).map (plain c ++ ·)
  | [] => some []

/-- The text itself, none when an escape or the characters they spell are malformed. -/
def decode? (text : String) : Option String :=
  (strict? text.toList).bind fun octets => String.fromUTF8? (ByteArray.mk octets.toArray)

end TenantAccess.Percent
