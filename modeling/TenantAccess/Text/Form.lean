/-! Form encoding: a space is a plus, letters, digits and four marks stand for themselves, and every
other octet is written as a percent sign and two digits. -/

namespace TenantAccess.Form

def isPlain (octet : UInt8) : Bool :=
  let n := octet.toNat
  (0x30 ≤ n && n ≤ 0x39) || (0x41 ≤ n && n ≤ 0x5A) || (0x61 ≤ n && n ≤ 0x7A) ||
    n == 0x2A || n == 0x2D || n == 0x2E || n == 0x5F

def upperHex (n : Nat) : Char := "0123456789ABCDEF".toList.getD n '0'

def encodeOctet (octet : UInt8) : List Char :=
  if octet = 0x20 then ['+']
  else if isPlain octet then [Char.ofNat octet.toNat]
  else ['%', upperHex (octet.toNat / 16), upperHex (octet.toNat % 16)]

def encode (text : String) : String :=
  String.ofList (text.toUTF8.toList.flatMap encodeOctet)

def pair (name value : String) : String := encode name ++ "=" ++ encode value

end TenantAccess.Form
