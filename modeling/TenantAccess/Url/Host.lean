import TenantAccess.Text.Percent
import TenantAccess.Url.Domain

/-! Which texts name a host: an address of the old or the new kind, or the labels of a domain. -/

namespace TenantAccess.Url

namespace Ipv4

/-- A number in one of three bases, none when a digit is out of place. -/
def number? (text : List Char) : Option Nat :=
  let read (base : Nat) (digits : List Char) : Option Nat :=
    digits.foldl (fun value c => match value, Percent.hexValue? c with
      | some value, some digit => if digit < base then some (value * base + digit) else none
      | _, _ => none) (some 0)
  match text with
  | [] => none
  | '0' :: 'x' :: digits | '0' :: 'X' :: digits => read 16 digits
  | '0' :: digit :: digits => read 8 (digit :: digits)
  | digits => read 10 digits

def isDigits (text : List Char) : Bool := !text.isEmpty && text.all fun c => '0' ≤ c && c ≤ '9'

def withoutTrailing (labels : List (List Char)) : List (List Char) :=
  if labels.getLast? = some [] && 1 < labels.length then labels.dropLast else labels

/-- A host whose last label is a number can only be an address. -/
def endsInNumber (labels : List (List Char)) : Bool :=
  match (withoutTrailing labels).getLast? with
  | none | some [] => false
  | some last => isDigits last || ((number? last).isSome && last.take 1 = ['0'])

/-- All numbers but the last are octets; the last fills what is left of the address. -/
def isAddress (labels : List (List Char)) : Bool :=
  let parts := withoutTrailing labels
  parts.length ≤ 4 &&
    match parts.mapM number? with
    | none => false
    | some numbers =>
      numbers.dropLast.all (· ≤ 255) && numbers.getLastD 0 < Nat.pow 256 (5 - numbers.length)

end Ipv4

namespace Ipv6

def isPiece (text : List Char) : Bool :=
  !text.isEmpty && text.length ≤ 4 && text.all fun c => (Percent.hexValue? c).isSome

/-- An octet in base ten without a leading zero. -/
def isOctet (text : List Char) : Bool :=
  Ipv4.isDigits text && (text.length = 1 || text.take 1 ≠ ['0']) && text.length ≤ 3 &&
    ((Ipv4.number? text).getD 256) ≤ 255

/-- The last piece may be an address of the old kind, which counts twice. -/
def pieceCount? (pieces : List (List Char)) : Option Nat :=
  match pieces with
  | [] => some 0
  | [last] =>
    if isPiece last then some 1
    else
      let octets := last.splitOn '.'
      if octets.length = 4 && octets.all isOctet then some 2 else none
  | piece :: rest => if isPiece piece then (pieceCount? rest).map (· + 1) else none

/-- Whole pieces only, as they stand before a gap. -/
def headCount? (pieces : List (List Char)) : Option Nat :=
  if pieces.all isPiece then some pieces.length else none

def piecesOf (text : List Char) : List (List Char) :=
  if text.isEmpty then [] else text.splitOn ':'

/-- The texts before and after a gap of zeros. -/
def splitGap? : List Char → Option (List Char × List Char)
  | ':' :: ':' :: rest => some ([], rest)
  | c :: rest => (splitGap? rest).map fun (before, after) => (c :: before, after)
  | [] => none

/-- Eight pieces, or fewer around one gap of zeros. -/
def isAddress (text : List Char) : Bool :=
  match splitGap? text with
  | none => pieceCount? (piecesOf text) == some 8
  | some (before, after) =>
    match headCount? (piecesOf before), pieceCount? (piecesOf after) with
    | some head, some tail => head + tail ≤ 7
    | _, _ => false

end Ipv6

namespace Host

/-- Characters that no host may hold. -/
def isForbidden (c : Char) : Bool :=
  "\x00\t\n\r #/:<>?@[\\]^|".toList.contains c

/-- A domain may hold no control character and no percent sign either. -/
def isForbiddenInDomain (c : Char) : Bool :=
  isForbidden c || c.toNat < 0x20 || c == '%' || c.toNat == 0x7F

/-- The name of a domain has no forbidden character once it is in its final form, and when it ends in a
number it is an address. -/
def isDomain (text : List Char) : Bool :=
  match Domain.labels? (Utf8.decode (Percent.lenient text)).toList with
  | none => false
  | some labels =>
    labels != [[]] && !labels.any (·.any isForbiddenInDomain) &&
      (!Ipv4.endsInNumber labels || Ipv4.isAddress labels)

def isBracketed (text : List Char) : Bool :=
  text.getLast? = some ']' && Ipv6.isAddress (text.drop 1).dropLast

/-- A well-known scheme wants a domain; any other takes whatever holds no forbidden character. -/
def isHost (special : Bool) (text : List Char) : Bool :=
  if text.take 1 = ['['] then isBracketed text
  else if special then isDomain text
  else !text.any isForbidden

end Host
end TenantAccess.Url
