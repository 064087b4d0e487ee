import TenantAccess.Text.Blank
import TenantAccess.Json.Basic

/-! Identifiers of users and organizations. Every identifier the service compares is the trimmed,
lowercase form that `parse?` gives, whichever claim, header, path or query it came from. -/

namespace TenantAccess.Uuid

def isHexDigit (c : Char) : Bool :=
  ('0' ≤ c && c ≤ '9') || ('a' ≤ c && c ≤ 'f') || ('A' ≤ c && c ≤ 'F')

/-- Which places of the written form hold a digit; the others hold a hyphen. -/
def places : List Bool :=
  let digits (count : Nat) := List.replicate count true
  digits 8 ++ false :: digits 4 ++ false :: digits 4 ++ false :: digits 4 ++ false :: digits 12

def fits : List Bool → List Char → Bool
  | [], [] => true
  | true :: places, c :: text => isHexDigit c && fits places text
  | false :: places, c :: text => c == '-' && fits places text
  | _, _ => false

def canonical? (text : List Char) : Option (List Char) :=
  if fits places text then some (text.map Char.toLower) else none

/-- The canonical form of an identifier, which may stand between blanks and in any letter case. -/
def parse? (text : String) : Option String :=
  (canonical? (Text.trimmed text.toList)).map String.ofList

/-- Only a text can hold an identifier. -/
def ofJson? : Json → Option String
  | .text value => parse? value
  | _ => none

end TenantAccess.Uuid
