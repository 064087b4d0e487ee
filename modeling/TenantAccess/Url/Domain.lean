import TenantAccess.Url.DomainTable
import TenantAccess.Url.Label
import TenantAccess.Url.Punycode

/-! The labels that a text stands for as the name of a domain. Characters that mean the same there are
made one, and a label that spells characters beyond ASCII must spell them in their final form. -/

namespace TenantAccess.Url.Domain

/-- What becomes of a character. -/
inductive Meaning where
  | itself
  | forbidden
  | text (characters : List Char)
  deriving DecidableEq, Repr

/-- The value of a row as a function of the distance from the start of its range. -/
def meaningOf (value : List Char) (character offset : Nat) : Meaning :=
  match value with
  | ['!'] => .forbidden
  | '/' :: value => if offset % 2 = 0 then shifted value else .itself
  | value => shifted value
where
  shifted : List Char → Meaning
    | '+' :: distance => .text [Char.ofNat (character + Text.Band.hexNumber distance)]
    | '~' :: distance => .text [Char.ofNat (character - Text.Band.hexNumber distance)]
    | [] => .text []
    | numbers => .text ((numbers.splitOn '.').map fun number => Char.ofNat (Text.Band.hexNumber number))

def table : Array (Text.Band (List Char)) := Text.Band.table id DomainTable.rows

/-- Small letters of ASCII, digits and signs stand for themselves. -/
def meaning (c : Char) : Meaning :=
  if c.toNat < 0x80 then (if c.isUpper then .text [c.toLower] else .itself)
  else match Text.Band.find? table c.toNat with
    | none => .itself
    | some band => meaningOf band.value c.toNat (c.toNat - band.first)

/-- Every character replaced by what it means, none when one of them means nothing here. -/
def replaced? : List Char → Option (List Char)
  | [] => some []
  | c :: rest => match meaning c, replaced? rest with
    | .itself, some rest => some (c :: rest)
    | .text characters, some rest => some (characters ++ rest)
    | _, _ => none

def isAscii (text : List Char) : Bool := text.all (·.toNat < 0x80)

/-- Whether what a label spells is in its final form already. -/
def isFinal (spelled : List Char) : Bool :=
  replaced? spelled == some spelled && Text.Composition.composed spelled == spelled && Label.isValid spelled

def encodedMark : List Char := "xn--".toList

def isLabel (label : List Char) : Bool :=
  match encodedMark.isPrefixOf? label with
  | some encoded => isAscii label && (((Punycode.decode? encoded).map isFinal).getD false)
  | none => isAscii label || Label.isValid label

/-- The labels between the stops, none when one of them cannot be part of a domain. -/
def labels? (text : List Char) : Option (List (List Char)) :=
  match replaced? text with
  | none => none
  | some replaced =>
    let labels := (if isAscii replaced then replaced else Text.Composition.composed replaced).splitOn '.'
    if labels.all fun label => label.isEmpty || isLabel label then some labels else none

end TenantAccess.Url.Domain
