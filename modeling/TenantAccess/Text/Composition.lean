import TenantAccess.Text.Band
import TenantAccess.Text.CompositionTable

/-! The composed form of a text: marks in their order, and as many of them as possible made one with the
letter before them. Syllables of Hangul are composed by counting. -/

namespace TenantAccess.Text.Composition

def classTable : Array (Band Nat) := Band.table Band.hexNumber CompositionTable.classes

/-- Where a mark sits; no mark has class zero. -/
def markClass (c : Char) : Nat := (Band.value? classTable c).getD 0

def readPair (value : List Char) : Nat × Nat :=
  let first := value.takeWhile (· != '.')
  (Band.hexNumber first, Band.hexNumber (value.drop (first.length + 1)))

def composites : Array (Band (Nat × Nat)) := Band.table readPair CompositionTable.composites

/-- Syllables are numbered by a first letter, a vowel, and possibly a last letter. -/
def firstSyllable : Nat := 0xAC00
def firstLead : Nat := 0x1100
def firstVowel : Nat := 0x1161
def beforeTail : Nat := 0x11A7
def leads : Nat := 19
def vowels : Nat := 21
def tails : Nat := 28

def isWithin (n start count : Nat) : Bool := start ≤ n && n < start + count

/-- The two characters that a composed one is made of. -/
def parts? (c : Char) : Option (Char × Char) :=
  if isWithin c.toNat firstSyllable (leads * vowels * tails) then
    let index := c.toNat - firstSyllable
    if index % tails = 0 then
      some (Char.ofNat (firstLead + index / tails / vowels), Char.ofNat (firstVowel + index / tails % vowels))
    else some (Char.ofNat (c.toNat - index % tails), Char.ofNat (beforeTail + index % tails))
  else (Band.value? composites c).map fun (first, second) => (Char.ofNat first, Char.ofNat second)

/-- No character is composed more often than this. -/
def depth : Nat := 4

def decompose : Nat → Char → List Char
  | 0, c => [c]
  | depth + 1, c => match parts? c with
    | some (first, second) => decompose depth first ++ [second]
    | none => [c]

/-- The character that two are made into. -/
def pair? (first second : Char) : Option Char :=
  let a := first.toNat
  let b := second.toNat
  if isWithin a firstLead leads && isWithin b firstVowel vowels then
    some (Char.ofNat (firstSyllable + ((a - firstLead) * vowels + (b - firstVowel)) * tails))
  else if isWithin a firstSyllable (leads * vowels * tails) && (a - firstSyllable) % tails = 0 &&
      isWithin b (beforeTail + 1) (tails - 1) then
    some (Char.ofNat (a + (b - beforeTail)))
  else (composites.find? fun band => band.value == (a, b)).map fun band => Char.ofNat band.first

/-- Puts a character before marks that are in order already; it stays before those of its own class. -/
def place (c : Char) : List Char → List Char
  | [] => [c]
  | d :: rest =>
    if 0 < markClass d && markClass d < markClass c then d :: place c rest else c :: d :: rest

def ordered (text : List Char) : List Char := text.foldr place []

/-- What follows a letter: the marks that stay, latest first, and whether one blocks the next one. -/
def composeFrom (letter : Char) (marks : List Char) : List Char → List Char
  | [] => letter :: marks.reverse
  | c :: rest =>
    let isFree := match marks with
      | [] => true
      | last :: _ => markClass last < markClass c
    match if isFree then pair? letter c else none with
    | some composed => composeFrom composed marks rest
    | none =>
      if markClass c = 0 then letter :: marks.reverse ++ composeFrom c [] rest
      else composeFrom letter (c :: marks) rest

/-- Marks before the first letter have nothing to be composed with. -/
def compose (text : List Char) : List Char :=
  match text.dropWhile (markClass · ≠ 0) with
  | letter :: rest => text.takeWhile (markClass · ≠ 0) ++ composeFrom letter [] rest
  | [] => text

def composed (text : List Char) : List Char := compose (ordered (text.flatMap (decompose depth)))

end TenantAccess.Text.Composition
