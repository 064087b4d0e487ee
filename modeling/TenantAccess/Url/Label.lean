import TenantAccess.Text.Composition
import TenantAccess.Text.Direction

/-! Which labels beyond ASCII a domain may have. -/

namespace TenantAccess.Url.Label

open Text (Direction)

def nonJoiner : Char := '\u200C'
def joiner : Char := '\u200D'

/-- The class of the marks that take the vowel from a letter. -/
def viramaClass : Nat := 9

def isVirama (c : Char) : Bool := Text.Composition.markClass c == viramaClass

/-- What the first joining control of a label says about it, none when it has none. A control is at
home behind a virama; one that keeps letters apart is also at home between letters that would join. -/
def controlVerdict? (before : List Char) : List Char → Option Bool
  | [] => none
  | c :: rest =>
    let behindVirama := (before.head?.map isVirama).getD false
    if c = nonJoiner then
      some (behindVirama || (before.any Text.joinsNext && rest.any Text.joinsPrevious))
    else if c = joiner then some behindVirama
    else controlVerdict? (c :: before) rest

def runsRight (direction : Direction) : Bool :=
  direction == .right || direction == .arabic || direction == .arabicNumber

/-- Directions that fit into a label whichever way it runs. -/
def fitsEither (direction : Direction) : Bool :=
  [.number, .numberSeparator, .commonSeparator, .numberMark, .neutral, .boundary, .mark].contains direction

/-- A label that begins from left to right and ends with a letter or a number. -/
def runsLeftThroughout (directions : List Direction) : Bool :=
  directions.all (fun direction => direction == .left || fitsEither direction) &&
    (directions.getLast? == some .left || directions.getLast? == some .number)

/-- A label that runs from right to left, and holds numbers of one kind only. -/
def runsRightThroughout (directions : List Direction) : Bool :=
  directions.all (fun direction => runsRight direction || fitsEither direction) &&
    !(directions.contains .number && directions.contains .arabicNumber) &&
    (directions.getLast?.map fun direction => runsRight direction || direction == .number).getD false

/-- Marks at the end of a label do not count for its direction. -/
def runsOneWay (label : List Char) : Bool :=
  let directions := label.map Direction.ofChar
  let counted := (directions.reverse.dropWhile (· == .mark)).reverse
  !counted.isEmpty &&
    (!directions.any runsRight ||
      if directions.head? == some .left then runsLeftThroughout counted else runsRightThroughout counted)

/-- A label may not begin with a mark; its joining controls decide about it, and without them the
directions of its characters do. -/
def isValid (label : List Char) : Bool :=
  match label with
  | [] => false
  | first :: _ => !Text.isMark first && (controlVerdict? [] label).getD (runsOneWay label)

end TenantAccess.Url.Label
