import TenantAccess.Text.Band
import TenantAccess.Text.DirectionTable

/-! How characters run and join: their direction, whether they are marks, and which neighbours a letter
joins. -/

namespace TenantAccess.Text

inductive Direction where
  | left
  | right
  | arabic
  | arabicNumber
  | number
  | numberSeparator
  | numberMark
  | commonSeparator
  | neutral
  | boundary
  | mark
  | blank
  deriving DecidableEq, Repr

namespace Direction

def ofLetter : List Char → Direction
  | ['R'] => .right
  | ['A'] => .arabic
  | ['N'] => .arabicNumber
  | ['E'] => .number
  | ['P'] => .numberSeparator
  | ['T'] => .numberMark
  | ['C'] => .commonSeparator
  | ['O'] => .neutral
  | ['B'] => .boundary
  | ['M'] => .mark
  | _ => .blank

def table : Array (Band Direction) := Band.table ofLetter DirectionTable.directions

def ofChar (c : Char) : Direction := (Band.value? table c).getD .left

end Direction

def markTable : Array (Band Unit) := Band.table (fun _ => ()) DirectionTable.marks

def isMark (c : Char) : Bool := Band.holds markTable c

def joiningTable : Array (Band (List Char)) := Band.table id DirectionTable.joining

/-- Whether a letter joins what follows it. -/
def joinsNext (c : Char) : Bool :=
  Band.value? joiningTable c == some ['L'] || Band.value? joiningTable c == some ['D']

/-- Whether a letter joins what comes before it. -/
def joinsPrevious (c : Char) : Bool :=
  Band.value? joiningTable c == some ['R'] || Band.value? joiningTable c == some ['D']

end TenantAccess.Text
