import TenantAccess.Body.WordTable
import TenantAccess.Text.Base64
import TenantAccess.Text.Utf8

/-! Words named by their length, their number among the words of that length, and the form in which
they are written. -/

namespace TenantAccess.Words

/-- How many words of a length there are, as a power of two; shorter and longer words are not named. -/
def powers : List Nat :=
  [0, 0, 0, 0, 10, 10, 11, 11, 10, 10, 10, 10, 10, 9, 9, 8, 7, 7, 8, 7, 7, 6, 6, 5, 5]

def shortest : Nat := 4
def longest : Nat := 24

def power (length : Nat) : Nat := powers.getD length 0

/-- Where the words of a length start. -/
def start : Nat → Nat
  | 0 => 0
  | length + 1 => start length + if length < shortest then 0 else length * Nat.pow 2 (power length)

def octets : Array UInt8 := (WordTable.rows.flatMap fun row => Base64.decode row.toList).toArray

/-- What is done to a word itself. -/
inductive Change where
  | same
  | dropFirst (count : Nat)
  | dropLast (count : Nat)
  | raiseFirst
  | raiseAll
  deriving DecidableEq, Repr

/-- The forms of a word: what stands before it, its change, and what stands behind it. -/
def forms : List (String × Change × String) :=
  [("", .same, ""), ("", .same, " "), (" ", .same, " "), ("", .dropFirst 1, ""),
    ("", .raiseFirst, " "), ("", .same, " the "), (" ", .same, ""), ("s ", .same, " "),
    ("", .same, " of "), ("", .raiseFirst, ""), ("", .same, " and "), ("", .dropFirst 2, ""),
    ("", .dropLast 1, ""), (", ", .same, " "), ("", .same, ", "), (" ", .raiseFirst, " "),
    ("", .same, " in "), ("", .same, " to "), ("e ", .same, " "), ("", .same, "\""),
    ("", .same, "."), ("", .same, "\">"), ("", .same, "\n"), ("", .dropLast 3, ""),
    ("", .same, "]"), ("", .same, " for "), ("", .dropFirst 3, ""), ("", .dropLast 2, ""),
    ("", .same, " a "), ("", .same, " that "), (" ", .raiseFirst, ""), ("", .same, ". "),
    (".", .same, ""), (" ", .same, ", "), ("", .dropFirst 4, ""), ("", .same, " with "),
    ("", .same, "'"), ("", .same, " from "), ("", .same, " by "), ("", .dropFirst 5, ""),
    ("", .dropFirst 6, ""), (" the ", .same, ""), ("", .dropLast 4, ""), ("", .same, ". The "),
    ("", .raiseAll, ""), ("", .same, " on "), ("", .same, " as "), ("", .same, " is "),
    ("", .dropLast 7, ""), ("", .dropLast 1, "ing "), ("", .same, "\n\t"), ("", .same, ":"),
    (" ", .same, ". "), ("", .same, "ed "), ("", .dropFirst 9, ""), ("", .dropFirst 7, ""),
    ("", .dropLast 6, ""), ("", .same, "("), ("", .raiseFirst, ", "), ("", .dropLast 8, ""),
    ("", .same, " at "), ("", .same, "ly "), (" the ", .same, " of "), ("", .dropLast 5, ""),
    ("", .dropLast 9, ""), (" ", .raiseFirst, ", "), ("", .raiseFirst, "\""), (".", .same, "("),
    ("", .raiseAll, " "), ("", .raiseFirst, "\">"), ("", .same, "=\""), (" ", .same, "."),
    (".com/", .same, ""), (" the ", .same, " of the "), ("", .raiseFirst, "'"),
    ("", .same, ". This "), ("", .same, ","), (".", .same, " "), ("", .raiseFirst, "("),
    ("", .raiseFirst, "."), ("", .same, " not "), (" ", .same, "=\""), ("", .same, "er "),
    (" ", .raiseAll, " "), ("", .same, "al "), (" ", .raiseAll, ""), ("", .same, "='"),
    ("", .raiseAll, "\""), ("", .raiseFirst, ". "), (" ", .same, "("), ("", .same, "ful "),
    (" ", .raiseFirst, ". "), ("", .same, "ive "), ("", .same, "less "), ("", .raiseAll, "'"),
    ("", .same, "est "), (" ", .raiseFirst, "."), ("", .raiseAll, "\">"), (" ", .same, "='"),
    ("", .raiseFirst, ","), ("", .same, "ize "), ("", .raiseAll, "."), ("\u00a0", .same, ""),
    (" ", .same, ","), ("", .raiseFirst, "=\""), ("", .raiseAll, "=\""), ("", .same, "ous "),
    ("", .raiseAll, ", "), ("", .raiseFirst, "='"), (" ", .raiseFirst, ","),
    (" ", .raiseAll, "=\""), (" ", .raiseAll, ", "), ("", .raiseAll, ","), ("", .raiseAll, "("),
    ("", .raiseAll, ". "), (" ", .raiseAll, "."), ("", .raiseAll, "='"), (" ", .raiseAll, ". "),
    (" ", .raiseFirst, "=\""), (" ", .raiseAll, "='"), (" ", .raiseFirst, "='")]

/-- Raises the character that comes first, by flipping one of its octets; what follows it is left. -/
def raise : List UInt8 → List UInt8 × List UInt8
  | [] => ([], [])
  | first :: rest =>
    if first < 0xC0 then ([if 0x61 ≤ first ∧ first ≤ 0x7A then first ^^^ 0x20 else first], rest)
    else if first < 0xE0 then (first :: (rest.take 1).map (· ^^^ 0x20), rest.drop 1)
    else (first :: rest.take 1 ++ ((rest.drop 1).take 1).map (· ^^^ 5), rest.drop 2)

/-- Raises every character; the fuel is the number of octets. -/
def raiseAll : Nat → List UInt8 → List UInt8
  | 0, word => word
  | fuel + 1, word => match raise word with
    | (first, []) => first
    | (first, rest) => first ++ raiseAll fuel rest

def Change.apply (change : Change) (word : List UInt8) : List UInt8 :=
  match change with
  | .same => word
  | .dropFirst count => word.drop count
  | .dropLast count => word.take (word.length - count)
  | .raiseFirst => (raise word).1 ++ (raise word).2
  | .raiseAll => Words.raiseAll word.length word

/-- The word of a length that an address names: its low digits count the words, the others the forms. -/
def word? (length address : Nat) : Option (List UInt8) :=
  if length < shortest || longest < length then none
  else
    let many := Nat.pow 2 (power length)
    let place := start length + address % many * length
    (forms[address / many]?).map fun (before, change, behind) =>
      Utf8.encode before ++ change.apply (octets.extract place (place + length)).toList ++ Utf8.encode behind

end TenantAccess.Words
