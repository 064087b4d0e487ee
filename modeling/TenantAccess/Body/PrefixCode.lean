import TenantAccess.Body.CodeTable
import TenantAccess.Crypto.Octets

/-! Codes that a compressed body brings along for the numbers below a bound: written out when there are
up to four numbers, else by their lengths, which have a code of their own. -/

namespace TenantAccess

abbrev BitReader (α : Type) := StateT Bits Option α

/-- With a single number there is nothing to read. -/
inductive PrefixCode where
  | single (symbol : Nat)
  | table (codes : CodeTable)

namespace PrefixCode

def digits (places : Nat) : BitReader Nat := Bits.number? places

def several (reader : BitReader α) : Nat → BitReader (List α)
  | 0 => pure []
  | count + 1 => do
    let first ← reader
    let others ← several reader count
    pure (first :: others)

def read : PrefixCode → BitReader Nat
  | .single symbol => pure symbol
  | .table codes => codes.read?

/-- A code whose lengths leave no room. -/
def ofLengths (lengths : List Nat) : BitReader PrefixCode :=
  match CodeTable.ofLengths? lengths false with
  | some codes => pure (.table codes)
  | none => failure

def ofNamed (bound : Nat) (lengths : List (Nat × Nat)) : BitReader PrefixCode :=
  ofLengths ((List.range bound).map fun symbol => (lengths.lookup symbol).getD 0)

/-- One to four different numbers. Of four, the lengths may differ. -/
def readWritten (bound : Nat) : BitReader PrefixCode := do
  let more ← digits 2
  let symbols ← several (digits (Crypto.bitLength (bound - 1))) (more + 1)
  if symbols.any (bound ≤ ·) || symbols.eraseDups.length ≠ symbols.length then failure
  else match symbols with
    | [only] => pure (.single only)
    | [_, _] => ofNamed bound (symbols.zip [1, 1])
    | [_, _, _] => ofNamed bound (symbols.zip [1, 2, 2])
    | _ =>
      let differ ← digits 1
      ofNamed bound (symbols.zip (if differ = 1 then [1, 2, 3, 3] else [2, 2, 2, 2]))

/-- The length of a code for a length. -/
def readShortLength : BitReader Nat := do
  match ← digits 2 with
  | 0 => pure 0
  | 1 => pure 4
  | 2 => pure 3
  | _ =>
    if (← digits 1) = 0 then pure 2
    else if (← digits 1) = 0 then pure 1
    else pure 5

/-- The order in which the lengths of the codes for lengths are written. -/
def shortOrder : List Nat := [1, 2, 3, 4, 0, 5, 17, 6, 16, 7, 8, 9, 10, 11, 12, 13, 14, 15]

/-- The lengths of the codes for lengths, up to the one that leaves no room. -/
def readShortLengths : List Nat → Nat → BitReader (List (Nat × Nat))
  | [], _ => pure []
  | symbol :: others, room => do
    let length ← readShortLength
    let share := 32 / Nat.pow 2 length
    if length = 0 then readShortLengths others room
    else if room < share then failure
    else if room = share then pure [(symbol, length)]
    else
      let found ← readShortLengths others (room - share)
      pure ((symbol, length) :: found)

/-- Lengths that have been read, the latest first. -/
structure Lengths where
  found : List Nat
  /-- How many more there may be. -/
  left : Nat
  /-- The latest length that is not zero. -/
  last : Nat
  /-- How many times a length has been repeated without a pause, and which one. -/
  run : Nat
  repeated : Nat
  room : Nat

namespace Lengths

def wholeRoom : Nat := 32768

def start (bound : Nat) : Lengths := ⟨[], bound, 8, 0, 0, wholeRoom⟩

/-- The room that some codes of one length take. -/
def share (length count : Nat) : Nat := if length = 0 then 0 else count * (wholeRoom / Nat.pow 2 length)

def add? (lengths : Lengths) (length count : Nat) : Option Lengths :=
  if lengths.left < count || lengths.room < share length count then none
  else some { lengths with
    found := List.replicate count length ++ lengths.found
    left := lengths.left - count
    room := lengths.room - share length count }

/-- A repetition right behind one of the same length goes on counting where that one ended. -/
def repeat? (lengths : Lengths) (length places more : Nat) : Option Lengths :=
  let before := if length = lengths.repeated then lengths.run else 0
  let run := (before - 2) * Nat.pow 2 places + more + 3
  (lengths.add? length (run - before)).map fun lengths => { lengths with run, repeated := length }

end Lengths

/-- Lengths are read until there is no room; the fuel is the bound on their number. -/
def readLengths (code : PrefixCode) : Nat → Lengths → BitReader (List Nat)
  | fuel, lengths =>
    if lengths.room = 0 then pure lengths.found.reverse
    else match fuel with
      | 0 => failure
      | fuel + 1 => do
        let symbol ← code.read
        if symbol < 16 then
          match lengths.add? symbol 1 with
          | some after =>
            readLengths code fuel { after with last := if symbol = 0 then lengths.last else symbol, run := 0 }
          | none => failure
        else
          let more ← digits (symbol - 14)
          match lengths.repeat? (if symbol = 16 then lengths.last else 0) (symbol - 14) more with
          | some after => readLengths code fuel after
          | none => failure

/-- The code for the numbers below a bound. -/
def readCode (bound : Nat) : BitReader PrefixCode := do
  let skipped ← digits 2
  if skipped = 1 then readWritten bound
  else
    let short ← readShortLengths (shortOrder.drop skipped) 32
    let code ← match short with
      | [] => failure
      | [(symbol, _)] => pure (.single symbol)
      | _ => ofNamed 18 short
    let lengths ← readLengths code bound (.start bound)
    ofLengths lengths

end PrefixCode
end TenantAccess
