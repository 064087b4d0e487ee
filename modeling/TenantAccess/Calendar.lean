import TenantAccess.Number.Basic

/-! The written form of a moment: a civil date and a time of day, in milliseconds since 1970. -/

namespace TenantAccess.Calendar

/-- No moment further than a hundred million days from 1970 has a written form. -/
def limit : Rat := 8640000000000000

def padded (width n : Nat) : String :=
  let digits := toString n
  String.ofList (List.replicate (width - digits.length) '0') ++ digits

/-- Year, month and day of a day counted from 1970, through years that begin in March and eras of
four hundred years. -/
def civil (days : Int) : Int × Nat × Nat :=
  let shifted := days + 719468
  let era := shifted.fdiv 146097
  let dayOfEra := (shifted.fmod 146097).toNat
  let yearOfEra := (dayOfEra - dayOfEra / 1460 + dayOfEra / 36524 - dayOfEra / 146096) / 365
  let dayOfYear := dayOfEra - (365 * yearOfEra + yearOfEra / 4 - yearOfEra / 100)
  let monthFromMarch := (5 * dayOfYear + 2) / 153
  let day := dayOfYear - (153 * monthFromMarch + 2) / 5 + 1
  let month := if monthFromMarch < 10 then monthFromMarch + 3 else monthFromMarch - 9
  let year := era * 400 + yearOfEra + (if month ≤ 2 then 1 else 0)
  (year, month, day)

/-- Years outside four digits carry a sign and six digits. -/
def yearText (year : Int) : String :=
  if 0 ≤ year && year ≤ 9999 then padded 4 year.natAbs
  else (if year < 0 then "-" else "+") ++ padded 6 year.natAbs

def ofMilliseconds (moment : Int) : String :=
  let (year, month, day) := civil (moment.fdiv 86400000)
  let rest := (moment.fmod 86400000).toNat
  yearText year ++ "-" ++ padded 2 month ++ "-" ++ padded 2 day ++ "T" ++
    padded 2 (rest / 3600000) ++ ":" ++ padded 2 (rest / 60000 % 60) ++ ":" ++
    padded 2 (rest / 1000 % 60) ++ "." ++ padded 3 (rest % 1000) ++ "Z"

def isWritable (moment : Rat) : Bool := -limit ≤ moment && moment ≤ limit

/-- A fraction of a millisecond is dropped. -/
def toText? : Number → Option String
  | .finite moment => if isWritable moment then some (ofMilliseconds (Number.truncate moment)) else none
  | _ => none

end TenantAccess.Calendar
