/-! Moments as headers tell them: a day of the week, a date, a time of day, and the zone of Greenwich. -/

namespace TenantAccess.HttpDate

def months : List String :=
  ["jan", "feb", "mar", "apr", "may", "jun", "jul", "aug", "sep", "oct", "nov", "dec"]

def number? (text : String) : Option Nat :=
  if text.isEmpty || !text.toList.all Char.isDigit then none else text.toNat?

/-- The days from the start of 1970 to a date. -/
def daysTo (year month day : Nat) : Int :=
  let years : Int := if month ≤ 2 then year - 1 else year
  let monthFromMarch := if month ≤ 2 then month + 9 else month - 3
  years * 365 + years.fdiv 4 - years.fdiv 100 + years.fdiv 400 + (153 * monthFromMarch + 2) / 5 + day - 719469

def timeOfDay? (text : String) : Option Nat :=
  match (text.splitOn ":").mapM number? with
  | some [hours, minutes, seconds] =>
    if hours < 24 && minutes < 60 && seconds < 60 then some (hours * 3600 + minutes * 60 + seconds) else none
  | _ => none

/-- Seconds since 1970. The day of the week is not looked at. -/
def seconds? (text : String) : Option Int :=
  match (text.splitOn " ").filter (· ≠ "") with
  | [_, day, month, year, time, _] => do
    let day ← number? day
    let month ← months.findIdx? (· == month.map Char.toLower)
    let year ← number? year
    let time ← timeOfDay? time
    if 1 ≤ day && day ≤ 31 then some (daysTo year (month + 1) day * 86400 + time) else none
  | _ => none

end TenantAccess.HttpDate
