/-! Tables over the characters, written as rows of a range and a value. The ranges are in order and do
not meet, so a character is found by halving. -/

namespace TenantAccess.Text

structure Band (α : Type) where
  first : Nat
  last : Nat
  value : α
  deriving Repr

namespace Band

def hexDigit (c : Char) : Nat :=
  if '0' ≤ c && c ≤ '9' then c.toNat - '0'.toNat else c.toNat - 'A'.toNat + 10

def hexNumber (digits : List Char) : Nat := digits.foldl (fun n c => n * 16 + hexDigit c) 0

/-- The band that holds a number, looked for between two places of the table. -/
def seek (bands : Array (Band α)) (n low high : Nat) : Option (Band α) :=
  if _ : low < high then
    match bands[(low + high) / 2]? with
    | none => none
    | some band =>
      if n < band.first then seek bands n low ((low + high) / 2)
      else if band.last < n then seek bands n ((low + high) / 2 + 1) high
      else some band
  else none
termination_by high - low

def find? (bands : Array (Band α)) (n : Nat) : Option (Band α) := seek bands n 0 bands.size

def value? (bands : Array (Band α)) (c : Char) : Option α := (find? bands c.toNat).map (·.value)

def holds (bands : Array (Band α)) (c : Char) : Bool := (find? bands c.toNat).isSome

/-- A row reads `first-last=value`; a range of one character is written once, and a value may be
missing. -/
def ofRow (read : List Char → α) (row : List Char) : Band α :=
  let range := row.takeWhile (· != '=')
  let first := range.takeWhile (· != '-')
  let last := range.drop (first.length + 1)
  ⟨hexNumber first, hexNumber (if last.isEmpty then first else last), read (row.drop (range.length + 1))⟩

def table (read : List Char → α) (rows : List String) : Array (Band α) :=
  (rows.flatMap fun row => (row.toList.splitOn ' ').map (ofRow read)).toArray

end Band
end TenantAccess.Text
