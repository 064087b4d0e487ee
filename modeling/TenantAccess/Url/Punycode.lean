/-! Labels of a domain that spell characters beyond ASCII. Each step inserts one character; where and
which is written as a difference, least digit first, with thresholds that adapt to the last one. -/

namespace TenantAccess.Url.Punycode

def digit? (c : Char) : Option Nat :=
  if 'a' ≤ c && c ≤ 'z' then some (c.toNat - 'a'.toNat)
  else if '0' ≤ c && c ≤ '9' then some (c.toNat - '0'.toNat + 26)
  else none

def threshold (position bias : Nat) : Nat :=
  if position ≤ bias then 1 else if bias + 26 ≤ position then 26 else position - bias

def settle (delta position : Nat) : Nat × Nat :=
  if 455 < delta then settle (delta / 35) (position + 36) else (delta, position)
termination_by delta

def adapt (delta points : Nat) (isFirst : Bool) : Nat :=
  let scaled := if isFirst then delta / 700 else delta / 2
  let (rest, position) := settle (scaled + scaled / points) 0
  position + 36 * rest / (rest + 38)

/-- What has been decoded, and where the difference under way has got to. -/
structure Progress where
  decoded : List Char
  point : Nat
  place : Nat
  bias : Nat
  position : Nat
  weight : Nat
  delta : Nat

/-- The largest number that is followed. -/
def limit : Nat := 0x7FFFFFFF

/-- A difference that has come to its last digit inserts its character. -/
def insert? (state : Progress) (delta : Nat) : Option Progress :=
  let points := state.decoded.length + 1
  let place := state.place + delta
  let point := state.point + place / points
  if point.isValidChar && 0x80 ≤ point then
    some {
      decoded := state.decoded.insertIdx (place % points) (Char.ofNat point)
      point := point
      place := place % points + 1
      bias := adapt delta points (state.place = 0)
      position := 36, weight := 1, delta := 0 }
  else none

def step? (state : Progress) (c : Char) : Option Progress :=
  match digit? c with
  | none => none
  | some digit =>
    let delta := state.delta + digit * state.weight
    let edge := threshold state.position state.bias
    let weight := state.weight * (36 - edge)
    if limit < state.place + delta then none
    else if digit < edge then insert? state delta
    else if limit < weight then none
    else some { state with delta := delta, weight := weight, position := state.position + 36 }

def splitLast (text : List Char) : List Char × List Char :=
  let last := (text.reverse.takeWhile (· != '-')).reverse
  (text.take (text.length - last.length - 1), last)

/-- The characters a label spells behind its mark, none when it spells none. No mark stands behind
another one. -/
def decode? (text : List Char) : Option (List Char) :=
  let (basic, rest) := splitLast text
  let start : Progress := ⟨basic, 128, 0, 72, 36, 1, 0⟩
  if "xn--".toList.isPrefixOf text then none
  else match rest.foldlM step? start with
    | some state => if state.position = 36 && state.weight = 1 then some state.decoded else none
    | none => none

end TenantAccess.Url.Punycode
