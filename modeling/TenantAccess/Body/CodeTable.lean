import TenantAccess.Body.Bits

/-! Codes of differing lengths for the numbers of an alphabet. Codes of one length are consecutive, and
those of the next length go on after them, so the lengths alone say everything. -/

namespace TenantAccess

structure CodeTable where
  /-- How many codes there are of each length, from one digit on. -/
  counts : List Nat
  /-- The alphabet in the order of its codes. -/
  symbols : Array Nat

namespace CodeTable

def longest : Nat := 15

/-- The room that is left for longer codes, none when there are more codes than room. -/
def room? (free : Nat) : List Nat → Option Nat
  | [] => some free
  | count :: rest => if 2 * free < count then none else room? (2 * free - count) rest

def countsOf (lengths : List Nat) : List Nat :=
  (List.range longest).map fun index => lengths.count (index + 1)

def orderOf (lengths : List Nat) : Array Nat :=
  ((List.range longest).flatMap fun index =>
    lengths.zipIdx.filterMap fun (length, symbol) =>
      if length = index + 1 then some symbol else none).toArray

/-- A table may leave room only when it has no code at all, or, where that is allowed, a single one. -/
def ofLengths? (lengths : List Nat) (single : Bool) : Option CodeTable :=
  let counts := countsOf lengths
  let isSparse := counts.all (· == 0) || (single && (counts.drop 1).all (· == 0))
  match room? 1 counts with
  | none => none
  | some left => if left = 0 || isSparse then some ⟨counts, orderOf lengths⟩ else none

def readFrom (symbols : Array Nat) (code first index : Nat) :
    List Nat → Bits → Option (Nat × Bits)
  | [], _ => none
  | count :: rest, bits => match bits.next? with
    | none => none
    | some (digit, bits) =>
      let code := 2 * code + digit.toNat
      let first := 2 * first
      if code < first + count then symbols[index + (code - first)]?.map fun symbol => (symbol, bits)
      else readFrom symbols code (first + count) (index + count) rest bits

/-- The number whose code comes next. -/
def read? (table : CodeTable) (bits : Bits) : Option (Nat × Bits) :=
  readFrom table.symbols 0 0 0 table.counts bits

end CodeTable
end TenantAccess
