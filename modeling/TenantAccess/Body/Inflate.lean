import TenantAccess.Body.CodeTable

/-! Opening a compressed body. It is a sequence of blocks; each holds octets as they are, or codes for
octets and for repetitions of what came before. -/

namespace TenantAccess.Inflate

/-- What was written so far, and what is left to read. -/
structure State where
  written : Array UInt8
  bits : Bits

/-- For each code of a repetition, the number it starts from and how many digits are added to it. -/
def lengthRanges : List (Nat × Nat) :=
  [(3, 0), (4, 0), (5, 0), (6, 0), (7, 0), (8, 0), (9, 0), (10, 0), (11, 1), (13, 1), (15, 1), (17, 1),
    (19, 2), (23, 2), (27, 2), (31, 2), (35, 3), (43, 3), (51, 3), (59, 3), (67, 4), (83, 4), (99, 4),
    (115, 4), (131, 5), (163, 5), (195, 5), (227, 5), (258, 0)]

def distanceRanges : List (Nat × Nat) :=
  [(1, 0), (2, 0), (3, 0), (4, 0), (5, 1), (7, 1), (9, 2), (13, 2), (17, 3), (25, 3), (33, 4), (49, 4),
    (65, 5), (97, 5), (129, 6), (193, 6), (257, 7), (385, 7), (513, 8), (769, 8), (1025, 9), (1537, 9),
    (2049, 10), (3073, 10), (4097, 11), (6145, 11), (8193, 12), (12289, 12), (16385, 13), (24577, 13)]

def ranged? (ranges : List (Nat × Nat)) (symbol : Nat) (bits : Bits) : Option (Nat × Bits) :=
  match ranges[symbol]? with
  | none => none
  | some (start, places) => (bits.number? places).map fun (more, bits) => (start + more, bits)

/-- Writes again what was written so far back; a repetition may reach into itself. -/
def repeatBack (distance : Nat) : Nat → Array UInt8 → Array UInt8
  | 0, written => written
  | count + 1, written =>
    repeatBack distance count (written.push (written.getD (written.size - distance) 0))

def endOfBlock : Nat := 256

/-- The codes of one block. Each code takes a digit, so the digits that are left bound their number;
a body that grows past the limit is given up. -/
def readCodes (limit : Nat) (literals distances : CodeTable) : Nat → State → Option State
  | 0, _ => none
  | count + 1, state => match literals.read? state.bits with
    | none => none
    | some (symbol, bits) =>
      if limit < state.written.size then none
      else if symbol < endOfBlock then
        readCodes limit literals distances count ⟨state.written.push (UInt8.ofNat symbol), bits⟩
      else if symbol = endOfBlock then some ⟨state.written, bits⟩
      else match ranged? lengthRanges (symbol - 257) bits with
        | none => none
        | some (length, bits) => match (distances.read? bits).bind fun (symbol, bits) =>
            ranged? distanceRanges symbol bits with
          | none => none
          | some (distance, bits) =>
            if state.written.size < distance then none
            else readCodes limit literals distances count ⟨repeatBack distance length state.written, bits⟩

def fixedLiterals : List Nat :=
  List.replicate 144 8 ++ List.replicate 112 9 ++ List.replicate 24 7 ++ List.replicate 8 8

def fixedDistances : List Nat := List.replicate 32 5

/-- The order in which the lengths of a table's own codes are written. -/
def lengthOrder : List Nat := [16, 17, 18, 0, 8, 7, 9, 6, 10, 5, 11, 4, 12, 3, 13, 2, 14, 1, 15]

def readNumbers (places : Nat) : Nat → Bits → Option (List Nat × Bits)
  | 0, bits => some ([], bits)
  | count + 1, bits => (bits.number? places).bind fun (number, bits) =>
    (readNumbers places count bits).map fun (others, bits) => (number :: others, bits)

/-- The lengths of a block's codes, latest first; three numbers say that lengths are repeated. -/
def readLengths (table : CodeTable) (wanted : Nat) : Nat → List Nat → Bits → Option (List Nat × Bits)
  | 0, _, _ => none
  | count + 1, done, bits =>
    if wanted < done.length then none
    else if done.length = wanted then some (done.reverse, bits)
    else match table.read? bits with
      | none => none
      | some (symbol, bits) =>
        if symbol < 16 then readLengths table wanted count (symbol :: done) bits
        else
          let (places, start, length) : Nat × Nat × Option Nat :=
            if symbol = 16 then (2, 3, done.head?) else if symbol = 17 then (3, 3, some 0) else (7, 11, some 0)
          match length, bits.number? places with
          | some length, some (more, bits) =>
            readLengths table wanted count (List.replicate (start + more) length ++ done) bits
          | _, _ => none

/-- The tables of a block that brings its own. One of its codes must end the block. -/
def readTables (bits : Bits) : Option (CodeTable × CodeTable × Bits) := do
  let (literals, bits) ← bits.number? 5
  let (distances, bits) ← bits.number? 5
  let (given, bits) ← bits.number? 4
  if 29 < literals || 29 < distances then none
  else
    let (short, bits) ← readNumbers 3 (given + 4) bits
    let named := lengthOrder.zip short
    let own ← CodeTable.ofLengths? ((List.range 19).map fun n => (named.lookup n).getD 0) false
    let wanted := literals + 257 + (distances + 1)
    let (lengths, bits) ← readLengths own wanted (wanted + 1) [] bits
    if lengths[endOfBlock]? = some 0 then none
    else
      let first ← CodeTable.ofLengths? (lengths.take (literals + 257)) true
      let second ← CodeTable.ofLengths? (lengths.drop (literals + 257)) true
      some (first, second, bits)

/-- A block of octets as they are. Their number is written twice, the second time inverted. -/
def readPlain (state : State) : Option State := do
  let (length, bits) ← state.bits.align.number? 16
  let (inverted, bits) ← bits.number? 16
  if length + inverted ≠ 0xFFFF || bits.octets.length < length then none
  else some ⟨state.written ++ (bits.octets.take length).toArray, ⟨[], bits.octets.drop length⟩⟩

def readBlock (limit : Nat) (kind : Nat) (state : State) : Option State :=
  match kind with
  | 0 => readPlain state
  | 1 => do
    let literals ← CodeTable.ofLengths? fixedLiterals true
    let distances ← CodeTable.ofLengths? fixedDistances true
    readCodes limit literals distances (state.bits.count + 1) state
  | 2 => do
    let (literals, distances, bits) ← readTables state.bits
    readCodes limit literals distances (bits.count + 1) ⟨state.written, bits⟩
  | _ => none

def readBlocks (limit : Nat) : Nat → State → Option State
  | 0, _ => none
  | count + 1, state => do
    let (isLast, bits) ← state.bits.number? 1
    let (kind, bits) ← bits.number? 2
    let state ← readBlock limit kind ⟨state.written, bits⟩
    if limit < state.written.size then none
    else if isLast = 1 then some state
    else readBlocks limit count state

/-- The octets that a compressed sequence writes, and what comes after it. -/
def inflate? (limit : Nat) (octets : List UInt8) : Option (List UInt8 × List UInt8) :=
  (readBlocks limit (8 * octets.length + 1) ⟨#[], .ofOctets octets⟩).map fun state =>
    (state.written.toList, state.bits.octets)

end TenantAccess.Inflate
