import TenantAccess.Body.Inflate
import TenantAccess.Body.PrefixCode
import TenantAccess.Body.Words

/-! Opening a body that is compressed with known words. It is a sequence of parts; the commands of a part
write some octets and then repeat what came before, or name a word. Which code is read depends on blocks
that are announced and on the octets just written. -/

namespace TenantAccess.Brotli
open PrefixCode (digits several readCode)

/-- A row of lengths: the least one, and how many digits are added to it. -/
abbrev Ranges := List (Nat × Nat)

def blockRanges : Ranges :=
  [(1, 2), (5, 2), (9, 2), (13, 2), (17, 3), (25, 3), (33, 3), (41, 3), (49, 4), (65, 4), (81, 4), (97, 4),
    (113, 5), (145, 5), (177, 5), (209, 5), (241, 6), (305, 6), (369, 7), (497, 8), (753, 9), (1265, 10),
    (2289, 11), (4337, 12), (8433, 13), (16625, 24)]

def insertRanges : Ranges :=
  [(0, 0), (1, 0), (2, 0), (3, 0), (4, 0), (5, 0), (6, 1), (8, 1), (10, 2), (14, 2), (18, 3), (26, 3),
    (34, 4), (50, 4), (66, 5), (98, 5), (130, 6), (194, 7), (322, 8), (578, 9), (1090, 10), (2114, 12),
    (6210, 14), (22594, 24)]

def copyRanges : Ranges :=
  [(2, 0), (3, 0), (4, 0), (5, 0), (6, 0), (7, 0), (8, 0), (9, 0), (10, 1), (12, 1), (14, 2), (18, 2),
    (22, 3), (30, 3), (38, 4), (54, 4), (70, 5), (102, 5), (134, 6), (198, 7), (326, 8), (582, 9),
    (1094, 10), (2118, 24)]

def ranged (ranges : Ranges) (symbol : Nat) : BitReader Nat := Inflate.ranged? ranges symbol

/-- How far back repetitions reach. -/
def readWindow : BitReader Nat := do
  if (← digits 1) = 0 then pure (Nat.pow 2 16 - 16)
  else
    let more ← digits 3
    if more ≠ 0 then pure (Nat.pow 2 (17 + more) - 16)
    else match ← digits 3 with
      | 0 => pure (Nat.pow 2 17 - 16)
      | 1 => failure
      | less => pure (Nat.pow 2 (8 + less) - 16)

/-- A number from one to two hundred and fifty-six. -/
def readCount : BitReader Nat := do
  if (← digits 1) = 0 then pure 1
  else
    let places ← digits 3
    let more ← digits places
    pure (Nat.pow 2 places + more + 1)

/-- Blocks of differing types follow each other; this is the current one. -/
structure Block where
  /-- How many types there are, with the codes for types and for lengths when there are several. -/
  types : Nat
  codes : Option (PrefixCode × PrefixCode)
  current : Nat
  previous : Nat
  left : Nat

namespace Block

def longest : Nat := Nat.pow 2 24

def start : BitReader Block := do
  let types ← readCount
  if types = 1 then pure ⟨1, none, 0, 1, longest⟩
  else
    let typeCode ← readCode (types + 2)
    let lengthCode ← readCode blockRanges.length
    let left ← ranged blockRanges (← lengthCode.read)
    pure ⟨types, some (typeCode, lengthCode), 0, 1, left⟩

/-- A type is the one before the current one, the one above it, or is named. -/
def typeOf (block : Block) (symbol : Nat) : Nat :=
  if symbol = 0 then block.previous
  else if symbol = 1 then (block.current + 1) % block.types
  else symbol - 2

/-- The block of the next symbol. -/
def next (block : Block) : BitReader Block := do
  if 0 < block.left then pure { block with left := block.left - 1 }
  else match block.codes with
    | none => pure block
    | some (typeCode, lengthCode) =>
      let symbol ← typeCode.read
      let length ← ranged blockRanges (← lengthCode.read)
      pure { block with current := block.typeOf symbol, previous := block.current, left := length - 1 }

end Block

/-- A list of numbers, in which a low symbol stands for a run of zeros. The fuel is their number. -/
def readMapItems (code : PrefixCode) (runs : Nat) : Nat → Nat → BitReader (List Nat)
  | _, 0 => pure []
  | 0, _ + 1 => failure
  | fuel + 1, left => do
    let symbol ← code.read
    let items ←
      if symbol = 0 then pure [0]
      else if symbol ≤ runs then do
        let more ← digits symbol
        if left < Nat.pow 2 symbol + more then failure
        else pure (List.replicate (Nat.pow 2 symbol + more) 0)
      else pure [symbol - runs]
    let others ← readMapItems code runs fuel (left - items.length)
    pure (items ++ others)

/-- Numbers that were written as their places in a list, each moved to its front when it was used. -/
def unmoved : List Nat → List Nat → List Nat
  | _, [] => []
  | order, place :: places =>
    let value := order.getD place 0
    value :: unmoved (value :: order.eraseIdx place) places

/-- Which of some codes goes with each context. -/
structure ContextMap where
  codes : Nat
  choice : Array Nat

def ContextMap.read (size : Nat) : BitReader ContextMap := do
  let codes ← readCount
  if codes = 1 then pure ⟨1, Array.replicate size 0⟩
  else
    let runs ← if (← digits 1) = 0 then pure 0 else do
      let more ← digits 4
      pure (more + 1)
    let code ← readCode (codes + runs)
    let items ← readMapItems code runs size size
    let moved ← digits 1
    pure ⟨codes, (if moved = 1 then unmoved (List.range 256) items else items).toArray⟩

/-- What the low octets say of the letters, signs and words they belong to. -/
def lowKinds : List Nat :=
  [0, 0, 0, 0, 0, 0, 0, 0, 0, 4, 4, 0, 0, 4, 0, 0, 0, 0, 0, 0, 0, 0, 0, 0, 0, 0, 0, 0, 0, 0, 0, 0, 8, 12, 16,
    12, 12, 20, 12, 16, 24, 28, 12, 12, 32, 12, 36, 12, 44, 44, 44, 44, 44, 44, 44, 44, 44, 44, 32, 32, 24,
    40, 28, 12, 12, 48, 52, 52, 52, 48, 52, 52, 52, 48, 52, 52, 52, 52, 52, 48, 52, 52, 52, 52, 52, 48, 52,
    52, 52, 52, 52, 24, 12, 28, 12, 12, 12, 56, 60, 60, 60, 56, 60, 60, 60, 56, 60, 60, 60, 60, 60, 56, 60,
    60, 60, 60, 60, 56, 60, 60, 60, 60, 60, 24, 12, 28, 12, 0]

def kindOf (octet : Nat) : Nat :=
  if octet < 128 then lowKinds.getD octet 0 else if octet < 192 then octet % 2 else 2 + octet % 2

def roughKindOf (octet : Nat) : Nat :=
  if octet < 33 || (127 ≤ octet && octet < 224) then 0
  else if 97 ≤ octet && octet ≤ 122 then 3
  else if 224 ≤ octet || (48 ≤ octet && octet ≤ 57) || (65 ≤ octet && octet ≤ 90) then 2
  else 1

/-- How far an octet is from zero, taken with a sign. -/
def magnitude (octet : Nat) : Nat := ([1, 16, 64, 128, 192, 240, 255].filter (· ≤ octet)).length

/-- The context of an octet, by the two octets before it. -/
def literalContext (mode last before : Nat) : Nat :=
  match mode with
  | 0 => last % 64
  | 1 => last / 4
  | 2 => Nat.lor (kindOf last) (roughKindOf before)
  | _ => magnitude last * 8 + magnitude before

/-- The context of a distance, by the length of what is repeated. -/
def distanceContext (length : Nat) : Nat := min (length - 2) 3

/-- All codes of one part. -/
structure Codes where
  modes : Array Nat
  literalMap : Array Nat
  distanceMap : Array Nat
  literals : Array PrefixCode
  commands : Array PrefixCode
  distances : Array PrefixCode
  /-- How many low digits of a distance are in its symbol, and how many distances are named directly. -/
  low : Nat
  direct : Nat

/-- The four latest distances, the latest first. -/
structure Recent where
  first : Nat
  second : Nat
  third : Nat
  fourth : Nat

namespace Recent

def initial : Recent := ⟨4, 11, 15, 16⟩

def add (recent : Recent) (distance : Nat) : Recent :=
  ⟨distance, recent.first, recent.second, recent.third⟩

/-- A recent distance, or one that is up to three away from one of the two latest. -/
def named? (recent : Recent) (symbol : Nat) : Option Nat :=
  match symbol with
  | 0 => some recent.first
  | 1 => some recent.second
  | 2 => some recent.third
  | 3 => some recent.fourth
  | _ =>
    let near := if symbol < 10 then recent.first else recent.second
    let place := (symbol - 4) % 6
    let step := place / 2 + 1
    if place % 2 = 1 then some (near + step) else if step < near then some (near - step) else none

end Recent

structure State where
  written : Array UInt8
  recent : Recent
  literal : Block
  command : Block
  distance : Block

/-- The lengths of what a command writes and repeats, and whether it repeats from the latest distance. -/
structure Command where
  insert : Nat
  copy : Nat
  isRecent : Bool

namespace Command

/-- Where the symbols of a length start, for each sixty-four commands. -/
def starts : List (Nat × Nat) :=
  [(0, 0), (0, 8), (0, 0), (0, 8), (8, 0), (8, 8), (0, 16), (16, 0), (8, 16), (16, 8), (16, 16)]

def bound : Nat := 64 * starts.length

def read (code : PrefixCode) : BitReader Command := do
  let symbol ← code.read
  let (insert, copy) := starts.getD (symbol / 64) (0, 0)
  let insert ← ranged insertRanges (insert + symbol / 8 % 8)
  let copy ← ranged copyRanges (copy + symbol % 8)
  pure { insert, copy, isRecent := symbol < 128 }

end Command

def octetBack (written : Array UInt8) (back : Nat) : Nat :=
  if written.size < back then 0 else (written.getD (written.size - back) 0).toNat

def readLiterals (codes : Codes) : Nat → State → BitReader State
  | 0, state => pure state
  | count + 1, state => do
    let literal ← state.literal.next
    let context := literalContext (codes.modes.getD literal.current 0) (octetBack state.written 1)
      (octetBack state.written 2)
    let choice := codes.literalMap.getD (64 * literal.current + context) 0
    let octet ← (codes.literals.getD choice (.single 0)).read
    readLiterals codes count { state with literal, written := state.written.push (UInt8.ofNat octet) }

/-- A distance that is neither recent nor near a recent one. -/
def readFar (codes : Codes) (symbol : Nat) : BitReader Nat := do
  if symbol < codes.direct then pure (symbol + 1)
  else
    let symbol := symbol - codes.direct
    let high := symbol / Nat.pow 2 codes.low
    let places := 1 + high / 2
    let more ← digits places
    let start := (2 + high % 2) * Nat.pow 2 places - 4
    pure ((start + more) * Nat.pow 2 codes.low + symbol % Nat.pow 2 codes.low + codes.direct + 1)

/-- The distance of a command, and whether it is the latest one again. -/
def readDistance (codes : Codes) (command : Command) (state : State) : BitReader (Nat × Bool × State) := do
  if command.isRecent then pure (state.recent.first, true, state)
  else
    let distance ← state.distance.next
    let choice := codes.distanceMap.getD (4 * distance.current + distanceContext command.copy) 0
    let symbol ← (codes.distances.getD choice (.single 0)).read
    let state := { state with distance }
    if symbol < 16 then
      match state.recent.named? symbol with
      | some found => pure (found, symbol == 0, state)
      | none => failure
    else
      let found ← readFar codes (symbol - 16)
      pure (found, false, state)

/-- What a command repeats: something written before, or a word when the distance reaches beyond it.
Only the distances of things written are kept. -/
def repeated? (window length distance : Nat) (isLatest : Bool) (state : State) : Option State :=
  let reach := min state.written.size window
  if distance ≤ reach then
    some { state with
      written := Inflate.repeatBack distance length state.written
      recent := if isLatest then state.recent else state.recent.add distance }
  else
    (Words.word? length (distance - reach - 1)).map fun word =>
      { state with written := state.written ++ word.toArray }

/-- The commands of a part, until it has as many octets as it must. Each command takes a digit or writes
an octet, so the digits and the octets together bound their number. -/
def readCommands (window : Nat) (codes : Codes) (size : Nat) : Nat → State → BitReader State
  | 0, _ => failure
  | fuel + 1, state => do
    let block ← state.command.next
    let command ← Command.read (codes.commands.getD block.current (.single 0))
    if size < state.written.size + command.insert then failure
    else
      let state ← readLiterals codes command.insert { state with command := block }
      if state.written.size = size then pure state
      else
        let (distance, isLatest, state) ← readDistance codes command state
        match repeated? window command.copy distance isLatest state with
        | none => failure
        | some state =>
          if size < state.written.size then failure
          else if state.written.size = size then pure state
          else readCommands window codes size fuel state

/-- What the parts before have written, and the distances they left. -/
structure Progress where
  written : Array UInt8
  recent : Recent

/-- A part with codes. -/
def readCoded (window length : Nat) (progress : Progress) : BitReader Progress := do
  let literal ← Block.start
  let command ← Block.start
  let distance ← Block.start
  let low ← digits 2
  let direct := (← digits 4) * Nat.pow 2 low
  let modes ← several (digits 2) literal.types
  let literalMap ← ContextMap.read (64 * literal.types)
  let distanceMap ← ContextMap.read (4 * distance.types)
  let literals ← several (readCode 256) literalMap.codes
  let commands ← several (readCode Command.bound) command.types
  let distances ← several (readCode (16 + direct + 48 * Nat.pow 2 low)) distanceMap.codes
  let codes : Codes :=
    { modes := modes.toArray, literalMap := literalMap.choice, distanceMap := distanceMap.choice,
      literals := literals.toArray, commands := commands.toArray, distances := distances.toArray, low, direct }
  let state ← readCommands window codes (progress.written.size + length) ((← get).count + length + 1)
    ⟨progress.written, progress.recent, literal, command, distance⟩
  pure ⟨state.written, state.recent⟩

/-- Goes on at the next octet; the digits before it must be zeros. -/
def align : BitReader Unit := do
  let bits ← get
  if bits.digits.any id then failure else set bits.align

def takeOctets (count : Nat) : BitReader (List UInt8) := do
  let bits ← get
  if bits.octets.length < count then failure
  else
    set { bits with octets := bits.octets.drop count }
    pure (bits.octets.take count)

/-- A number in groups of digits, the lowest group first. It is one less than what it counts, and of more
groups than are needed the highest must not be zero. -/
def readLength (places least groups : Nat) : BitReader Nat := do
  let found ← several (digits places) groups
  if least < groups && found.getLast? = some 0 then failure
  else pure (found.foldr (fun group higher => group + Nat.pow 2 places * higher) 0 + 1)

/-- Octets that are passed over. -/
def skip : BitReader Unit := do
  if (← digits 1) = 1 then failure
  else
    let groups ← digits 2
    let length ← if groups = 0 then pure 0 else readLength 8 1 groups
    align
    let _ ← takeOctets length

/-- A part that holds octets as they are, or codes. -/
def readPart (limit window : Nat) (isLast : Bool) (groups : Nat) (progress : Progress) :
    BitReader Progress := do
  let length ← readLength 4 4 groups
  let isPlain ← if isLast then pure 0 else digits 1
  if limit < progress.written.size + length then failure
  else if isPlain = 1 then
    align
    let octets ← takeOctets length
    pure { progress with written := progress.written ++ octets.toArray }
  else readCoded window length progress

/-- Parts are read until the last one. Each takes a digit, so the digits bound their number. -/
def readParts (limit window : Nat) : Nat → Progress → BitReader Progress
  | 0, _ => failure
  | fuel + 1, progress => do
    let isLast := (← digits 1) = 1
    let isEmpty ← if isLast then digits 1 else pure 0
    if isEmpty = 1 then
      align
      pure progress
    else
      let groups ← digits 2
      let progress ←
        if groups = 3 then do
          skip
          pure progress
        else readPart limit window isLast (groups + 4) progress
      if isLast then
        align
        pure progress
      else readParts limit window fuel progress

/-- The octets that a body stands for, when they are not more than the limit. What follows the last part
is not read. -/
def open? (limit : Nat) (octets : List UInt8) : Option (List UInt8) :=
  let bits := Bits.ofOctets octets
  let whole : BitReader Progress := do
    let window ← readWindow
    readParts limit window (bits.count + 1) ⟨#[], .initial⟩
  (whole bits).map fun (progress, _) => progress.written.toList

end TenantAccess.Brotli
