import TenantAccess.Body.Inflate

/-! The two wrappings of a compressed body. Each checks with a sum that the octets came out whole. -/

namespace TenantAccess.Wrapping

def checksumStep (sum : BitVec 32) (octet : UInt8) : BitVec 32 :=
  (List.range 8).foldl (fun sum _ =>
    if sum.getLsbD 0 then (sum >>> 1) ^^^ 0xEDB88320#32 else sum >>> 1)
    (sum ^^^ BitVec.ofNat 32 octet.toNat)

def checksum (octets : List UInt8) : Nat := (~~~ octets.foldl checksumStep (~~~ 0#32)).toNat

/-- Two sums, the second one over the first as it grows. -/
def doubleSum (octets : List UInt8) : Nat :=
  let (low, high) := octets.foldl (fun (low, high) octet =>
    let low := (low + octet.toNat) % 65521
    (low, (high + low) % 65521)) (1, 0)
  high * 65536 + low

/-- A number written with its lowest octet first. -/
def littleEndian (octets : List UInt8) : Nat :=
  octets.foldr (fun octet higher => octet.toNat + 256 * higher) 0

def exactly? (count : Nat) (octets : List UInt8) : Option (List UInt8 × List UInt8) :=
  if octets.length < count then none else some (octets.take count, octets.drop count)

/-- The part up to a zero, and what comes after the zero. -/
def pastZero? (octets : List UInt8) : Option (List UInt8) :=
  match octets.dropWhile (· ≠ 0) with
  | _ :: rest => some rest
  | [] => none

/-- The parts of a member's head that its flags announce, in their order. -/
def pastHead? (whole : List UInt8) : Option (List UInt8) := do
  let (head, rest) ← exactly? 10 whole
  let flags := (head.getD 3 0).toNat
  if head.take 3 ≠ [0x1F, 0x8B, 8] || flags / 32 ≠ 0 then none
  else
    let rest ← if flags.testBit 2 then do
        let (length, rest) ← exactly? 2 rest
        (exactly? (littleEndian length) rest).map (·.2)
      else some rest
    let rest ← if flags.testBit 3 then pastZero? rest else some rest
    let rest ← if flags.testBit 4 then pastZero? rest else some rest
    if flags.testBit 1 then do
      let (sum, after) ← exactly? 2 rest
      if littleEndian sum = checksum (whole.take (whole.length - rest.length)) % 65536 then some after
      else none
    else some rest

/-- Members one after another; zeros may fill up the end. -/
def openMembers? (limit : Nat) : Nat → List UInt8 → Option (List UInt8)
  | 0, _ => none
  | count + 1, octets => do
    let packed ← pastHead? octets
    let (written, rest) ← Inflate.inflate? limit packed
    let (tail, rest) ← exactly? 8 rest
    if littleEndian (tail.take 4) ≠ checksum written ||
        littleEndian (tail.drop 4) ≠ written.length % 0x100000000 then none
    else match rest with
      | [] | 0 :: _ => some written
      | _ => (openMembers? limit count rest).map (written ++ ·)

def openGzip? (limit : Nat) (octets : List UInt8) : Option (List UInt8) :=
  openMembers? limit (octets.length + 1) octets

/-- One sequence behind two octets that say how it was made; what comes after its sum is not read. -/
def openDeflate? (limit : Nat) (octets : List UInt8) : Option (List UInt8) :=
  match octets with
  | method :: flags :: packed =>
    if method.toNat % 16 ≠ 8 || 7 < method.toNat / 16 || flags.toNat.testBit 5 ||
        (method.toNat * 256 + flags.toNat) % 31 ≠ 0 then none
    else do
      let (written, rest) ← Inflate.inflate? limit packed
      let (tail, _) ← exactly? 4 rest
      if littleEndian tail.reverse = doubleSum written then some written else none
  | _ => none

end TenantAccess.Wrapping
