import TenantAccess.Crypto.Sha2

/-! The older secure hash of one hundred and sixty bits. Here it only names contents; no signature is
checked with it. Blocks and padding are those of the narrow members of the later family. -/

namespace TenantAccess.Crypto.Sha1

structure Work where
  a : BitVec 32
  b : BitVec 32
  c : BitVec 32
  d : BitVec 32
  e : BitVec 32

namespace Work

def add (x y : Work) : Work := ⟨x.a + y.a, x.b + y.b, x.c + y.c, x.d + y.d, x.e + y.e⟩

def words (x : Work) : List (BitVec 32) := [x.a, x.b, x.c, x.d, x.e]

/-- The mixing function and the constant of each twenty rounds. -/
def mixed (x : Work) (index : Nat) : BitVec 32 :=
  if index < 20 then ((x.b &&& x.c) ||| (~~~x.b &&& x.d)) + 0x5A827999
  else if index < 40 then (x.b ^^^ x.c ^^^ x.d) + 0x6ED9EBA1
  else if index < 60 then ((x.b &&& x.c) ||| (x.b &&& x.d) ||| (x.c &&& x.d)) + 0x8F1BBCDC
  else (x.b ^^^ x.c ^^^ x.d) + 0xCA62C1D6

def round (x : Work) (step : BitVec 32 × Nat) : Work :=
  ⟨x.a.rotateLeft 5 + x.mixed step.2 + x.e + step.1, x.a, x.b.rotateLeft 30, x.c, x.d⟩

end Work

/-- The words of all rounds, from a window on the sixteen latest. -/
def schedule : Nat → List (BitVec 32) → List (BitVec 32)
  | 0, _ => []
  | rounds + 1, window =>
    let new := (window.getD 13 0 ^^^ window.getD 8 0 ^^^ window.getD 2 0 ^^^ window.getD 0 0).rotateLeft 1
    window.getD 0 0 :: schedule rounds (window.tail ++ [new])

def compress (state : Work) (block : List (BitVec 32)) : Work :=
  state.add ((schedule 80 block).zipIdx.foldl Work.round state)

def initial : Work := ⟨0x67452301, 0xEFCDAB89, 0x98BADCFE, 0x10325476, 0xC3D2E1F0⟩

def digest (message : List UInt8) : List UInt8 :=
  let words := Sha2.wordsOf 32 (Sha2.padded 32 message)
  let final := (Sha2.chunks 16 (words.length / 16) words).foldl compress initial
  final.words.flatMap fun word => octetsOfNat 4 word.toNat

end TenantAccess.Crypto.Sha1
