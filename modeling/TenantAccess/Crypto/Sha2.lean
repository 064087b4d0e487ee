import TenantAccess.Crypto.Octets
import TenantAccess.Token.Algorithm

/-! The secure hash family. One definition serves both word widths; its tables are the leading
fraction bits of square and cube roots of the first primes, and are computed from them. -/

namespace TenantAccess.Crypto.Sha2

/-- The largest number whose power does not exceed the target, found by bisection. -/
def rootBelow (power target : Nat) : Nat → Nat → Nat → Nat
  | 0, low, _ => low
  | steps + 1, low, high =>
    let middle := (low + high) / 2
    if Nat.pow middle power ≤ target then rootBelow power target steps middle high
    else rootBelow power target steps low middle

/-- The first bits behind the point of a root of a small prime. -/
def rootFraction (power width prime : Nat) : Nat :=
  rootBelow power (prime * Nat.pow 2 (power * width)) (width + 5) 0 (Nat.pow 2 (width + 5)) %
    Nat.pow 2 width

def isPrime (n : Nat) : Bool :=
  2 ≤ n && (List.range n).all fun d => d < 2 || n % d != 0

/-- The first eighty primes. -/
def primes : List Nat := (List.range 410).filter isPrime

/-- What tells the members of the family apart besides their initial state. -/
structure Family (width : Nat) where
  rounds : Nat
  bigA : BitVec width → BitVec width
  bigE : BitVec width → BitVec width
  smallOld : BitVec width → BitVec width
  smallNew : BitVec width → BitVec width

def rotations (a b c : Nat) (x : BitVec w) : BitVec w :=
  x.rotateRight a ^^^ x.rotateRight b ^^^ x.rotateRight c

def rotationsAndShift (a b shift : Nat) (x : BitVec w) : BitVec w :=
  x.rotateRight a ^^^ x.rotateRight b ^^^ (x >>> shift)

def narrow : Family 32 where
  rounds := 64
  bigA := rotations 2 13 22
  bigE := rotations 6 11 25
  smallOld := rotationsAndShift 7 18 3
  smallNew := rotationsAndShift 17 19 10

def wide : Family 64 where
  rounds := 80
  bigA := rotations 28 34 39
  bigE := rotations 14 18 41
  smallOld := rotationsAndShift 1 8 7
  smallNew := rotationsAndShift 19 61 6

structure Work (width : Nat) where
  a : BitVec width
  b : BitVec width
  c : BitVec width
  d : BitVec width
  e : BitVec width
  f : BitVec width
  g : BitVec width
  h : BitVec width

namespace Work

def add (x y : Work w) : Work w :=
  ⟨x.a + y.a, x.b + y.b, x.c + y.c, x.d + y.d, x.e + y.e, x.f + y.f, x.g + y.g, x.h + y.h⟩

def words (x : Work w) : List (BitVec w) := [x.a, x.b, x.c, x.d, x.e, x.f, x.g, x.h]

def round (family : Family w) (x : Work w) (constant word : BitVec w) : Work w :=
  let choice := (x.e &&& x.f) ^^^ (~~~x.e &&& x.g)
  let majority := (x.a &&& x.b) ^^^ (x.a &&& x.c) ^^^ (x.b &&& x.c)
  let first := x.h + family.bigE x.e + choice + constant + word
  ⟨first + family.bigA x.a + majority, x.a, x.b, x.c, x.d + first, x.e, x.f, x.g⟩

end Work

/-- The words of all rounds, from a window on the sixteen latest. -/
def schedule (family : Family w) : Nat → List (BitVec w) → List (BitVec w)
  | 0, _ => []
  | rounds + 1, window =>
    let new := family.smallNew (window.getD 14 0) + window.getD 9 0 +
      family.smallOld (window.getD 1 0) + window.getD 0 0
    window.getD 0 0 :: schedule family rounds (window.tail ++ [new])

def compress (family : Family w) (constants : List (BitVec w)) (state : Work w)
    (block : List (BitVec w)) : Work w :=
  state.add (((constants.zip (schedule family family.rounds block)).foldl
    (fun x (constant, word) => x.round family constant word)) state)

/-- A one bit, zeros, and the length in bits fill up the last block of sixteen words. -/
def padded (width : Nat) (message : List UInt8) : List UInt8 :=
  let block := 2 * width
  let used := message.length + 1 + width / 4
  message ++ 0x80 :: List.replicate ((block - used % block) % block) 0 ++
    octetsOfNat (width / 4) (8 * message.length)

def chunks (size : Nat) : Nat → List α → List (List α)
  | 0, _ => []
  | count + 1, items => items.take size :: chunks size count (items.drop size)

def wordsOf (width : Nat) (octets : List UInt8) : List (BitVec width) :=
  (chunks (width / 8) (octets.length * 8 / width) octets).map fun word =>
    BitVec.ofNat width (natOfOctets word)

def digest (family : Family w) (constants : List (BitVec w)) (initial : Work w)
    (message : List UInt8) : List UInt8 :=
  let words := wordsOf w (padded w message)
  let final := (chunks 16 (words.length / 16) words).foldl (compress family constants) initial
  final.words.flatMap fun word => octetsOfNat (w / 8) word.toNat

def initialState (width : Nat) (primes : List Nat) : Work width :=
  let word (i : Nat) := BitVec.ofNat width (rootFraction 2 width (primes.getD i 2))
  ⟨word 0, word 1, word 2, word 3, word 4, word 5, word 6, word 7⟩

def cubeConstants (width count : Nat) : List (BitVec width) :=
  (primes.take count).map fun prime => BitVec.ofNat width (rootFraction 3 width prime)

def narrowConstants : List (BitVec 32) := cubeConstants 32 64
def wideConstants : List (BitVec 64) := cubeConstants 64 80
def initial256 : Work 32 := initialState 32 primes
def initial384 : Work 64 := initialState 64 (primes.drop 8)
def initial512 : Work 64 := initialState 64 primes

end Sha2

def hash (size : DigestSize) (message : List UInt8) : List UInt8 :=
  match size with
  | .bits256 => Sha2.digest Sha2.narrow Sha2.narrowConstants Sha2.initial256 message
  | .bits384 => (Sha2.digest Sha2.wide Sha2.wideConstants Sha2.initial384 message).take 48
  | .bits512 => Sha2.digest Sha2.wide Sha2.wideConstants Sha2.initial512 message

end TenantAccess.Crypto
