import TenantAccess.Crypto.Sha2

/-! Signatures under an RSA key: the padded form of version 1.5, and the probabilistic form with a
salt as long as the digest. -/

namespace TenantAccess.Crypto

structure RsaKey where
  modulus : Nat
  exponent : Nat
  deriving DecidableEq, Repr

namespace RsaKey

def size (key : RsaKey) : Nat := bitLength key.modulus

/-- How large a modulus may be, and up to which size its exponent may be long. -/
def largestModulus : Nat := 16384
def largestWithLongExponent : Nat := 3072
def longestShortExponent : Nat := 64

/-- A key that signatures are opened with: odd, not too large, and with an exponent that is smaller
than the modulus, and short when the modulus is long. -/
def isUsable (key : RsaKey) : Bool :=
  key.modulus % 2 = 1 && key.size ≤ largestModulus && key.exponent < key.modulus &&
    (key.size ≤ largestWithLongExponent || bitLength key.exponent ≤ longestShortExponent)

/-- The number a signature stands for once it is opened, none when it is out of range. -/
def opened? (key : RsaKey) (signature : List UInt8) : Option Nat :=
  let value := natOfOctets signature
  if key.isUsable && value < key.modulus then some (powerMod value key.exponent key.modulus) else none

/-- The digest with the written name of its algorithm in front. -/
def digestInfo (size : DigestSize) (digest : List UInt8) : List UInt8 :=
  let tag : UInt8 := match size with
    | .bits256 => 1
    | .bits384 => 2
    | .bits512 => 3
  let length := UInt8.ofNat size.octets
  [0x30, 17 + length, 0x30, 13, 6, 9, 0x60, 0x86, 0x48, 1, 0x65, 3, 4, 2, tag, 5, 0, 4, length] ++ digest

/-- The one padded message of version 1.5 that fills the modulus, none when it does not fit. -/
def padded? (length : Nat) (size : DigestSize) (message : List UInt8) : Option (List UInt8) :=
  let info := digestInfo size (hash size message)
  if length < info.length + 11 then none
  else some ([0, 1] ++ List.replicate (length - info.length - 3) 0xFF ++ 0 :: info)

def verifyPadded (key : RsaKey) (size : DigestSize) (message signature : List UInt8) : Bool :=
  let length := octetLength key.modulus
  signature.length == length &&
    match key.opened? signature, padded? length size message with
    | some opened, some expected => octetsOfNat length opened == expected
    | _, _ => false

/-- A mask of the wanted length, made of the digests of a seed and a counter. -/
def mask (size : DigestSize) (seed : List UInt8) (length : Nat) : List UInt8 :=
  ((List.range (length / size.octets + 1)).flatMap fun counter =>
    hash size (seed ++ octetsOfNat 4 counter)).take length

def clearTop (bits : Nat) : List UInt8 → List UInt8
  | [] => []
  | first :: rest => UInt8.ofNat (first.toNat % Nat.pow 2 (8 - bits)) :: rest

/-- The salt behind zeros and a one, when it is as long as the digest. -/
def salt? (size : DigestSize) (block : List UInt8) : Option (List UInt8) :=
  let zeros := block.length - size.octets - 1
  if block.take zeros == List.replicate zeros 0 && block[zeros]? == some 1 then
    some (block.drop (zeros + 1))
  else none

def isMaskedDigest (size : DigestSize) (bits : Nat) (message encoded : List UInt8) : Bool :=
  let length := (bits + 7) / 8
  if length < 2 * size.octets + 2 || encoded.getLast? != some 0xBC then false
  else
    let masked := encoded.take (length - size.octets - 1)
    let digest := (encoded.drop (length - size.octets - 1)).take size.octets
    let unused := 8 * length - bits
    let block := clearTop unused (List.zipWith (· ^^^ ·) masked (mask size digest masked.length))
    clearTop unused masked == masked &&
      match salt? size block with
      | some salt => hash size (List.replicate 8 0 ++ hash size message ++ salt) == digest
      | none => false

/-- The encoded message is one bit shorter than the modulus. -/
def verifySalted (key : RsaKey) (size : DigestSize) (message signature : List UInt8) : Bool :=
  let bits := key.size - 1
  let length := (bits + 7) / 8
  signature.length ≤ octetLength key.modulus &&
    match key.opened? signature with
    | some opened =>
      opened < Nat.pow 256 length && isMaskedDigest size bits message (octetsOfNat length opened)
    | none => false

end RsaKey
end TenantAccess.Crypto
