import TenantAccess.Crypto.Rsa
import TenantAccess.Crypto.Curve

/-! Public keys and what can be checked with them. A key that fits an algorithm is one whose kind,
size and curve the algorithm asks for. -/

namespace TenantAccess.Crypto

/-- What a key says of the salted signatures it is for: their digest, that of the mask, and the least
length of the salt. A digest that serves no algorithm is none. -/
structure SaltRule where
  digest : Option DigestSize
  mask : Option DigestSize
  least : Int
  deriving DecidableEq, Repr

def SaltRule.allows (rule : SaltRule) (size : DigestSize) : Bool :=
  rule.digest = some size && rule.mask = some size && rule.least ≤ size.octets

/-- The last kind holds the keys that can be read but fit none of the algorithms. -/
inductive PublicKey where
  | rsa (key : RsaKey)
  | salted (key : RsaKey) (rule : Option SaltRule)
  | curve (name : CurveName) (x y : Nat)
  /-- A point of a curve that serves no algorithm. -/
  | strangeCurve
  | other
  deriving DecidableEq, Repr

namespace PublicKey

def smallestModulus : Nat := 2048

def curveOf : DigestSize → CurveName
  | .bits256 => .p256
  | .bits384 => .p384
  | .bits512 => .p521

/-- An RSA key that is bound to salted signatures cannot check others. -/
def fits (key : PublicKey) (algorithm : SigningAlgorithm) : Bool :=
  match algorithm.scheme, key with
  | .rsaPkcs1, .rsa key => smallestModulus ≤ key.size
  | .rsaPss, .rsa key => smallestModulus ≤ key.size
  | .rsaPss, .salted key rule => smallestModulus ≤ key.size && rule.all (·.allows algorithm.digest)
  | .ecdsa, .curve name _ _ => name == curveOf algorithm.digest
  | _, _ => false

/-- Whether the curve of the key has no name that an algorithm on curves could ask for. -/
def isUnsupported (key : PublicKey) (algorithm : SigningAlgorithm) : Bool :=
  algorithm.scheme = .ecdsa && key = .strangeCurve

/-- The two halves of the signature are numbers from one to the order of the curve; the digest is
cut to as many bits as the order has. -/
def verifyCurve (name : CurveName) (x y : Nat) (size : DigestSize) (message signature : List UInt8) :
    Bool :=
  let curve := name.curve
  let half := octetLength curve.order
  let r := natOfOctets (signature.take half)
  let s := natOfOctets (signature.drop half)
  if signature.length != 2 * half || r = 0 || curve.order ≤ r || s = 0 || curve.order ≤ s then false
  else
    let digest := natOfOctets (hash size message) /
      Nat.pow 2 (8 * size.octets - bitLength curve.order)
    let w := Curve.inverse curve.order s
    let sum := curve.plus (curve.times (digest * w % curve.order) ⟨curve.baseX, curve.baseY, 1⟩)
      (curve.times (r * w % curve.order) ⟨x, y, 1⟩)
    match curve.abscissa? sum with
    | some abscissa => abscissa % curve.order == r
    | none => false

/-- No signature passes under a key that asks for a salt of less than no octets. -/
def verify (key : PublicKey) (algorithm : SigningAlgorithm) (message signature : List UInt8) : Bool :=
  match algorithm.scheme, key with
  | .rsaPkcs1, .rsa key => key.verifyPadded algorithm.digest message signature
  | .rsaPss, .rsa key => key.verifySalted algorithm.digest message signature
  | .rsaPss, .salted key rule =>
    rule.all (0 ≤ ·.least) && key.verifySalted algorithm.digest message signature
  | .ecdsa, .curve name x y => verifyCurve name x y algorithm.digest message signature
  | _, _ => false

end PublicKey
end TenantAccess.Crypto
