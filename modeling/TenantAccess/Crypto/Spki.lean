import TenantAccess.Crypto.KeyCurve
import TenantAccess.Crypto.PublicKey
import TenantAccess.Text.Base64
import TenantAccess.Text.Blank
import TenantAccess.Text.Search

/-! Public keys in their binary form: an algorithm and the bits of a key, in tagged elements. In text
the form stands in base64 between two markers. -/

namespace TenantAccess.Crypto

/-- An algorithm by its name, with what stands beside the name. -/
structure AlgorithmName where
  name : List UInt8
  parameters : Option ElementValue
  deriving DecidableEq, Repr

def AlgorithmName.read : ElementReader AlgorithmName := Element.sequence do
  let name ← Element.name
  let parameters ← Element.ending ElementValue.read
  pure { name, parameters }

namespace SaltRule

/-- What stands in front of the last numbers of the names of digests, and of the names of digests
signed with RSA. -/
def digestNames : List UInt8 := [0x60, 0x86, 0x48, 1, 0x65, 3, 4, 2]
def signedNames : List UInt8 := [0x2A, 0x86, 0x48, 0x86, 0xF7, 0x0D, 1, 1]

def digestsUsed : List (List UInt8 × DigestSize) :=
  [(digestNames ++ [1], .bits256), (digestNames ++ [2], .bits384), (digestNames ++ [3], .bits512),
    (signedNames ++ [11], .bits256), (signedNames ++ [12], .bits384), (signedNames ++ [13], .bits512)]

/-- Digests that are known and serve no algorithm here. -/
def digestsUnused : List (List UInt8) :=
  ((List.range 9).map fun number => digestNames ++ [UInt8.ofNat (4 + number)]) ++
    ((List.range 4).map fun number => digestNames.dropLast ++ [3, UInt8.ofNat (13 + number)]) ++
    ([3, 4, 5, 14, 15, 16].map fun number => signedNames ++ [number]) ++
    [[0x2A, 0x86, 0x48, 0x86, 0xF7, 0x0D, 2, 4], [0x2A, 0x86, 0x48, 0x86, 0xF7, 0x0D, 2, 5],
      [0x2B, 0x0E, 3, 2, 0x1A], [0x2B, 0x0E, 3, 2, 0x1D],
      [0x2B, 0x24, 3, 2, 1], [0x2B, 0x24, 3, 3, 1, 2],
      [0x28, 0xCF, 6, 3, 0, 0x37],
      [0x2B, 6, 1, 4, 1, 0x8D, 0x3A, 0x0C, 2, 1, 16], [0x2B, 6, 1, 4, 1, 0x8D, 0x3A, 0x0C, 2, 2, 8],
      [0x2A, 0x81, 0x1C, 0xCF, 0x55, 1, 0x83, 0x11], [0x2A, 0x81, 0x1C, 0xCF, 0x55, 1, 0x83, 0x78],
      [0x55, 8, 3, 0x64], [0x55, 8, 3, 0x65]]

/-- The digest of a name; an unknown one is refused, and where no name stands it is none of ours. -/
def digestOf? : Option AlgorithmName → Option (Option DigestSize)
  | none => some none
  | some algorithm => match digestsUsed.lookup algorithm.name with
    | some size => some (some size)
    | none => if digestsUnused.contains algorithm.name then some none else none

def maskName : List UInt8 := signedNames ++ [8]

/-- The digest of the mask, which stands beside the name of the one kind of mask there is. -/
def maskOf? : Option AlgorithmName → Option (Option DigestSize)
  | none => some none
  | some algorithm => match algorithm.parameters with
    | some (.group octets) =>
      if algorithm.name = maskName then
        (AlgorithmName.read octets).bind fun (digest, _) => digestOf? (some digest)
      else none
    | _ => none

def usualSalt : Int := 20

/-- A length of thirty-two binary digits, cut to them; what does not fit twice as many is one below
zero. -/
def saltOf (written : Option Int) : Int :=
  let length := written.getD usualSalt
  if -0x8000000000000000 ≤ length ∧ length < 0x8000000000000000 then Int.bmod length 0x100000000 else -1

def read : ElementReader SaltRule := do
  let (digest, mask, salt) ← Element.sequence do
    let digest ← Element.numbered 0 AlgorithmName.read
    let mask ← Element.numbered 1 AlgorithmName.read
    let salt ← Element.numbered 2 Element.integer
    let _ ← Element.numbered 3 Element.integer
    pure (digest, mask, salt)
  match digestOf? digest, maskOf? mask with
  | some digest, some mask => pure { digest, mask, least := saltOf salt }
  | _, _ => failure

end SaltRule

namespace PublicKey

/-- The kinds of keys that have a name; the last one is told by how many octets it takes. -/
inductive Kind where
  | rsa
  | salted
  | curve
  | sm2
  | dsa
  | exchange
  | longExchange
  | raw (size : Nat)
  deriving DecidableEq, Repr

def kinds : List (List UInt8 × Kind) :=
  [([0x2A, 0x86, 0x48, 0x86, 0xF7, 0x0D, 1, 1, 1], .rsa), ([0x55, 8, 1, 1], .rsa),
    ([0x2A, 0x86, 0x48, 0x86, 0xF7, 0x0D, 1, 1, 10], .salted),
    ([0x2A, 0x86, 0x48, 0xCE, 0x3D, 2, 1], .curve),
    ([0x2A, 0x81, 0x1C, 0xCF, 0x55, 1, 0x82, 0x2D], .sm2),
    ([0x2A, 0x86, 0x48, 0xCE, 0x38, 4, 1], .dsa), ([0x2A, 0x86, 0x48, 0xCE, 0x38, 4, 3], .dsa),
    ([0x2B, 0x0E, 3, 2, 12], .dsa), ([0x2B, 0x0E, 3, 2, 13], .dsa), ([0x2B, 0x0E, 3, 2, 27], .dsa),
    ([0x2A, 0x86, 0x48, 0x86, 0xF7, 0x0D, 1, 3, 1], .exchange),
    ([0x2A, 0x86, 0x48, 0xCE, 0x3E, 2, 1], .longExchange),
    ([0x2B, 0x65, 0x6E], .raw 32), ([0x2B, 0x65, 0x6F], .raw 56), ([0x2B, 0x65, 0x70], .raw 32),
    ([0x2B, 0x65, 0x71], .raw 57)]

def readRsa : ElementReader RsaKey := Element.sequence do
  let modulus ← Element.natural
  let exponent ← Element.natural
  pure ⟨modulus, exponent⟩

/-- A key whose parameters and value can be read. -/
def ofGroup? (parameters : ElementReader Unit) (written : Option ElementValue) (bits : List UInt8) :
    Option PublicKey :=
  match written with
  | some (.group octets) => do
    let _ ← parameters octets
    let _ ← Element.integer bits
    some .other
  | _ => none

def readDsa : ElementReader Unit := Element.sequence do
  let _ ← Element.natural
  let _ ← Element.natural
  let _ ← Element.natural

def readExchange : ElementReader Unit := Element.sequence do
  let _ ← Element.natural
  let _ ← Element.natural
  let _ ← Element.ending Element.shortInteger

def isIntegerNext (octets : List UInt8) : Bool :=
  (ElementHead.read? octets).any fun (head, _) => head.space = .universal && head.tag = Element.integerTag

def readLongExchange : ElementReader Unit := Element.sequence do
  let _ ← Element.natural
  let _ ← Element.natural
  let _ ← Element.natural
  if isIntegerNext (← get) then
    let _ ← Element.natural
  let _ ← Element.ending (Element.sequence do
    let _ ← Element.bits
    let _ ← Element.natural)

/-- A key on a curve must be a point of it. The point without coordinates fits no algorithm. -/
def ofPoint? (curve : KeyCurve) (bits : List UInt8) : Option PublicKey := do
  let point ← WrittenPoint.ofOctets? curve.equation.octets bits
  match point, curve with
  | .infinite, _ => some .other
  | point, .known name => (name.curve.point? point).map fun (x, y) => .curve name x y
  | point, .sm2 => if Curve.sm2.equation.isPoint point then some .other else none
  | point, .stranger equation => if equation.isPoint point then some .strangeCurve else none

def ofKind? (kind : Kind) (parameters : Option ElementValue) (bits : List UInt8) : Option PublicKey :=
  match kind, parameters with
  | .rsa, _ => (readRsa bits).map fun (key, _) => .rsa key
  | .salted, none => (readRsa bits).map fun (key, _) => .salted key none
  | .salted, some (.group octets) => do
    let (key, _) ← readRsa bits
    let (rule, _) ← SaltRule.read octets
    some (.salted key (some rule))
  | .salted, some _ => none
  | .curve, some parameters => (KeyCurve.ofParameters? parameters).bind (ofPoint? · bits)
  | .sm2, some parameters =>
    if KeyCurve.ofParameters? parameters = some .sm2 then ofPoint? .sm2 bits else none
  | .curve, none | .sm2, none => none
  | .dsa, _ => ofGroup? readDsa parameters bits
  | .exchange, _ => ofGroup? readExchange parameters bits
  | .longExchange, _ => ofGroup? readLongExchange parameters bits
  | .raw size, none => if bits.length = size then some .other else none
  | .raw _, some _ => none

def readSpki : ElementReader (AlgorithmName × List UInt8) := Element.sequence do
  let algorithm ← AlgorithmName.read
  let bits ← Element.bits
  pure (algorithm, bits)

/-- What follows the outer element is not looked at. -/
def ofSpki? (octets : List UInt8) : Option PublicKey := do
  let ((algorithm, bits), _) ← readSpki octets
  let kind ← kinds.lookup algorithm.name
  if Element.isShown octets.length 0 octets then ofKind? kind algorithm.parameters bits else none

def beginMarker : String := "-----BEGIN PUBLIC KEY-----"
def endMarker : String := "-----END PUBLIC KEY-----"

/-- The text without its markers, wherever they stand. -/
def withoutMarkers : List Char → List Char
  | [] => []
  | c :: rest =>
    if beginMarker.toList.isPrefixOf (c :: rest) then
      withoutMarkers (rest.drop (beginMarker.length - 1))
    else if endMarker.toList.isPrefixOf (c :: rest) then
      withoutMarkers (rest.drop (endMarker.length - 1))
    else c :: withoutMarkers rest
termination_by text => text.length
decreasing_by all_goals simp +arith

/-- The text must start with its marker. -/
def ofPem? (text : String) : Option PublicKey :=
  if beginMarker.toList.isPrefixOf text.toList then
    ofSpki? (Base64.decode ((withoutMarkers text.toList).filter (!Text.isBlank ·)))
  else none

end PublicKey
end TenantAccess.Crypto
