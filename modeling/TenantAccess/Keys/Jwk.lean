import TenantAccess.Crypto.PublicKey
import TenantAccess.Json.Basic
import TenantAccess.Text.Base64

/-! Published keys. A candidate must have the shape of a signing key before it is read, and reading
it may still fail. -/

namespace TenantAccess.Keys

inductive KeyKind where
  | rsa
  | curve
  | raw
  deriving DecidableEq, Repr

/-- The fields of a published key that are looked at; all others are dropped. -/
structure Jwk where
  kind : KeyKind
  id : String
  algorithm : Option String
  purpose : Option String
  modulus : Option String
  exponent : Option String
  curve : Option String
  x : Option String
  y : Option String
  deriving DecidableEq, Repr

namespace Jwk

def kindOf? : Json → Option KeyKind
  | .text "RSA" => some .rsa
  | .text "EC" => some .curve
  | .text "OKP" => some .raw
  | _ => none

/-- A field may be left out, but what is there must be a text. -/
def optional? (fields : Fields) (name : String) : Option (Option String) :=
  match fields.get? name with
  | none => some none
  | some (.text value) => some (some value)
  | some _ => none

def ofFields? (fields : Fields) : Option Jwk := do
  let kind ← (fields.get? "kty").bind kindOf?
  let id ← (fields.get? "kid").bind Json.text?
  let algorithm ← optional? fields "alg"
  let purpose ← optional? fields "use"
  let modulus ← optional? fields "n"
  let exponent ← optional? fields "e"
  let curve ← optional? fields "crv"
  let x ← optional? fields "x"
  let y ← optional? fields "y"
  if id.isEmpty then none
  else some { kind, id, algorithm, purpose, modulus, exponent, curve, x, y }

def number (text : String) : Nat := Crypto.natOfOctets (Base64.decode text.toList)

/-- The twisted curves and how many octets their keys take. -/
def rawSizes : List (String × Nat) :=
  [("Ed25519", 32), ("X25519", 32), ("Ed448", 57), ("X448", 56)]

/-- A point must lie on the curve it names. -/
def publicKey? (jwk : Jwk) : Option Crypto.PublicKey :=
  match jwk.kind with
  | .rsa => do
    let modulus ← jwk.modulus
    let exponent ← jwk.exponent
    some (.rsa ⟨number modulus, number exponent⟩)
  | .curve => do
    let name ← jwk.curve.bind Crypto.CurveName.ofText?
    let x ← jwk.x
    let y ← jwk.y
    if name.curve.isOn (number x) (number y) then some (.curve name (number x) (number y)) else none
  | .raw => do
    let size ← jwk.curve.bind (rawSizes.lookup ·)
    let x ← jwk.x
    if (Base64.decode x.toList).length = size then some .other else none

end Jwk
end TenantAccess.Keys
