import TenantAccess.Json.Basic

/-! The signature algorithms a token may be signed with. All are asymmetric; no shared-secret
algorithm and no unsigned token has a name here. -/

namespace TenantAccess

inductive SignatureScheme where
  | rsaPkcs1
  | ecdsa
  | rsaPss
  deriving DecidableEq, Repr

inductive DigestSize where
  | bits256
  | bits384
  | bits512
  deriving DecidableEq, Repr

structure SigningAlgorithm where
  scheme : SignatureScheme
  digest : DigestSize
  deriving DecidableEq, Repr

def SignatureScheme.toText : SignatureScheme → String
  | .rsaPkcs1 => "RS"
  | .ecdsa => "ES"
  | .rsaPss => "PS"

def DigestSize.toText : DigestSize → String
  | .bits256 => "256"
  | .bits384 => "384"
  | .bits512 => "512"

def DigestSize.octets : DigestSize → Nat
  | .bits256 => 32
  | .bits384 => 48
  | .bits512 => 64

namespace SigningAlgorithm

def toText (algorithm : SigningAlgorithm) : String :=
  algorithm.scheme.toText ++ algorithm.digest.toText

def all : List SigningAlgorithm :=
  [.rsaPkcs1, .ecdsa, .rsaPss].flatMap fun scheme =>
    [.bits256, .bits384, .bits512].map fun digest => ⟨scheme, digest⟩

def ofText? (name : String) : Option SigningAlgorithm :=
  all.find? (·.toText == name)

def ofJson? : Json → Option SigningAlgorithm
  | .text name => ofText? name
  | _ => none

end SigningAlgorithm
end TenantAccess
