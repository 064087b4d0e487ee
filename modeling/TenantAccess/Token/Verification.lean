import TenantAccess.Token.Signed
import TenantAccess.Calendar

/-! Whether a signed token is accepted under one key. The algorithm is pinned by the one who checks,
never by the token, and the signature is checked before the claims are read. -/

namespace TenantAccess

inductive TokenOutcome where
  | accepted (claims : Fields)
  | expired
  | rejected (why : TokenRejection)
  | keyUnfit
  deriving Repr, BEq

namespace TokenOutcome

/-- Seconds by which clocks may differ. -/
def leeway : Int := 10

/-- Whole seconds since 1970, none for a moment too far off to be told. -/
def seconds? : Number → Option Int
  | .finite now =>
    if Calendar.isWritable now then some ((Number.truncate now).fdiv 1000) else none
  | _ => none

/-- An issuer that is pinned must be named; an empty one pins only that some issuer is. -/
def issuerFits (claims : Fields) : Option String → Bool
  | none => true
  | some issuer => match claims.get? "iss" with
    | none => false
    | some named => issuer = "" || named == .text issuer

/-- The number a claim holds, none when it is not given; a claim that is no number fails. -/
def timeClaim? (claims : Fields) (name : String) : Option (Option Number) :=
  match claims.get? name with
  | none => some none
  | some (.number moment) => some (some moment)
  | some _ => none

def startsInTime (seconds : Option Int) (notBefore : Option Number) : Bool :=
  match seconds, notBefore with
  | some now, some start => !(Number.ofInt (now + leeway)).below start
  | _, _ => true

def isOver (seconds : Option Int) (expiry : Option Number) : Bool :=
  match seconds, expiry with
  | some now, some expiry => !(Number.ofInt (now - leeway)).below expiry
  | _, _ => false

/-- The claims are looked at in a fixed order: issuer, time of issue, start, expiry. -/
def ofClaims (claims : Fields) (issuer : Option String) (now : Number) : TokenOutcome :=
  if !issuerFits claims issuer then .rejected .claim
  else match timeClaim? claims "iat", timeClaim? claims "nbf", timeClaim? claims "exp" with
    | none, _, _ | _, none, _ => .rejected .claim
    | some _, some notBefore, expiry =>
      if !startsInTime (seconds? now) notBefore then .rejected .claim
      else match expiry with
        | none => .rejected .claim
        | some expiry => if isOver (seconds? now) expiry then .expired else .accepted claims

def ofPayload (token : SignedToken) (issuer : Option String) (now : Number) : TokenOutcome :=
  match (SignedToken.decodePart? token.payload).bind Json.record? with
  | none => .rejected .payload
  | some claims => ofClaims claims issuer now

/-- The checks on a token whose header has been read. -/
def ofHeader (token : SignedToken) (header : TokenHeader) (key : Crypto.PublicKey)
    (algorithm : SigningAlgorithm) (issuer : Option String) (now : Number) : TokenOutcome :=
  if header.algorithm ≠ algorithm.toText then .rejected .algorithmNotAllowed
  else if key.isUnsupported algorithm then .rejected .unsupported
  else if !key.fits algorithm then .keyUnfit
  else if !key.verify algorithm token.message (Base64.decode token.signature) then .rejected .signature
  else if header.payloadIsPlain then .rejected .payload
  else ofPayload token issuer now

def check (text : String) (key : Crypto.PublicKey) (algorithm : SigningAlgorithm)
    (issuer : Option String) (now : Number) : TokenOutcome :=
  match SignedToken.ofText? text with
  | none => .rejected .malformed
  | some token => match token.headerFields? with
    | none => .rejected .malformed
    | some fields => match TokenHeader.ofFields fields with
      | .error rejection => .rejected rejection
      | .ok header => ofHeader token header key algorithm issuer now

end TokenOutcome
end TenantAccess
