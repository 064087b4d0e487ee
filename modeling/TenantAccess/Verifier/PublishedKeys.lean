import TenantAccess.Keys.Cache
import TenantAccess.Keys.Jwk
import TenantAccess.Verifier.LocalKey

/-! Checking a token under the key set that its provider publishes. The header names the key, and the
first key of that name that can be used is the one. -/

namespace TenantAccess

structure PublishedKeys where
  url : String
  algorithm : SigningAlgorithm
  issuer : Option String
  cache : Keys.CacheOptions

namespace PublishedKeys

def method : String := "cognito_jwks"

/-- What a candidate of the wanted name turns out to be. -/
inductive Candidate where
  | unusable
  | unreadable
  | usable (key : Crypto.PublicKey) (algorithm : SigningAlgorithm)

/-- A key that names one of the algorithms itself is used with that one. -/
def inspect (fields : Fields) (configured : SigningAlgorithm) : Candidate :=
  match Keys.Jwk.ofFields? fields with
  | none => .unusable
  | some jwk =>
    if jwk.purpose = some "enc" then .unusable
    else match jwk.publicKey? with
      | none => .unreadable
      | some key => .usable key ((jwk.algorithm.bind SigningAlgorithm.ofText?).getD configured)

def isNamed (id : String) (fields : Fields) : Bool := fields.get? "kid" == some (.text id)

/-- The first usable candidate of the name; the others before it are reported. -/
def findKey (configured : SigningAlgorithm) (id : String) :
    List Fields → Flow (Option (Crypto.PublicKey × SigningAlgorithm))
  | [] => pure none
  | fields :: rest =>
    if isNamed id fields then
      match inspect fields configured with
      | .usable key algorithm => pure (some (key, algorithm))
      | .unusable => do
        Flow.report .warn [LogEntry.text "kid" id] "skipping unusable jwk"
        findKey configured id rest
      | .unreadable => do
        Flow.report .warn [LogEntry.text "kid" id, LogEntry.text "error" "unreadable key"]
          "skipping jwk that failed to parse"
        findKey configured id rest
    else findKey configured id rest

def reportLookupFailure (url : String) (failure : Keys.LookupFailure) : Flow Unit :=
  match failure.reason? with
  | some reason =>
    Flow.report .warn
      ([LogEntry.text "jwksUrl" url, LogEntry.text "reason" reason] ++
        LogEntry.present "statusCode" (failure.status?.map Json.ofNat))
      "jwks fetch failed"
  | none =>
    Flow.report .error [LogEntry.text "jwksUrl" url, LogEntry.text "error" failure.message]
      "jwks lookup failed"

def verifyUnder (keys : PublishedKeys) (id token : String) (candidates : List Fields) :
    Flow (Option Fields) := do
  match ← findKey keys.algorithm id candidates with
  | none =>
    Flow.report .warn
      [LogEntry.text "kid" id,
        ("availableKids", .plain (.list (candidates.map fun fields => (fields.get? "kid").getD .null)))]
      "signing key not found in jwks"
    pure none
  | some (key, algorithm) => LocalKey.verify ⟨key, algorithm, keys.issuer⟩ method token

def verify (keys : PublishedKeys) (token : String) (signal : Signal) : Flow (Option Fields) := do
  match SignedToken.protectedHeader? token with
  | none =>
    Flow.report .warn [] "token header could not be decoded"
    pure none
  | some header => match header.get? "kid" with
    | some (.text id) =>
      if id = "" then
        Flow.report .warn [] "token header is missing kid"
        pure none
      else match ← Keys.getKeys keys.cache keys.url signal with
        | .error failure =>
          reportLookupFailure keys.url failure
          pure none
        | .ok candidates => keys.verifyUnder id token candidates
    | _ =>
      Flow.report .warn [] "token header is missing kid"
      pure none

end PublishedKeys
end TenantAccess
