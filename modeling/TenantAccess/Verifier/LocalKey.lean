import TenantAccess.Flow.Basic
import TenantAccess.Token.Verification
import TenantAccess.Crypto.Spki

/-! Checking a token under a key at hand, and reporting how it went. -/

namespace TenantAccess

/-- A key with the algorithm and the issuer that tokens must show. -/
structure LocalKey where
  key : Crypto.PublicKey
  algorithm : SigningAlgorithm
  issuer : Option String
  deriving DecidableEq, Repr

namespace LocalKey

def ofPem? (pem : String) (algorithm : SigningAlgorithm) (issuer : Option String) : Option LocalKey :=
  (Crypto.PublicKey.ofPem? pem).map fun key => ⟨key, algorithm, issuer⟩

def check (held : LocalKey) (token : String) (now : Number) : TokenOutcome :=
  TokenOutcome.check token held.key held.algorithm held.issuer now

end LocalKey

def reportAccepted (method : String) (claims : Fields) : Flow Unit :=
  Flow.report .info
    (LogEntry.text "validationMethod" method :: LogEntry.present "subject" (claims.get? "sub"))
    "token validated"

namespace TokenOutcome

/-- The claims of an accepted token. Every other outcome is reported and gives none. -/
def conclude (method : String) : TokenOutcome → Flow (Option Fields)
  | .accepted claims => do
    reportAccepted method claims
    pure (some claims)
  | .expired => do
    Flow.report .info [LogEntry.text "validationMethod" method] "token expired"
    pure none
  | .rejected why => do
    Flow.report .info [LogEntry.text "validationMethod" method, LogEntry.text "code" why.code]
      "invalid token"
    pure none
  | .keyUnfit => do
    Flow.report .error
      [LogEntry.text "validationMethod" method,
        ("error", .failure (.error "TypeError" "key does not fit the algorithm"))]
      "token validation error"
    pure none

end TokenOutcome

/-- The claims of a token checked against the held key at the current time, with the outcome
reported under the name of the method. -/
def LocalKey.verify (held : LocalKey) (method token : String) : Flow (Option Fields) := do
  let now ← Flow.request .clock
  (held.check token now).conclude method

end TenantAccess
