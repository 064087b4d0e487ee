import TenantAccess.Verifier.Setup

/-! The settings of the service, as it runs with them. -/

namespace TenantAccess

inductive RunMode where
  | development
  | test
  | production
  deriving DecidableEq, Repr

inductive AuthMode where
  | token
  | headers
  deriving DecidableEq, Repr

structure Settings where
  runMode : RunMode
  port : Nat
  logLevel : LogLevel
  databaseUrl : String
  queryTimeout : Nat
  poolMax : Nat
  poolIdleTimeout : Nat
  poolConnectionTimeout : Nat
  authMode : AuthMode
  provider : Provider
  providerUrl : Option String
  providerIssuer : Option String
  algorithm : SigningAlgorithm
  publicKeyPem : Option String
  enforceIsolation : Bool
  requestIdHeader : String
  deriving DecidableEq, Repr

def RunMode.toText : RunMode → String
  | .development => "development"
  | .test => "test"
  | .production => "production"

def AuthMode.toText : AuthMode → String
  | .token => "token"
  | .headers => "headers"

namespace Settings

/-- The settings under the names of their variables; what is not set is left out. -/
def toFields (settings : Settings) : Fields :=
  let optional (name : String) (value : Option String) := (value.map fun v => (name, Json.text v)).toList
  [("NODE_ENV", .text settings.runMode.toText), ("PORT", .ofNat settings.port),
    ("LOG_LEVEL", .text settings.logLevel.toText), ("DATABASE_URL", .text settings.databaseUrl),
    ("QUERY_TIMEOUT_MS", .ofNat settings.queryTimeout), ("PG_POOL_MAX", .ofNat settings.poolMax),
    ("PG_POOL_IDLE_TIMEOUT_MS", .ofNat settings.poolIdleTimeout),
    ("PG_POOL_CONNECTION_TIMEOUT_MS", .ofNat settings.poolConnectionTimeout),
    ("AUTH_MODE", .text settings.authMode.toText),
    ("AUTH_PROVIDER_TYPE", .text settings.provider.toText)] ++
  optional "AUTH_PROVIDER_URL" settings.providerUrl ++
  optional "AUTH_PROVIDER_ISSUER" settings.providerIssuer ++
  [("JWT_ALGORITHM", .text settings.algorithm.toText)] ++
  optional "JWT_PUBLIC_KEY" settings.publicKeyPem ++
  [("ENFORCE_TENANT_ISOLATION", .boolean settings.enforceIsolation),
    ("REQUEST_ID_HEADER", .text settings.requestIdHeader)]

end Settings
end TenantAccess
