import TenantAccess.Settings.Reading

/-! Reading all variables. Every variable is looked at, and all that is wrong is told at once; the
rules on several variables run when each of them could be used. -/

namespace TenantAccess.Settings

def runModes : List (String × RunMode) :=
  [.development, .test, .production].map fun mode => (mode.toText, mode)

def logLevels : List (String × LogLevel) :=
  LogLevel.all.map fun level => (level.toText, level)

def authModes : List (String × AuthMode) :=
  [.token, .headers].map fun mode => (mode.toText, mode)

def providers : List (String × Provider) :=
  Provider.known.map fun provider => (provider.toText, provider)

/-- All variables as they were read. -/
structure Readings where
  runMode : Reading RunMode
  port : Reading Nat
  logLevel : Reading LogLevel
  databaseUrl : Reading String
  queryTimeout : Reading Nat
  poolMax : Reading Nat
  poolIdleTimeout : Reading Nat
  poolConnectionTimeout : Reading Nat
  authMode : Reading AuthMode
  provider : Reading Provider
  providerUrl : Reading (Option String)
  providerIssuer : Reading (Option String)
  algorithm : Reading SigningAlgorithm
  publicKeyPem : Reading (Option String)
  enforceIsolation : Reading Bool
  requestIdHeader : Reading String

namespace Readings

def ofSource (source : Fields) : Readings where
  runMode := readNamed runModes .development (source.get? "NODE_ENV")
  port := readWhole 3000 1 65535 (source.get? "PORT")
  logLevel := readNamed logLevels .info (source.get? "LOG_LEVEL")
  databaseUrl := readText none (source.get? "DATABASE_URL")
  queryTimeout := readWhole 5000 100 60000 (source.get? "QUERY_TIMEOUT_MS")
  poolMax := readWhole 20 1 200 (source.get? "PG_POOL_MAX")
  poolIdleTimeout := readWhole 30000 1000 600000 (source.get? "PG_POOL_IDLE_TIMEOUT_MS")
  poolConnectionTimeout := readWhole 5000 100 60000 (source.get? "PG_POOL_CONNECTION_TIMEOUT_MS")
  authMode := readNamed authModes .token (source.get? "AUTH_MODE")
  provider := readNamed providers .none (source.get? "AUTH_PROVIDER_TYPE")
  providerUrl := readUrl (source.get? "AUTH_PROVIDER_URL")
  providerIssuer := readOptional (source.get? "AUTH_PROVIDER_ISSUER")
  algorithm := readAlgorithm (source.get? "JWT_ALGORITHM")
  publicKeyPem := readPublicKey (source.get? "JWT_PUBLIC_KEY")
  enforceIsolation := readFlag (source.get? "ENFORCE_TENANT_ISOLATION")
  requestIdHeader := readText (some "x-request-id") (source.get? "REQUEST_ID_HEADER")

def issuesOf (name : String) (reading : Reading α) : List Issue :=
  reading.problems.map fun problem => ⟨name, problem⟩

def issues (r : Readings) : List Issue :=
  issuesOf "NODE_ENV" r.runMode ++ issuesOf "PORT" r.port ++ issuesOf "LOG_LEVEL" r.logLevel ++
    issuesOf "DATABASE_URL" r.databaseUrl ++ issuesOf "QUERY_TIMEOUT_MS" r.queryTimeout ++
    issuesOf "PG_POOL_MAX" r.poolMax ++ issuesOf "PG_POOL_IDLE_TIMEOUT_MS" r.poolIdleTimeout ++
    issuesOf "PG_POOL_CONNECTION_TIMEOUT_MS" r.poolConnectionTimeout ++
    issuesOf "AUTH_MODE" r.authMode ++ issuesOf "AUTH_PROVIDER_TYPE" r.provider ++
    issuesOf "AUTH_PROVIDER_URL" r.providerUrl ++ issuesOf "AUTH_PROVIDER_ISSUER" r.providerIssuer ++
    issuesOf "JWT_ALGORITHM" r.algorithm ++ issuesOf "JWT_PUBLIC_KEY" r.publicKeyPem ++
    issuesOf "ENFORCE_TENANT_ISOLATION" r.enforceIsolation ++
    issuesOf "REQUEST_ID_HEADER" r.requestIdHeader

/-- The settings, when every variable could be used. -/
def settings? (r : Readings) : Option Settings := do
  let runMode ← r.runMode.value?
  let port ← r.port.value?
  let logLevel ← r.logLevel.value?
  let databaseUrl ← r.databaseUrl.value?
  let queryTimeout ← r.queryTimeout.value?
  let poolMax ← r.poolMax.value?
  let poolIdleTimeout ← r.poolIdleTimeout.value?
  let poolConnectionTimeout ← r.poolConnectionTimeout.value?
  let authMode ← r.authMode.value?
  let provider ← r.provider.value?
  let providerUrl ← r.providerUrl.value?
  let providerIssuer ← r.providerIssuer.value?
  let algorithm ← r.algorithm.value?
  let publicKeyPem ← r.publicKeyPem.value?
  let enforceIsolation ← r.enforceIsolation.value?
  let requestIdHeader ← r.requestIdHeader.value?
  some { runMode, port, logLevel, databaseUrl, queryTimeout, poolMax, poolIdleTimeout,
         poolConnectionTimeout, authMode, provider, providerUrl, providerIssuer, algorithm,
         publicKeyPem, enforceIsolation, requestIdHeader }

end Readings

/-- A provider needs an address, and a gateway's word on the caller needs tenants kept apart. -/
def jointIssues (settings : Settings) : List Issue :=
  (if settings.provider ≠ .none && settings.providerUrl.isNone then
    [⟨"AUTH_PROVIDER_URL", .urlRequired settings.provider.toText⟩] else []) ++
  (if settings.authMode = .headers && !settings.enforceIsolation then
    [⟨"ENFORCE_TENANT_ISOLATION", .isolationRequired⟩] else [])

structure Invalid where
  issues : List Issue
  deriving DecidableEq, Repr

def Invalid.message (invalid : Invalid) : String :=
  "Invalid environment configuration: " ++ "; ".intercalate (invalid.issues.map Issue.message)

def load (source : Fields) : Except Invalid Settings :=
  let readings := Readings.ofSource source
  match readings.settings? with
  | none => .error ⟨readings.issues⟩
  | some settings =>
    let issues := readings.issues ++ jointIssues settings
    if issues.isEmpty then .ok settings else .error ⟨issues⟩

end TenantAccess.Settings
