import TenantAccess.Service.Basic
import TenantAccess.Settings.Load
import TenantAccess.Stage.GatewayIdentity
import TenantAccess.Stage.TokenIdentity

/-! The life of the process: it starts with its settings, serves, and ends on a signal. -/

namespace TenantAccess.Server

def poolOptions (settings : Settings) : PoolOptions where
  url := settings.databaseUrl
  max := settings.poolMax
  idleTimeout := settings.poolIdleTimeout
  connectionTimeout := settings.poolConnectionTimeout

def providerConfig (settings : Settings) : ProviderConfig where
  provider := settings.provider
  url := settings.providerUrl
  issuer := settings.providerIssuer
  algorithm := settings.algorithm.toText
  publicKeyPem := settings.publicKeyPem
  cache := .standard

/-- Behind a gateway no token is looked at, so no verifier is needed. -/
def identityStage (settings : Settings) : Flow (Except SetupFailure Stage) :=
  match settings.authMode with
  | .headers => pure (.ok (GatewayIdentity.run ⟨standardPublicPaths⟩))
  | .token => do
    match ← (providerConfig settings).createVerifier with
    | .error failure => pure (.error failure)
    | .ok verifier =>
      pure (.ok (TokenIdentity.run ⟨verifier, settings.provider, standardPublicPaths⟩))

def service (settings : Settings) (identity : Stage) : Service :=
  let lender : Sql.Lender := .pooled (.ofInt settings.queryTimeout)
  ⟨lender, identity, ⟨lender, settings.enforceIsolation, standardPublicPaths⟩, settings.requestIdHeader⟩

def reportStarted (settings : Settings) : Flow Unit :=
  Flow.report .info
    [LogEntry.number "port" (.ofInt settings.port), LogEntry.text "authMode" settings.authMode.toText,
      LogEntry.text "providerType" settings.provider.toText]
    "service started"

/-- The service that listens from now on, or none when it could not be put together. -/
def start (settings : Settings) : Flow (Option Service) := do
  Flow.request (.openPool (poolOptions settings))
  match ← identityStage settings with
  | .error failure =>
    Flow.report .error [("error", .failure (.error "ProviderConfigError" failure.message))]
      "failed to start service"
    Flow.request (.exit 1)
    pure none
  | .ok identity =>
    if !settings.enforceIsolation then
      Flow.report .warn [] "tenant isolation enforcement is disabled"
    Flow.request (.listen settings.port)
    reportStarted settings
    pure (some (service settings identity))

/-- A signal to stop closes the server, and once that has no connection left ends the pool and then the
process. -/
def stop (signal : String) : Flow Unit := do
  Flow.report .info [LogEntry.text "signal" signal] "shutting down"
  Flow.request .closeServer
  match ← Flow.request .endPool with
  | .ok () =>
    Flow.report .info [] "shutdown complete"
    Flow.request (.exit 0)
  | .error failure =>
    Flow.report .error [("error", .failure failure)] "failed to close database pool"
    Flow.request (.exit 1)

/-- A session that breaks while nobody uses it is only reported. -/
def poolFailed (failure : Failure) : Flow Unit :=
  Flow.report .error [("error", .failure failure)] "idle postgres client error"

end TenantAccess.Server
