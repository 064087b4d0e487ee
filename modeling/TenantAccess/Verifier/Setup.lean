import TenantAccess.Verifier.Basic

/-! The verifier of a configured provider, built once when the service starts. -/

namespace TenantAccess

inductive Provider where
  | none
  | ory
  | keycloak
  | auth0
  | cognito
  | unknown (name : String)
  deriving DecidableEq, Repr

namespace Provider

def toText : Provider → String
  | .none => "none"
  | .ory => "ory"
  | .keycloak => "keycloak"
  | .auth0 => "auth0"
  | .cognito => "cognito"
  | .unknown name => name

def known : List Provider := [.none, .ory, .keycloak, .auth0, .cognito]

def ofText (name : String) : Provider :=
  (known.find? (·.toText == name)).getD (.unknown name)

end Provider

structure ProviderConfig where
  provider : Provider
  url : Option String
  issuer : Option String
  algorithm : String
  publicKeyPem : Option String
  cache : Keys.CacheOptions

inductive SetupFailure where
  | refusedAlgorithm (name : String)
  | missingUrl (provider : Provider)
  | unreadableKey (algorithm : SigningAlgorithm)
  deriving DecidableEq, Repr

def SetupFailure.message : SetupFailure → String
  | .refusedAlgorithm name => "JWT algorithm " ++ name ++ " is not an accepted asymmetric algorithm"
  | .missingUrl provider => "AUTH_PROVIDER_URL is required for provider " ++ provider.toText
  | .unreadableKey algorithm => "JWT_PUBLIC_KEY could not be imported for " ++ algorithm.toText

namespace ProviderConfig

/-- The address without one slash at its end. -/
def baseUrl (url : String) : String :=
  match url.toList.reverse with
  | '/' :: rest => String.ofList rest.reverse
  | _ => url

/-- An empty setting counts as not set. -/
def nonempty? (setting : Option String) : Option String :=
  setting.filter (· ≠ "")

/-- A configured key takes the place of the published ones. -/
def remote? (config : ProviderConfig) (algorithm : SigningAlgorithm) (base : String)
    (hasKey : Bool) : Option RemoteVerifier :=
  match config.provider with
  | .ory => some (.introspection "ory" (base ++ "/oauth2/introspect") providerTimeout)
  | .keycloak =>
    some (.introspection "keycloak" (base ++ "/protocol/openid-connect/token/introspect") providerTimeout)
  | .auth0 => some (.userinfo (base ++ "/userinfo") providerTimeout)
  | .cognito =>
    if hasKey then none
    else some (.publishedKeys ⟨base ++ "/.well-known/jwks.json", algorithm, config.issuer, config.cache⟩)
  | .none | .unknown _ => none

def verifierWithoutKey (config : ProviderConfig) (remote : Option RemoteVerifier) : Flow Verifier := do
  Flow.report .info
    (LogEntry.text "providerType" config.provider.toText ::
      LogEntry.present "method" (remote.map fun remote => .text remote.method))
    "remote token validation configured"
  pure ((remote.map Verifier.remote).getD .disabled)

def verifierAt (config : ProviderConfig) (algorithm : SigningAlgorithm) (base : String) :
    Flow (Except SetupFailure Verifier) :=
  match nonempty? config.publicKeyPem with
  | none => .ok <$> config.verifierWithoutKey (config.remote? algorithm base false)
  | some pem => match LocalKey.ofPem? pem algorithm config.issuer with
    | none => pure (.error (.unreadableKey algorithm))
    | some key => pure (.ok (.localFirst key (config.remote? algorithm base true)))

/-- The algorithm is looked at first, then the address, then the key. -/
def createVerifier (config : ProviderConfig) : Flow (Except SetupFailure Verifier) :=
  match SigningAlgorithm.ofText? config.algorithm with
  | none => pure (.error (.refusedAlgorithm config.algorithm))
  | some algorithm =>
    if config.provider = .none then pure (.ok .disabled)
    else match nonempty? config.url with
      | none => pure (.error (.missingUrl config.provider))
      | some url => config.verifierAt algorithm (baseUrl url)

end ProviderConfig
end TenantAccess
