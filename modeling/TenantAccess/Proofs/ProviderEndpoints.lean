import TenantAccess.Proofs.ComposedVerifiers
import TenantAccess.Proofs.JoinedAddresses
import TenantAccess.Proofs.LoadedSettings
import TenantAccess.Proofs.VerifierFootprint

/-! Where the verifier of loaded settings sends its requests. The address of the provider is taken as a
text: one slash is cut off its end, and the path of the endpoint is put behind what is left. -/

namespace TenantAccess.Proofs
open Settings Url

def endpointPath : Provider → String
  | .ory => "/oauth2/introspect"
  | .keycloak => "/protocol/openid-connect/token/introspect"
  | .auth0 => "/userinfo"
  | .cognito => "/.well-known/jwks.json"
  | .none | .unknown _ => ""

theorem remote?_place {config : ProviderConfig} {algorithm : SigningAlgorithm} {base : String} {hasKey : Bool}
    {strategy : RemoteVerifier} (chosen : config.remote? algorithm base hasKey = some strategy) :
    placeOf strategy = base ++ endpointPath config.provider := by
  unfold ProviderConfig.remote? at chosen
  split at chosen
  next ory =>
    cases chosen
    rw [ory]
    rfl
  next keycloak =>
    cases chosen
    rw [keycloak]
    rfl
  next auth0 =>
    cases chosen
    rw [auth0]
    rfl
  next cognito =>
    split at chosen
    · cases chosen
    · cases chosen
      rw [cognito]
      rfl
  all_goals cases chosen

/-- Whatever the factory builds asks the provider at one place, if it asks it at all. -/
theorem created_place {config : ProviderConfig} {verifier : Verifier} {url : String}
    (built : Created config verifier) (given : config.url = some url) {place : String}
    (asked : place ∈ placesOf verifier) : place = ProviderConfig.baseUrl url ++ endpointPath config.provider := by
  have placed {algorithm : SigningAlgorithm} {other : String} {hasKey : Bool}
      (found : ProviderConfig.nonempty? config.url = some other)
      (asked : place ∈ ((config.remote? algorithm (ProviderConfig.baseUrl other) hasKey).map placeOf).toList) :
      place = ProviderConfig.baseUrl url ++ endpointPath config.provider := by
    obtain ⟨strategy, chosen, rfl⟩ := Option.map_eq_some_iff.mp (Option.mem_toList.mp asked)
    cases given.symm.trans (nonempty?_given found)
    exact remote?_place chosen
  cases built with
  | disabled => cases asked
  | @remote algorithm other set named found keyless =>
    have stands : place ∈ ((config.remote? algorithm (ProviderConfig.baseUrl other) false).map placeOf).toList := by
      cases chosen : config.remote? algorithm (ProviderConfig.baseUrl other) false with
      | none => rwa [chosen] at asked
      | some strategy => rwa [chosen] at asked
    exact placed found stands
  | localFirst set named found held => exact placed found asked

theorem created_own {config : ProviderConfig} {verifier : Verifier} (built : Created config verifier)
    (method : String) : verifier ≠ .consulted method := by
  cases built with
  | disabled | localFirst => nofun
  | remote => cases config.remote? _ _ _ <;> nofun

theorem created_requests {config : ProviderConfig} {verifier : Verifier} {url : String}
    (built : Created config verifier) (given : config.url = some url) {token : String} {signal : Signal}
    {history : List Exchanged} {result : Except Failure (Option Fields)}
    (runs : Runs (verifier.verify token signal) history result) :
    ∀ request ∈ requestsOf history, request.url = ProviderConfig.baseUrl url ++ endpointPath config.provider := by
  intro request member
  obtain ⟨⟨question, reply⟩, asked, fetched⟩ := List.mem_filterMap.mp member
  have inward := runs.within (verifier_to (created_own built) token signal) _ asked
  cases question with
  | fetch other =>
    cases fetched
    exact created_place built given inward
  | _ => cases fetched

theorem solid_all {text : List Char} (solid : text.all (fun c => !isMargin c && !isCut c) = true) :
    ∀ c ∈ text, isMargin c = false ∧ isCut c = false := by
  simpa using solid

theorem endpointPath_appendix {provider : Provider} (known : provider ∈ Provider.known) (set : provider ≠ .none) :
    Appendix (endpointPath provider).toList (endpointPath provider).toList.tail := by
  simp only [Provider.known, List.mem_cons, List.not_mem_nil, or_false] at known
  rcases known with rfl | rfl | rfl | rfl | rfl
  · exact absurd rfl set
  all_goals
    refine ⟨rfl, by decide, solid_all (by decide +kernel), fun kind => ⟨?_, ?_, ?_, ?_⟩⟩
    · cases kind <;> decide +kernel
    · cases kind <;> decide +kernel
    · intro c first
      cases first
      cases kind <;> rfl
    · cases kind <;> decide +kernel

theorem loaded_known {source : Fields} {settings : Settings} (loaded : load source = .ok settings) :
    settings.provider ∈ Provider.known := by
  have read := load_read loaded
  rcases readNamed_clean read.provider with ⟨-, standard⟩ | ⟨name, -, listed⟩
  · rw [standard]
    exact List.mem_cons_self
  · obtain ⟨provider, known, same⟩ := List.mem_map.mp listed
    exact (Prod.mk.inj same).2 ▸ known

/-- A verifier of loaded settings sends every request to its provider's base with the endpoint's path behind it,
and that is the configured address with the path behind its own exactly when the configured text allows it. -/
theorem provider_endpoints {source : Fields} {settings : Settings} (loaded : load source = .ok settings)
    (set : settings.provider ≠ .none) :
    ∃ url address, settings.providerUrl = some url ∧ Address.ofText? url = some address ∧
      (∀ {σ : Type} (world : World σ) (state : σ) (verifier : Verifier),
        ((Server.providerConfig settings).createVerifier.run world state).1 = .ok verifier →
        ∀ token signal history result, Runs (verifier.verify token signal) history result →
          ∀ request ∈ requestsOf history,
            request.url = ProviderConfig.baseUrl url ++ endpointPath settings.provider) ∧
      (Address.ofText? (ProviderConfig.baseUrl url ++ endpointPath settings.provider) =
        some (address.extended (endpointPath settings.provider).toList) ↔ Extendable url) := by
  obtain ⟨url, given, -, -, valid⟩ := (load_sound loaded).address set
  obtain ⟨address, read⟩ := ofText?_valid valid
  refine ⟨url, address, given, read, ?_, extended_iff read (endpointPath_appendix (loaded_known loaded) set)⟩
  intro σ world state verifier built token signal history result runs
  exact created_requests (created world state built) given runs

def providerSource (provider : Provider) (url : String) : Fields :=
  [("DATABASE_URL", .text "postgres://db"), ("AUTH_PROVIDER_TYPE", .text provider.toText),
    ("AUTH_PROVIDER_URL", .text url)]

def providerSettings (provider : Provider) (url : String) : Settings :=
  { hostedSettings with
    port := 3000, poolMax := 20, provider, providerUrl := some url, algorithm := standardAlgorithm,
    publicKeyPem := none }

/-- One slash at the end is cut off, and a path goes on from where it stood. -/
theorem provider_endpoints_realm :
    load (providerSource .keycloak "https://kc.example/realms/demo/") =
        .ok (providerSettings .keycloak "https://kc.example/realms/demo/") ∧
      Extendable "https://kc.example/realms/demo/" ∧
      Address.ofText? "https://kc.example/realms/demo/protocol/openid-connect/token/introspect" =
        some ⟨"https", some "kc.example".toList,
          "/realms/demo/protocol/openid-connect/token/introspect".toList, none, none⟩ := by
  have loaded : load (providerSource .keycloak "https://kc.example/realms/demo/") =
      .ok (providerSettings .keycloak "https://kc.example/realms/demo/") := by decide +kernel
  have extendable : Extendable "https://kc.example/realms/demo/" := by
    have uncut : ("https://kc.example/realms/demo/".toList.any isCut) = false := by decide +kernel
    have ended : "https://kc.example/realms/demo/".toList.rtakeWhile isMargin = [] := by decide +kernel
    refine ⟨by simpa using uncut, ?_, by decide +kernel⟩
    rw [Ended, ended]
    exact List.forall_mem_nil _
  obtain ⟨url, address, given, read, -, extended⟩ := provider_endpoints loaded (by decide)
  cases given
  have addressed : address = ⟨"https", some "kc.example".toList, "/realms/demo/".toList, none, none⟩ := by
    refine Option.some.inj (read.symm.trans ?_)
    decide +kernel
  refine ⟨loaded, extendable, ?_⟩
  have requested := extended.mpr extendable
  rw [addressed] at requested
  exact requested

/-- Of two slashes one is left, and the request goes to a path that begins with both. -/
theorem doubled_slash_requested :
    let url := "https://id.example//"
    let strategy : RemoteVerifier :=
      .introspection "ory" "https://id.example//oauth2/introspect" providerTimeout
    load (providerSource .ory url) = .ok (providerSettings .ory url) ∧
      ((Server.providerConfig (providerSettings .ory url)).createVerifier.run still.world speechless).1 =
        .ok (.remote strategy) ∧
      (requestsOf ((strategy.verify "token" .never).trace still.world speechless)).map (·.url) =
        ["https://id.example//oauth2/introspect"] ∧
      (Address.ofText? url).map (·.extended "/oauth2/introspect".toList) =
        some ⟨"https", some "id.example".toList, "/oauth2/introspect".toList, none, none⟩ ∧
      Address.ofText? "https://id.example//oauth2/introspect" =
        some ⟨"https", some "id.example".toList, "//oauth2/introspect".toList, none, none⟩ := by
  have once := introspection_once "ory" "https://id.example//oauth2/introspect" providerTimeout "token" .never
  refine ⟨by decide +kernel, ?_, ?_, by decide +kernel, by decide +kernel⟩
  · rfl
  · exact congrArg (List.map FetchRequest.url) (once.request _ _ (trace_runs _ still.world speechless))

end TenantAccess.Proofs
