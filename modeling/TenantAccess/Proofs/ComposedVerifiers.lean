import TenantAccess.Proofs.UnfitKeys

/-! A key at hand before a provider. The key is asked first, and what it accepts costs no request. What it refuses goes
to the provider as if there were no key; a provider that only publishes its keys is not asked at all. -/

namespace TenantAccess.Proofs
open Rehearsal

def keyless (config : ProviderConfig) : ProviderConfig := { config with publicKeyPem := none }

/-- The providers that are asked about a token. The other one publishes keys to check it with. -/
def askedProviders : List Provider := [.ory, .keycloak, .auth0]

def ConsultsCache : Ask → Prop
  | .recallKeys | .storeKeys _ => True
  | _ => False

def repliesOf (history : List Exchanged) : List FetchReply :=
  history.filterMap fun asked => match asked with
    | ⟨.fetch _, reply⟩ => some reply
    | _ => none

/-- Every run sends this one request, leaves the held keys alone, and comes to what the reply settles. -/
structure AsksOnce (request : FetchRequest) (flow : Flow α) : Prop where
  request : ∀ history value, Runs flow history value → requestsOf history = [request]
  uncached : ∀ history value, Runs flow history value → ∀ asked ∈ history, ¬ ConsultsCache asked.question
  settled : ∀ history value other result, Runs flow history value → Runs flow other result →
    repliesOf history = repliesOf other → value = result

def Reporting : Ask → Prop
  | .report _ => True
  | _ => False

section
variable {history : List Exchanged}

theorem Runs.reporting {flow : Flow α} {value result : α} {other : List Exchanged} (asks : Asks Reporting flow)
    (one : Runs flow history value) (two : Runs flow other result) : value = result := by
  induction one generalizing other with
  | done value =>
    cases two
    rfl
  | @ask question next reply history value earlier ih =>
    cases two with
    | ask again later =>
      -- A report has one reply only, so that both runs go on with the same flow.
      obtain ⟨tells, rest⟩ := asks
      have same : again = reply := by
        cases question with
        | report entry => rfl
        | _ => exact tells.elim
      subst same
      exact ih (rest again) later

theorem reporting_silent (reporting : ∀ asked ∈ history, Reporting asked.question) :
    requestsOf history = [] ∧ repliesOf history = [] ∧ ∀ asked ∈ history, ¬ ConsultsCache asked.question := by
  have told (asked : Exchanged) (inside : asked ∈ history) : ∃ entry, asked = ⟨.report entry, ()⟩ := by
    obtain ⟨question, reply⟩ := asked
    have tells := reporting _ inside
    cases question with
    | report entry => exact ⟨entry, rfl⟩
    | _ => exact tells.elim
  refine ⟨List.filterMap_eq_nil_iff.mpr fun asked inside => ?_, List.filterMap_eq_nil_iff.mpr fun asked inside => ?_,
    fun asked inside consults => ?_⟩
  all_goals obtain ⟨entry, rfl⟩ := told asked inside
  · rfl
  · rfl
  · exact consults

theorem reportUnreachable_reporting (provider place url : String) (failure : Failure) :
    Asks Reporting (reportUnreachable provider place url failure) := by
  unfold reportUnreachable
  split
  · trivial
  · exact ⟨trivial, fun _ => trivial⟩

/-- One request under a timer, and then nothing but what its reply settles. -/
theorem asked_runs {request : FetchRequest} {timeout : Number} {next : Except Failure JsonResponse → Flow α}
    {value : α} (runs : Runs (fetchJson request timeout >>= next) history value) :
    ∃ reply rest, history = ⟨.armTimer timeout, ()⟩ :: ⟨.fetch request, reply⟩ :: ⟨.disarmTimer, ()⟩ :: rest ∧
      Runs (next (JsonResponse.ofReply reply)) rest value := by
  obtain ⟨_, outcome, rest, rfl, asked, later⟩ := runs.bind
  obtain ⟨reply, rfl, rfl⟩ := fetchJson_runs asked
  exact ⟨reply, rest, rfl, later⟩

theorem asked_once {request : FetchRequest} {timeout : Number} {next : Except Failure JsonResponse → Flow α}
    (reporting : ∀ outcome, Asks Reporting (next outcome)) : AsksOnce request (fetchJson request timeout >>= next) := by
  constructor
  · intro history value runs
    obtain ⟨reply, rest, rfl, later⟩ := asked_runs runs
    exact congrArg (List.cons request) (reporting_silent (later.within (reporting _))).1
  · intro history value runs
    obtain ⟨reply, rest, rfl, later⟩ := asked_runs runs
    have uncached := (reporting_silent (later.within (reporting _))).2.2
    simpa [ConsultsCache] using uncached
  · intro history value other result one two same
    obtain ⟨reply, rest, rfl, first⟩ := asked_runs one
    obtain ⟨again, more, rfl, second⟩ := asked_runs two
    obtain ⟨rfl, -⟩ : reply = again ∧ repliesOf rest = repliesOf more := List.cons.inj same
    exact first.reporting (reporting _) second

theorem told_reporting {severity : Severity} {fields : List (String × LogValue)} {message : String} (value : α) :
    Asks Reporting (do Flow.report severity fields message; pure value) := ⟨trivial, fun _ => trivial⟩

/-- The two strategies that put one question to the provider only tell things once its reply is there. -/
theorem judged_once {request : FetchRequest} {timeout : Number} {provider place url : String}
    {judge : JsonResponse → Flow (Except Failure (Option Fields))}
    (judged : ∀ response, Asks Reporting (judge response)) :
    AsksOnce request (do
      match ← fetchJson request timeout with
      | .error failure => reportUnreachable provider place url failure
      | .ok response => judge response) := by
  refine asked_once fun outcome => ?_
  cases outcome with
  | error failure => exact reportUnreachable_reporting provider place url failure
  | ok response => exact judged response

theorem introspection_once (provider url : String) (timeout : Number) (token : String) (signal : Signal) :
    AsksOnce (Introspection.request url token signal) (Introspection.verify provider url timeout token signal) := by
  refine judged_once fun response => ?_
  split
  · exact told_reporting _
  · split
    · exact told_reporting _
    · exact told_reporting _

theorem userinfo_once (url : String) (timeout : Number) (token : String) (signal : Signal) :
    AsksOnce (Userinfo.request url token signal) (Userinfo.verify url timeout token signal) := by
  refine judged_once fun response => ?_
  split
  · exact told_reporting _
  · split
    · exact told_reporting _
    · exact told_reporting _

theorem remote?_asked {config : ProviderConfig} (asked : config.provider ∈ askedProviders)
    (algorithm : SigningAlgorithm) (base : String) :
    ∃ strategy, (∀ hasKey, config.remote? algorithm base hasKey = some strategy) ∧
      ∀ token signal, ∃ request, request.signal = signal ∧ AsksOnce request (strategy.verify token signal) := by
  simp only [askedProviders, List.mem_cons, List.not_mem_nil, or_false] at asked
  rcases asked with ory | keycloak | auth0
  · exact ⟨_, fun hasKey => by rw [ProviderConfig.remote?, ory], fun token signal =>
      ⟨_, rfl, introspection_once _ _ _ token signal⟩⟩
  · exact ⟨_, fun hasKey => by rw [ProviderConfig.remote?, keycloak], fun token signal =>
      ⟨_, rfl, introspection_once _ _ _ token signal⟩⟩
  · exact ⟨_, fun hasKey => by rw [ProviderConfig.remote?, auth0], fun token signal =>
      ⟨_, rfl, userinfo_once _ _ token signal⟩⟩

theorem remote?_unasked {config : ProviderConfig} (unasked : config.provider ∉ askedProviders)
    (algorithm : SigningAlgorithm) (base : String) : config.remote? algorithm base true = none := by
  unfold ProviderConfig.remote?
  split
  all_goals simp_all [askedProviders]

theorem keyless_built {config : ProviderConfig} {algorithm : SigningAlgorithm} {url : String}
    {strategy : RemoteVerifier} (set : config.provider ≠ .none)
    (named : SigningAlgorithm.ofText? config.algorithm = some algorithm)
    (given : ProviderConfig.nonempty? config.url = some url)
    (chosen : config.remote? algorithm (ProviderConfig.baseUrl url) false = some strategy) (setup : World σ)
    (start : σ) : ((keyless config).createVerifier.run setup start).1 = .ok (.remote strategy) := by
  have unkeyed : ProviderConfig.nonempty? (keyless config).publicKeyPem = none := rfl
  have same : (keyless config).remote? algorithm (ProviderConfig.baseUrl url) false = some strategy := chosen
  simp only [ProviderConfig.createVerifier, keyless] at unkeyed same ⊢
  simp only [named, set, given, ↓reduceIte, ProviderConfig.verifierAt, unkeyed, same]
  rfl

theorem keyed_built {config : ProviderConfig} {algorithm : SigningAlgorithm} {url pem : String} {key : LocalKey}
    (set : config.provider ≠ .none) (named : SigningAlgorithm.ofText? config.algorithm = some algorithm)
    (given : ProviderConfig.nonempty? config.url = some url)
    (keyed : ProviderConfig.nonempty? config.publicKeyPem = some pem)
    (taken : LocalKey.ofPem? pem algorithm config.issuer = some key) (setup : World σ) (start : σ) :
    (config.createVerifier.run setup start).1 =
      .ok (.localFirst key (config.remote? algorithm (ProviderConfig.baseUrl url) true)) := by
  simp only [ProviderConfig.createVerifier, named, set, given, ↓reduceIte, ProviderConfig.verifierAt, keyed, taken]
  rfl

theorem unset_built {config : ProviderConfig} {algorithm : SigningAlgorithm} (unset : config.provider = .none)
    (named : SigningAlgorithm.ofText? config.algorithm = some algorithm) (setup : World σ) (start : σ) :
    (config.createVerifier.run setup start).1 = .ok .disabled := by
  simp only [ProviderConfig.createVerifier, named, unset, ↓reduceIte]
  rfl

/-- How a run goes on once the key at hand has been asked, and what it comes to. -/
inductive AfterKey (token : String) (signal : Signal) :
    TokenOutcome → Option RemoteVerifier → List Exchanged → Except Failure (Option Fields) → Prop where
  | accepted (claims : Fields) (strategy : Option RemoteVerifier) :
      AfterKey token signal (.accepted claims) strategy [] (.ok (some claims))
  | alone {outcome : TokenOutcome} (refused : ∀ claims, outcome ≠ .accepted claims) :
      AfterKey token signal outcome none [] (.ok none)
  | deferred {outcome : TokenOutcome} {remote : RemoteVerifier} {rest : List Exchanged}
      {result : Except Failure (Option Fields)} (refused : ∀ claims, outcome ≠ .accepted claims)
      (runs : Runs (remote.verify token signal) rest result) : AfterKey token signal outcome (some remote) rest result

section
variable {token : String} {signal : Signal} {outcome : TokenOutcome} {strategy : Option RemoteVerifier}
  {result : Except Failure (Option Fields)}

theorem AfterKey.of_accepted {claims : Fields} (after : AfterKey token signal outcome strategy history result)
    (accepted : outcome = .accepted claims) : history = [] ∧ result = .ok (some claims) := by
  subst accepted
  cases after with
  | accepted => exact ⟨rfl, rfl⟩
  | alone refused | deferred refused => exact absurd rfl (refused claims)

theorem AfterKey.of_alone (after : AfterKey token signal outcome none history result)
    (refused : ∀ claims, outcome ≠ .accepted claims) : history = [] ∧ result = .ok none := by
  cases after with
  | accepted claims => exact absurd rfl (refused claims)
  | alone => exact ⟨rfl, rfl⟩

theorem AfterKey.of_deferred {remote : RemoteVerifier}
    (after : AfterKey token signal outcome (some remote) history result)
    (refused : ∀ claims, outcome ≠ .accepted claims) : Runs (remote.verify token signal) history result := by
  cases after with
  | accepted claims => exact absurd rfl (refused claims)
  | deferred _ runs => exact runs

theorem AfterKey.uncached (after : AfterKey token signal outcome strategy history result)
    (uncached : ∀ remote, strategy = some remote → ∀ history result, Runs (remote.verify token signal) history result →
      ∀ asked ∈ history, ¬ ConsultsCache asked.question) : ∀ asked ∈ history, ¬ ConsultsCache asked.question := by
  cases after with
  | accepted | alone => exact List.forall_mem_nil _
  | deferred _ runs => exact uncached _ rfl _ _ runs

end

theorem claimsOf_none {outcome : TokenOutcome} (nothing : claimsOf outcome = none) (claims : Fields) :
    outcome ≠ .accepted claims := by
  rintro rfl
  cases nothing

theorem claimsOf_some {outcome : TokenOutcome} {claims : Fields} (given : claimsOf outcome = some claims) :
    outcome = .accepted claims := by
  cases outcome with
  | accepted claims => exact congrArg TokenOutcome.accepted (Option.some.inj given)
  | _ => cases given

theorem localFirst_runs {key : LocalKey} {strategy : Option RemoteVerifier} {token : String} {signal : Signal}
    {result : Except Failure (Option Fields)}
    (runs : Runs (Verifier.verifyLocalFirst key strategy token signal) history result) :
    ∃ now entry rest, history = ⟨.clock, now⟩ :: ⟨.report entry, ()⟩ :: rest ∧
      AfterKey token signal (key.check token now) strategy rest result := by
  obtain ⟨_, claims, rest, rfl, asked, later⟩ := runs.bind
  obtain ⟨now, rfl, found⟩ := localKey_runs asked
  refine ⟨now, _, rest, rfl, ?_⟩
  cases claims with
  | some claims =>
    obtain ⟨rfl, rfl⟩ := later.ended
    rw [claimsOf_some found.symm]
    exact .accepted claims strategy
  | none =>
    have refused := claimsOf_none found.symm
    cases strategy with
    | none =>
      obtain ⟨rfl, rfl⟩ := later.ended
      exact .alone refused
    | some remote => exact .deferred refused later

end

/-- How a key at hand and the provider behind it share the verification of a token in a world. What is compared with it,
the verification without the key, may happen in any world in which the provider replies alike. -/
structure KeyFirst (config : ProviderConfig) (key : LocalKey) (verifier : Verifier) (token : String) (signal : Signal)
    (world : World σ) (state : σ) : Prop where
  accepted : ∀ claims, key.check token (world.reply .clock state).1 = .accepted claims →
    ((verifier.verify token signal).run world state).1 = .ok (some claims) ∧
      requestsOf ((verifier.verify token signal).trace world state) = []
  deferred : (∀ claims, key.check token (world.reply .clock state).1 ≠ .accepted claims) →
    config.provider ∈ askedProviders →
    ∃ bare : Verifier, ∃ request : FetchRequest,
      (∀ {τ : Type} (setup : World τ) (start : τ), ((keyless config).createVerifier.run setup start).1 = .ok bare) ∧
      request.signal = signal ∧ requestsOf ((verifier.verify token signal).trace world state) = [request] ∧
      ∀ {τ : Type} (other : World τ) (start : τ),
        requestsOf ((bare.verify token signal).trace other start) = [request] ∧
        (repliesOf ((bare.verify token signal).trace other start) =
            repliesOf ((verifier.verify token signal).trace world state) →
          ((bare.verify token signal).run other start).1 = ((verifier.verify token signal).run world state).1)
  alone : (∀ claims, key.check token (world.reply .clock state).1 ≠ .accepted claims) →
    config.provider ∉ askedProviders →
    ((verifier.verify token signal).run world state).1 = .ok none ∧
      requestsOf ((verifier.verify token signal).trace world state) = []

/-- What a configuration with a key sets up: nothing that looks at a token when there is no provider, and else the key
before the provider. The published keys that a process holds are not consulted. -/
structure Composed (config : ProviderConfig) (verifier : Verifier) (token : String) (signal : Signal)
    (world : World σ) (state : σ) : Prop where
  unset : config.provider = .none → ((verifier.verify token signal).run world state).1 = .ok none ∧
    requestsOf ((verifier.verify token signal).trace world state) = []
  keyed : config.provider ≠ .none → ∃ key, heldKey? config = some key ∧
    KeyFirst config key verifier token signal world state
  uncached : ∀ asked ∈ (verifier.verify token signal).trace world state, ¬ ConsultsCache asked.question

section
variable {key : LocalKey} {token : String} {signal : Signal} {world : World σ} {state : σ}

variable (world state) in
theorem localFirst_told (key : LocalKey) (strategy : Option RemoteVerifier) (token : String) (signal : Signal) :
    ∃ entry rest, (Verifier.verify (.localFirst key strategy) token signal).trace world state =
        ⟨.clock, (world.reply .clock state).1⟩ :: ⟨.report entry, ()⟩ :: rest ∧
      AfterKey token signal (key.check token (world.reply .clock state).1) strategy rest
        ((Verifier.verify (.localFirst key strategy) token signal).run world state).1 := by
  obtain ⟨now, entry, rest, whole, after⟩ :=
    localFirst_runs (trace_runs (Verifier.verifyLocalFirst key strategy token signal) world state)
  obtain ⟨same, -⟩ := List.cons.inj
    (show (⟨.clock, (world.reply .clock state).1⟩ : Exchanged) :: _ = ⟨.clock, now⟩ :: _ from whole)
  cases same
  exact ⟨entry, rest, whole, after⟩

theorem localFirst_accepted {claims : Fields} (strategy : Option RemoteVerifier)
    (accepted : key.check token (world.reply .clock state).1 = .accepted claims) :
    ((Verifier.verify (.localFirst key strategy) token signal).run world state).1 = .ok (some claims) ∧
      requestsOf ((Verifier.verify (.localFirst key strategy) token signal).trace world state) = [] := by
  obtain ⟨entry, rest, whole, after⟩ := localFirst_told world state key strategy token signal
  obtain ⟨rfl, found⟩ := after.of_accepted accepted
  rw [whole]
  exact ⟨found, rfl⟩

theorem localFirst_alone (refused : ∀ claims, key.check token (world.reply .clock state).1 ≠ .accepted claims) :
    ((Verifier.verify (.localFirst key none) token signal).run world state).1 = .ok none ∧
      requestsOf ((Verifier.verify (.localFirst key none) token signal).trace world state) = [] := by
  obtain ⟨entry, rest, whole, after⟩ := localFirst_told world state key none token signal
  obtain ⟨rfl, nothing⟩ := after.of_alone refused
  rw [whole]
  exact ⟨nothing, rfl⟩

theorem localFirst_deferred {remote : RemoteVerifier}
    (refused : ∀ claims, key.check token (world.reply .clock state).1 ≠ .accepted claims) :
    ∃ rest, Runs (remote.verify token signal) rest
        ((Verifier.verify (.localFirst key (some remote)) token signal).run world state).1 ∧
      requestsOf ((Verifier.verify (.localFirst key (some remote)) token signal).trace world state) =
        requestsOf rest ∧
      repliesOf ((Verifier.verify (.localFirst key (some remote)) token signal).trace world state) =
        repliesOf rest := by
  obtain ⟨entry, rest, whole, after⟩ := localFirst_told world state key (some remote) token signal
  rw [whole]
  exact ⟨rest, after.of_deferred refused, rfl, rfl⟩

theorem localFirst_uncached {strategy : Option RemoteVerifier}
    (uncached : ∀ remote, strategy = some remote → ∀ history result, Runs (remote.verify token signal) history result →
      ∀ asked ∈ history, ¬ ConsultsCache asked.question) :
    ∀ asked ∈ (Verifier.verify (.localFirst key strategy) token signal).trace world state,
      ¬ ConsultsCache asked.question := by
  obtain ⟨entry, rest, whole, after⟩ := localFirst_told world state key strategy token signal
  rw [whole]
  simpa [ConsultsCache] using after.uncached uncached

/-- A provider that is asked about tokens is asked behind a key as it is asked without one. -/
theorem localFirst_asked {config : ProviderConfig} {algorithm : SigningAlgorithm} {url : String}
    (asked : config.provider ∈ askedProviders) (named : SigningAlgorithm.ofText? config.algorithm = some algorithm)
    (given : ProviderConfig.nonempty? config.url = some url) :
    let verifier := Verifier.localFirst key (config.remote? algorithm (ProviderConfig.baseUrl url) true)
    KeyFirst config key verifier token signal world state ∧
      ∀ asked ∈ (verifier.verify token signal).trace world state, ¬ ConsultsCache asked.question := by
  obtain ⟨strategy, chosen, once⟩ := remote?_asked asked algorithm (ProviderConfig.baseUrl url)
  obtain ⟨request, signalled, once⟩ := once token signal
  rw [chosen true]
  refine ⟨⟨fun claims => localFirst_accepted _, fun refused _ => ?_, fun _ unasked => absurd asked unasked⟩, ?_⟩
  · obtain ⟨rest, runs, requests, replies⟩ := localFirst_deferred refused
    have set : config.provider ≠ .none := by
      rintro unset
      rw [unset] at asked
      exact absurd asked (by decide)
    refine ⟨.remote strategy, request, keyless_built set named given (chosen false), signalled,
      requests.trans (once.request _ _ runs), fun other start => ⟨once.request _ _ (trace_runs _ other start), ?_⟩⟩
    intro same
    exact once.settled _ _ _ _ (trace_runs _ other start) runs (same.trans replies)
  · refine localFirst_uncached fun remote same => ?_
    cases same
    exact once.uncached

end

/-- With a key, every verifier that a configuration sets up asks the key first and then the provider as without it, in
every world; only where no provider is named the key is not looked at. -/
theorem key_first_unless_unset {config : ProviderConfig} {verifier : Verifier} {pem : String} (setup : World σ)
    (start : σ) (keyed : ProviderConfig.nonempty? config.publicKeyPem = some pem)
    (built : (config.createVerifier.run setup start).1 = .ok verifier) (token : String) (signal : Signal)
    (world : World τ) (state : τ) : Composed config verifier token signal world state := by
  cases created setup start built with
  | disabled unset =>
    refine ⟨fun _ => ⟨rfl, rfl⟩, fun set => absurd unset set, ?_⟩
    exact List.forall_mem_singleton.mpr id
  | remote set named given keyless => exact absurd (keyed.symm.trans keyless) nofun
  | @localFirst algorithm url key set named given held =>
    by_cases asked : config.provider ∈ askedProviders
    · obtain ⟨first, uncached⟩ := localFirst_asked asked named given
      exact ⟨fun unset => absurd unset set, fun _ => ⟨key, held, first⟩, uncached⟩
    · rw [remote?_unasked asked]
      exact ⟨fun unset => absurd unset set, fun _ => ⟨key, held, fun claims => localFirst_accepted _,
        fun _ other => absurd other asked, fun refused _ => localFirst_alone refused⟩, localFirst_uncached nofun⟩

/-- A provider with the key that the shared token was signed with. -/
def keyedConfig (provider : Provider) : ProviderConfig :=
  ⟨provider, some "https://id.example/", none, "RS256", some sharedPem, .standard⟩

def sharedKey : LocalKey := ⟨.rsa ⟨sharedModulus, 3⟩, rs256, none⟩

theorem sharedPem_given : ProviderConfig.nonempty? (some sharedPem) = some sharedPem := by
  have written : sharedPem ≠ "" := by
    intro empty
    have signs := congrArg String.toList empty
    rw [sharedPem, marked, String.toList_ofList] at signs
    exact absurd (List.append_eq_nil_iff.mp signs).1 (by decide)
  simpa [ProviderConfig.nonempty?] using written

theorem keyedConfig_built : ((keyedConfig .auth0).createVerifier.run still.world (.begin 0 [])).1 =
    .ok (.localFirst sharedKey (some (.userinfo "https://id.example/userinfo" providerTimeout))) := by
  have set : (keyedConfig .auth0).provider ≠ .none := by decide
  have named : SigningAlgorithm.ofText? (keyedConfig .auth0).algorithm = some rs256 := rfl
  have given : ProviderConfig.nonempty? (keyedConfig .auth0).url = some "https://id.example/" := rfl
  have taken : LocalKey.ofPem? sharedPem rs256 (keyedConfig .auth0).issuer = some sharedKey :=
    sharedPem_taken rs256 none
  exact keyed_built set named given sharedPem_given taken still.world (.begin 0 [])

theorem key_first_unless_unset_userinfo :
    ProviderConfig.nonempty? (keyedConfig .auth0).publicKeyPem = some sharedPem ∧
    ((keyedConfig .auth0).createVerifier.run still.world (.begin 0 [])).1 =
      .ok (.localFirst sharedKey (some (.userinfo "https://id.example/userinfo" providerTimeout))) ∧
    Composed (keyedConfig .auth0)
      (.localFirst sharedKey (some (.userinfo "https://id.example/userinfo" providerTimeout))) "token" .never
      still.world acquainted :=
  have keyed : ProviderConfig.nonempty? (keyedConfig .auth0).publicKeyPem = some sharedPem := sharedPem_given
  ⟨keyed, keyedConfig_built, key_first_unless_unset still.world (.begin 0 []) keyed keyedConfig_built "token" .never
    still.world acquainted⟩

/-- Where no provider is named the verifier stands for nobody, also with a token that the key accepts. -/
theorem unset_provider_ignores_key :
    heldKey? (keyedConfig .none) = some sharedKey ∧
    ((keyedConfig .none).createVerifier.run still.world (.begin 0 [])).1 = .ok .disabled ∧
    sharedKey.check sharedToken (still.world.reply .clock (.begin 0 [])).1 = .accepted [] ∧
    ((Verifier.verify .disabled sharedToken .never).run still.world (.begin 0 [])).1 = .ok none := by
  have named : SigningAlgorithm.ofText? (keyedConfig .none).algorithm = some rs256 := rfl
  have taken : LocalKey.ofPem? sharedPem rs256 (keyedConfig .none).issuer = some sharedKey :=
    sharedPem_taken rs256 none
  have held : heldKey? (keyedConfig .none) = some sharedKey :=
    Option.bind_eq_some_iff.mpr ⟨sharedPem, sharedPem_given, Option.bind_eq_some_iff.mpr ⟨rs256, named, taken⟩⟩
  exact ⟨held, unset_built rfl named still.world (.begin 0 []), sharedToken_accepted _, rfl⟩

end TenantAccess.Proofs
