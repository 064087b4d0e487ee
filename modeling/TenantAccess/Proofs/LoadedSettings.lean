import TenantAccess.Proofs.TokenAcceptance
import TenantAccess.Proofs.VerifierBounds
import TenantAccess.Service.Server

/-! Settings that were loaded. Every rule on a variable holds of what was loaded from it, and
the verifier of the loaded settings can be built unless their public key cannot be read. -/

namespace TenantAccess.Proofs
open Settings

/-- A variable that could be used, and in which nothing is wrong. -/
structure Clean (reading : Reading α) (value : α) : Prop where
  used : reading.value? = some value
  sound : reading.problems = []

theorem clean_good {value other : α} (clean : Clean (.good value) other) : value = other :=
  Option.some.inj clean.used

theorem clean_ofProblems {value other : α} {problems : List Problem}
    (clean : Clean (.ofProblems value problems) other) : value = other ∧ problems = [] := by
  obtain ⟨used, sound⟩ := clean
  unfold Reading.ofProblems at used sound
  split at used
  next none => exact ⟨Option.some.inj used, List.isEmpty_iff.mp none⟩
  next some =>
    rw [if_neg some] at sound
    exact ⟨Option.some.inj used, sound⟩

theorem unclean_unusable {value : α} {problem : Problem} : ¬ Clean (.unusable problem) value :=
  fun clean => nomatch clean.used

structure Used (r : Readings) (settings : Settings) : Prop where
  runMode : r.runMode.value? = some settings.runMode
  port : r.port.value? = some settings.port
  logLevel : r.logLevel.value? = some settings.logLevel
  databaseUrl : r.databaseUrl.value? = some settings.databaseUrl
  queryTimeout : r.queryTimeout.value? = some settings.queryTimeout
  poolMax : r.poolMax.value? = some settings.poolMax
  poolIdleTimeout : r.poolIdleTimeout.value? = some settings.poolIdleTimeout
  poolConnectionTimeout : r.poolConnectionTimeout.value? = some settings.poolConnectionTimeout
  authMode : r.authMode.value? = some settings.authMode
  provider : r.provider.value? = some settings.provider
  providerUrl : r.providerUrl.value? = some settings.providerUrl
  providerIssuer : r.providerIssuer.value? = some settings.providerIssuer
  algorithm : r.algorithm.value? = some settings.algorithm
  publicKeyPem : r.publicKeyPem.value? = some settings.publicKeyPem
  enforceIsolation : r.enforceIsolation.value? = some settings.enforceIsolation
  requestIdHeader : r.requestIdHeader.value? = some settings.requestIdHeader

theorem settings?_iff (r : Readings) (settings : Settings) : r.settings? = some settings ↔ Used r settings := by
  constructor
  · intro used
    obtain ⟨_, runMode, used⟩ := Option.bind_eq_some_iff.mp used
    obtain ⟨_, port, used⟩ := Option.bind_eq_some_iff.mp used
    obtain ⟨_, logLevel, used⟩ := Option.bind_eq_some_iff.mp used
    obtain ⟨_, databaseUrl, used⟩ := Option.bind_eq_some_iff.mp used
    obtain ⟨_, queryTimeout, used⟩ := Option.bind_eq_some_iff.mp used
    obtain ⟨_, poolMax, used⟩ := Option.bind_eq_some_iff.mp used
    obtain ⟨_, poolIdleTimeout, used⟩ := Option.bind_eq_some_iff.mp used
    obtain ⟨_, poolConnectionTimeout, used⟩ := Option.bind_eq_some_iff.mp used
    obtain ⟨_, authMode, used⟩ := Option.bind_eq_some_iff.mp used
    obtain ⟨_, provider, used⟩ := Option.bind_eq_some_iff.mp used
    obtain ⟨_, providerUrl, used⟩ := Option.bind_eq_some_iff.mp used
    obtain ⟨_, providerIssuer, used⟩ := Option.bind_eq_some_iff.mp used
    obtain ⟨_, algorithm, used⟩ := Option.bind_eq_some_iff.mp used
    obtain ⟨_, publicKeyPem, used⟩ := Option.bind_eq_some_iff.mp used
    obtain ⟨_, enforceIsolation, used⟩ := Option.bind_eq_some_iff.mp used
    obtain ⟨_, requestIdHeader, used⟩ := Option.bind_eq_some_iff.mp used
    cases used
    exact ⟨runMode, port, logLevel, databaseUrl, queryTimeout, poolMax, poolIdleTimeout, poolConnectionTimeout,
      authMode, provider, providerUrl, providerIssuer, algorithm, publicKeyPem, enforceIsolation, requestIdHeader⟩
  · intro used
    unfold Readings.settings?
    rw [used.runMode, used.port, used.logLevel, used.databaseUrl, used.queryTimeout, used.poolMax,
      used.poolIdleTimeout, used.poolConnectionTimeout, used.authMode, used.provider, used.providerUrl,
      used.providerIssuer, used.algorithm, used.publicKeyPem, used.enforceIsolation, used.requestIdHeader]
    rfl

/-- The settings are those of readings in which nothing is wrong with any variable. -/
structure Cleared (r : Readings) (settings : Settings) : Prop where
  runMode : Clean r.runMode settings.runMode
  port : Clean r.port settings.port
  logLevel : Clean r.logLevel settings.logLevel
  databaseUrl : Clean r.databaseUrl settings.databaseUrl
  queryTimeout : Clean r.queryTimeout settings.queryTimeout
  poolMax : Clean r.poolMax settings.poolMax
  poolIdleTimeout : Clean r.poolIdleTimeout settings.poolIdleTimeout
  poolConnectionTimeout : Clean r.poolConnectionTimeout settings.poolConnectionTimeout
  authMode : Clean r.authMode settings.authMode
  provider : Clean r.provider settings.provider
  providerUrl : Clean r.providerUrl settings.providerUrl
  providerIssuer : Clean r.providerIssuer settings.providerIssuer
  algorithm : Clean r.algorithm settings.algorithm
  publicKeyPem : Clean r.publicKeyPem settings.publicKeyPem
  enforceIsolation : Clean r.enforceIsolation settings.enforceIsolation
  requestIdHeader : Clean r.requestIdHeader settings.requestIdHeader

theorem cleared_iff (r : Readings) (settings : Settings) :
    Cleared r settings ↔ Used r settings ∧ r.issues = [] := by
  simp only [Readings.issues, Readings.issuesOf, List.append_eq_nil_iff, List.map_eq_nil_iff, and_assoc]
  constructor
  · intro cleared
    have used : Used r settings :=
      ⟨cleared.runMode.used, cleared.port.used, cleared.logLevel.used, cleared.databaseUrl.used,
        cleared.queryTimeout.used, cleared.poolMax.used, cleared.poolIdleTimeout.used,
        cleared.poolConnectionTimeout.used, cleared.authMode.used, cleared.provider.used,
        cleared.providerUrl.used, cleared.providerIssuer.used, cleared.algorithm.used,
        cleared.publicKeyPem.used, cleared.enforceIsolation.used, cleared.requestIdHeader.used⟩
    exact ⟨used, cleared.runMode.sound, cleared.port.sound, cleared.logLevel.sound, cleared.databaseUrl.sound,
      cleared.queryTimeout.sound, cleared.poolMax.sound, cleared.poolIdleTimeout.sound,
      cleared.poolConnectionTimeout.sound, cleared.authMode.sound, cleared.provider.sound,
      cleared.providerUrl.sound, cleared.providerIssuer.sound, cleared.algorithm.sound,
      cleared.publicKeyPem.sound, cleared.enforceIsolation.sound, cleared.requestIdHeader.sound⟩
  · rintro ⟨used, runMode, port, logLevel, databaseUrl, queryTimeout, poolMax, poolIdleTimeout,
      poolConnectionTimeout, authMode, provider, providerUrl, providerIssuer, algorithm, publicKeyPem,
      enforceIsolation, requestIdHeader⟩
    exact ⟨⟨used.runMode, runMode⟩, ⟨used.port, port⟩, ⟨used.logLevel, logLevel⟩,
      ⟨used.databaseUrl, databaseUrl⟩, ⟨used.queryTimeout, queryTimeout⟩, ⟨used.poolMax, poolMax⟩,
      ⟨used.poolIdleTimeout, poolIdleTimeout⟩, ⟨used.poolConnectionTimeout, poolConnectionTimeout⟩,
      ⟨used.authMode, authMode⟩, ⟨used.provider, provider⟩, ⟨used.providerUrl, providerUrl⟩,
      ⟨used.providerIssuer, providerIssuer⟩, ⟨used.algorithm, algorithm⟩, ⟨used.publicKeyPem, publicKeyPem⟩,
      ⟨used.enforceIsolation, enforceIsolation⟩, ⟨used.requestIdHeader, requestIdHeader⟩⟩

theorem load_iff (source : Fields) (settings : Settings) :
    load source = .ok settings ↔ Cleared (.ofSource source) settings ∧ jointIssues settings = [] := by
  rw [cleared_iff, ← settings?_iff, and_assoc]
  unfold load
  simp only
  split
  next unread => simp [unread]
  next found read =>
    rw [read, Option.some_inj]
    split
    next none =>
      obtain ⟨sound, joint⟩ := List.append_eq_nil_iff.mp (List.isEmpty_iff.mp none)
      constructor
      · rintro ⟨⟩
        exact ⟨rfl, sound, joint⟩
      · rintro ⟨rfl, -, -⟩
        rfl
    next some =>
      refine ⟨nofun, ?_⟩
      rintro ⟨rfl, sound, joint⟩
      simp [sound, joint] at some

structure Read (r : Readings) (settings : Settings) : Prop where
  port : Clean r.port settings.port
  queryTimeout : Clean r.queryTimeout settings.queryTimeout
  poolMax : Clean r.poolMax settings.poolMax
  poolIdleTimeout : Clean r.poolIdleTimeout settings.poolIdleTimeout
  poolConnectionTimeout : Clean r.poolConnectionTimeout settings.poolConnectionTimeout
  provider : Clean r.provider settings.provider
  providerUrl : Clean r.providerUrl settings.providerUrl
  algorithm : Clean r.algorithm settings.algorithm
  publicKeyPem : Clean r.publicKeyPem settings.publicKeyPem
  joint : jointIssues settings = []

theorem load_read {source : Fields} {settings : Settings} (loaded : load source = .ok settings) :
    Read (.ofSource source) settings := by
  obtain ⟨cleared, joint⟩ := (load_iff source settings).mp loaded
  exact ⟨cleared.port, cleared.queryTimeout, cleared.poolMax, cleared.poolIdleTimeout, cleared.poolConnectionTimeout,
    cleared.provider, cleared.providerUrl, cleared.algorithm, cleared.publicKeyPem, joint⟩

/-- The number that a variable stands for: the standard one when nothing or an empty text is given. -/
def givenNumber (standard : Nat) : Option Json → Number
  | none | some .null => .finite standard
  | some (.number number) => number
  | some (.text text) => if text = "" then .finite standard else Number.ofLenient text
  | some _ => .undefined

structure Counted (standard least greatest : Nat) (given : Option Json) (value : Nat) : Prop where
  same : givenNumber standard given = .finite value
  least : least ≤ value
  greatest : value ≤ greatest

theorem rangeProblems_none {least greatest : Nat} {number : Number} (small : greatest < 2 ^ 53)
    (ordered : least ≤ greatest) (none : rangeProblems least greatest number = []) :
    number = .finite (wholeValue number) ∧ least ≤ wholeValue number ∧ wholeValue number ≤ greatest := by
  have low : Number.ofInt least = .finite least := ofInt_held (by omega)
  have high : Number.ofInt greatest = .finite greatest := ofInt_held (by omega)
  simp only [rangeProblems, List.append_eq_nil_iff, ite_eq_left_iff, ite_eq_right_iff, reduceCtorEq, imp_false,
    Bool.not_eq_true, Bool.not_eq_false, low, high, and_assoc] at none
  obtain ⟨whole, least_le, le_greatest⟩ := none
  cases number with
  | finite value =>
    have den : value.den = 1 := by simpa [Number.isWhole] using whole
    have exact : value = (value.num : Rat) := (Rat.den_eq_one_iff value).mp den |>.symm
    have above : (least : Rat) ≤ value.num := by
      rw [← exact]
      simpa [Number.below] using least_le
    have under : (value.num : Rat) ≤ greatest := by
      rw [← exact]
      simpa [Number.below] using le_greatest
    have above : (least : Int) ≤ value.num := by exact_mod_cast above
    have under : value.num ≤ (greatest : Int) := by exact_mod_cast under
    have kept : ((value.num.toNat : Nat) : Rat) = value := by
      rw [exact]
      exact_mod_cast Int.toNat_of_nonneg (by omega)
    refine ⟨by rw [wholeValue, kept], ?_, ?_⟩ <;> (simp only [wholeValue]; omega)
  | infinite | undefined => simp [Number.isWhole] at whole

theorem readWhole_clean {standard least greatest value : Nat} {given : Option Json} (small : greatest < 2 ^ 53)
    (ordered : least ≤ greatest) (within : standard ≤ greatest)
    (clean : Clean (readWhole standard least greatest given) value) :
    Counted standard least greatest given value := by
  have counted {number : Number} (clean : Clean (readNumber least greatest number) value)
      (same : givenNumber standard given = number) : Counted standard least greatest given value := by
    obtain ⟨rfl, none⟩ := clean_ofProblems clean
    obtain ⟨exact, low, high⟩ := rangeProblems_none small ordered none
    exact ⟨same.trans exact, low, high⟩
  have usual : Number.finite (standard : Rat) = .ofInt standard := (ofInt_held (by omega)).symm
  unfold readWhole at clean
  split at clean
  · exact counted clean usual
  · exact counted clean usual
  · exact absurd clean unclean_unusable
  · exact counted clean rfl
  next text =>
    split at clean
    next empty =>
      exact counted clean ((if_pos empty).trans usual)
    next nonempty =>
      simp only at clean
      split at clean
      · exact counted clean (if_neg nonempty)
      · exact absurd clean unclean_unusable
  · exact absurd clean unclean_unusable

theorem readNamed_clean {names : List (String × α)} {standard value : α} {given : Option Json}
    (clean : Clean (readNamed names standard given) value) :
    (given = none ∧ value = standard) ∨ ∃ text, given = some (.text text) ∧ (text, value) ∈ names := by
  unfold readNamed at clean
  split at clean
  · exact .inl ⟨rfl, (clean_good clean).symm⟩
  next text =>
    split at clean
    next found listed =>
      obtain ⟨before, after, rfl, -⟩ := List.lookup_eq_some_iff.mp listed
      exact .inr ⟨text, rfl, by simp [clean_good clean]⟩
    · exact absurd clean unclean_unusable
  · exact absurd clean unclean_unusable

theorem readAlgorithm_clean {given : Option Json} {algorithm : SigningAlgorithm}
    (clean : Clean (readAlgorithm given) algorithm) :
    (given = none ∧ algorithm = standardAlgorithm) ∨ given = some (.text algorithm.toText) := by
  have named : ∀ pair ∈ algorithmNames, pair.1 = pair.2.toText := by decide
  unfold readAlgorithm at clean
  split at clean
  next text =>
    split at clean
    · exact absurd clean.sound (List.cons_ne_nil _ _)
    · rcases readNamed_clean clean with ⟨missing, -⟩ | ⟨other, same, listed⟩
      · cases missing
      · exact .inr (same.trans (congrArg (some <| Json.text ·) (named _ listed)))
  · exact absurd clean unclean_unusable
  · exact .inl ⟨rfl, (clean_good clean).symm⟩

theorem readOptional_good {given : Option Json} {text : String} (read : readOptional given = .good (some text)) :
    given = some (.text text) ∧ Text.isBlankText text = false := by
  unfold readOptional at read
  split at read
  · cases read
  next other =>
    split at read
    · cases read
    next filled =>
      cases read
      exact ⟨rfl, Bool.not_eq_true _ ▸ filled⟩
  · cases read

theorem readUrl_clean {given : Option Json} {url : String} (clean : Clean (readUrl given) (some url)) :
    given = some (.text url) ∧ Text.isBlankText url = false ∧ Url.isValid url = true := by
  unfold readUrl at clean
  split at clean
  next other read =>
    obtain ⟨same, none⟩ := clean_ofProblems clean
    cases same
    obtain ⟨told, filled⟩ := readOptional_good read
    exact ⟨told, filled, by simpa using none⟩
  next unread =>
    -- A variable that is not read as a text is missing, blank or of the wrong kind.
    unfold readOptional at clean unread
    split at clean
    · cases clean_good clean
    · split at clean
      · cases clean_good clean
      · simp_all
    · exact absurd clean unclean_unusable

theorem readPublicKey_clean {given : Option Json} {pem : String}
    (clean : Clean (readPublicKey given) (some pem)) : pem ≠ "" := by
  unfold readPublicKey at clean
  split at clean
  · split at clean
    · cases clean_good clean
    · obtain ⟨same, none⟩ := clean_ofProblems clean
      cases same
      intro empty
      have blank : Text.trimmed (expandLineEnds _) = [] := String.ofList_eq_empty_iff.mp empty
      rw [blank] at none
      exact absurd none (by decide)
  · cases clean_good clean

theorem joint_sound {settings : Settings} (joint : jointIssues settings = []) :
    (settings.provider ≠ .none → ∃ url, settings.providerUrl = some url) ∧
      (settings.authMode = .headers → settings.enforceIsolation = true) := by
  obtain ⟨addressed, isolated⟩ := List.append_eq_nil_iff.mp joint
  constructor
  · intro set
    cases given : settings.providerUrl with
    | some url => exact ⟨url, rfl⟩
    | none => simp [set, given] at addressed
  · intro behind
    cases apart : settings.enforceIsolation with
    | true => rfl
    | false => simp [behind, apart] at isolated

structure Loaded (source : Fields) (settings : Settings) : Prop where
  port : Counted 3000 1 65535 (source.get? "PORT") settings.port
  queryTimeout : Counted 5000 100 60000 (source.get? "QUERY_TIMEOUT_MS") settings.queryTimeout
  poolMax : Counted 20 1 200 (source.get? "PG_POOL_MAX") settings.poolMax
  poolIdleTimeout : Counted 30000 1000 600000 (source.get? "PG_POOL_IDLE_TIMEOUT_MS") settings.poolIdleTimeout
  poolConnectionTimeout :
    Counted 5000 100 60000 (source.get? "PG_POOL_CONNECTION_TIMEOUT_MS") settings.poolConnectionTimeout
  asymmetric : settings.algorithm.toText ∈ asymmetricNames
  algorithm : (source.get? "JWT_ALGORITHM" = none ∧ settings.algorithm = standardAlgorithm) ∨
    source.get? "JWT_ALGORITHM" = some (.text settings.algorithm.toText)
  address : settings.provider ≠ .none → ∃ url, settings.providerUrl = some url ∧
    source.get? "AUTH_PROVIDER_URL" = some (.text url) ∧ Text.isBlankText url = false ∧ Url.isValid url = true
  isolated : settings.authMode = .headers → settings.enforceIsolation = true

theorem load_sound {source : Fields} {settings : Settings} (loaded : load source = .ok settings) :
    Loaded source settings := by
  have read := load_read loaded
  obtain ⟨addressed, isolated⟩ := joint_sound read.joint
  refine ⟨readWhole_clean ?_ ?_ ?_ read.port, readWhole_clean ?_ ?_ ?_ read.queryTimeout,
    readWhole_clean ?_ ?_ ?_ read.poolMax, readWhole_clean ?_ ?_ ?_ read.poolIdleTimeout,
    readWhole_clean ?_ ?_ ?_ read.poolConnectionTimeout, named_asymmetric _, readAlgorithm_clean read.algorithm,
    fun set => ?_, isolated⟩
  case refine_16 =>
    obtain ⟨url, given⟩ := addressed set
    have clean := read.providerUrl
    rw [given] at clean
    exact ⟨url, given, readUrl_clean clean⟩
  all_goals decide

def KeyUnreadable (settings : Settings) : Prop :=
  settings.provider ≠ .none ∧ ∃ pem, settings.publicKeyPem = some pem ∧
    LocalKey.ofPem? pem settings.algorithm settings.providerIssuer = none

/-- Building a verifier fails for nothing but a public key that cannot be read. -/
structure Builds (settings : Settings) (outcome : Except SetupFailure Verifier) : Prop where
  fails : KeyUnreadable settings → outcome = .error (.unreadableKey settings.algorithm)
  succeeds : ¬ KeyUnreadable settings →
    ∃ verifier, outcome = .ok verifier ∧ Created (Server.providerConfig settings) verifier

theorem nonempty?_some {text : String} (filled : text ≠ "") :
    ProviderConfig.nonempty? (some text) = some text := by
  simp [ProviderConfig.nonempty?, Option.filter, filled]

theorem nonempty?_given {setting : Option String} {text : String}
    (given : ProviderConfig.nonempty? setting = some text) : setting = some text :=
  (Option.filter_eq_some_iff.mp given).1

/-- The two checks of the factory that the rules on the variables have made before never fail. -/
theorem refused_unreadable {settings : Settings} {failure : SetupFailure}
    (addressed : settings.provider ≠ .none → ∃ url, settings.providerUrl = some url ∧ url ≠ "")
    (refused : Refused (Server.providerConfig settings) failure) :
    failure = .unreadableKey settings.algorithm ∧ KeyUnreadable settings := by
  have chosen : SigningAlgorithm.ofText? (Server.providerConfig settings).algorithm = some settings.algorithm :=
    ofText?_toText settings.algorithm
  cases refused with
  | algorithm unnamed =>
    rw [chosen] at unnamed
    cases unnamed
  | address set missing =>
    obtain ⟨url, given, filled⟩ := addressed set
    have found : ProviderConfig.nonempty? (Server.providerConfig settings).url = some url :=
      (congrArg ProviderConfig.nonempty? given).trans (nonempty?_some filled)
    rw [found] at missing
    cases missing
  | key set named given unread =>
    rw [chosen] at named
    cases named
    exact ⟨rfl, set, _, nonempty?_given given, unread⟩

theorem created_readable {settings : Settings} {verifier : Verifier}
    (filled : ∀ pem, settings.publicKeyPem = some pem → pem ≠ "")
    (created : Created (Server.providerConfig settings) verifier) : ¬ KeyUnreadable settings := by
  rintro ⟨set, pem, given, unread⟩
  have keyed : ProviderConfig.nonempty? (Server.providerConfig settings).publicKeyPem = some pem :=
    (congrArg ProviderConfig.nonempty? given).trans (nonempty?_some (filled pem given))
  cases created with
  | disabled unset => exact set unset
  | remote _ _ _ keyless =>
    rw [keyed] at keyless
    cases keyless
  | localFirst _ _ _ held =>
    have chosen : SigningAlgorithm.ofText? (Server.providerConfig settings).algorithm = some settings.algorithm :=
      ofText?_toText settings.algorithm
    simp only [heldKey?, keyed, chosen, Option.bind_some] at held
    exact absurd (held.symm.trans unread) (Option.some_ne_none _)

theorem load_builds {source : Fields} {settings : Settings} (loaded : load source = .ok settings)
    (world : World σ) (state : σ) :
    Builds settings ((Server.providerConfig settings).createVerifier.run world state).1 := by
  have read := load_read loaded
  have addressed (set : settings.provider ≠ .none) : ∃ url, settings.providerUrl = some url ∧ url ≠ "" := by
    obtain ⟨url, given, -, filled, -⟩ := (load_sound loaded).address set
    refine ⟨url, given, ?_⟩
    rintro rfl
    exact absurd filled (by decide)
  have keyed (pem : String) (given : settings.publicKeyPem = some pem) : pem ≠ "" :=
    readPublicKey_clean (given ▸ read.publicKeyPem)
  cases outcome : ((Server.providerConfig settings).createVerifier.run world state).1 with
  | ok verifier =>
    have built := created world state outcome
    exact ⟨fun unreadable => absurd unreadable (created_readable keyed built), fun _ => ⟨verifier, rfl, built⟩⟩
  | error failure =>
    obtain ⟨rfl, unreadable⟩ := refused_unreadable addressed (refused world state outcome)
    exact ⟨fun _ => rfl, fun readable => absurd unreadable readable⟩

/-- Loaded settings keep every rule on their variables, and the factory fails on them for an unreadable
public key alone; without a public key it never does. -/
theorem loaded_settings_build {source : Fields} {settings : Settings} (loaded : load source = .ok settings) :
    Loaded source settings ∧ ∀ {σ : Type} (world : World σ) (state : σ),
      Builds settings ((Server.providerConfig settings).createVerifier.run world state).1 ∧
      (settings.publicKeyPem = none →
        ∃ verifier, ((Server.providerConfig settings).createVerifier.run world state).1 = .ok verifier) := by
  refine ⟨load_sound loaded, fun world state => ?_⟩
  have builds := load_builds loaded world state
  refine ⟨builds, fun keyless => ?_⟩
  have readable : ¬ KeyUnreadable settings := by
    rintro ⟨-, pem, given, -⟩
    rw [keyless] at given
    cases given
  obtain ⟨verifier, built, -⟩ := builds.succeeds readable
  exact ⟨verifier, built⟩

/-- A source whose public key has the right first line and nothing else. -/
def hostedSource : Fields :=
  [("DATABASE_URL", .text "postgres://db"), ("PORT", .text " 8080 "), ("PG_POOL_MAX", .number (.ofInt 200)),
    ("AUTH_PROVIDER_TYPE", .text "cognito"), ("AUTH_PROVIDER_URL", .text "https://id.example"),
    ("JWT_ALGORITHM", .text "ES256"), ("JWT_PUBLIC_KEY", .text "-----BEGIN PUBLIC KEY-----")]

def hostedSettings : Settings where
  runMode := .development
  port := 8080
  logLevel := .info
  databaseUrl := "postgres://db"
  queryTimeout := 5000
  poolMax := 200
  poolIdleTimeout := 30000
  poolConnectionTimeout := 5000
  authMode := .token
  provider := .cognito
  providerUrl := some "https://id.example"
  providerIssuer := none
  algorithm := ⟨.ecdsa, .bits256⟩
  publicKeyPem := some "-----BEGIN PUBLIC KEY-----"
  enforceIsolation := true
  requestIdHeader := "x-request-id"

theorem loaded_settings_build_hosted :
    load hostedSource = .ok hostedSettings ∧ Loaded hostedSource hostedSettings ∧
      ((Server.providerConfig hostedSettings).createVerifier.run still.world speechless).1 =
        .error (.unreadableKey ⟨.ecdsa, .bits256⟩) := by
  have loaded : load hostedSource = .ok hostedSettings := by decide +kernel
  obtain ⟨sound, builds⟩ := loaded_settings_build loaded
  have unread : LocalKey.ofPem? "-----BEGIN PUBLIC KEY-----" ⟨.ecdsa, .bits256⟩ none = none := by decide +kernel
  have unreadable : KeyUnreadable hostedSettings := ⟨by decide, _, rfl, unread⟩
  exact ⟨loaded, sound, (builds still.world speechless).1.fails unreadable⟩

end TenantAccess.Proofs
