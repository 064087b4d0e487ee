import Mathlib.Data.List.Nodup
import TenantAccess.Proofs.LoadedSettings

/-! What is told of settings that cannot be loaded. Each variable is read by itself, and all that is wrong with it is
told. The rules on several variables are left out as soon as one variable cannot be used at all. -/

namespace TenantAccess.Proofs
open Settings

/-- A value that is missing, of another kind or not on its list cannot be used. Any other problem leaves a value. -/
def stops : Problem → Bool
  | .required | .wrongKind .. | .notListed .. | .notText .. => true
  | .empty | .fraction | .below _ | .above _ | .url | .publicKey | .sharedSecret | .urlRequired _
  | .isolationRequired => false

/-- A variable, and how what is given for it is read. -/
structure Variable where
  name : String
  Value : Type
  read : Option Json → Reading Value

def allVariables : List Variable :=
  [⟨"NODE_ENV", _, readNamed runModes .development⟩, ⟨"PORT", _, readWhole 3000 1 65535⟩,
    ⟨"LOG_LEVEL", _, readNamed logLevels .info⟩, ⟨"DATABASE_URL", _, readText none⟩,
    ⟨"QUERY_TIMEOUT_MS", _, readWhole 5000 100 60000⟩, ⟨"PG_POOL_MAX", _, readWhole 20 1 200⟩,
    ⟨"PG_POOL_IDLE_TIMEOUT_MS", _, readWhole 30000 1000 600000⟩,
    ⟨"PG_POOL_CONNECTION_TIMEOUT_MS", _, readWhole 5000 100 60000⟩, ⟨"AUTH_MODE", _, readNamed authModes .token⟩,
    ⟨"AUTH_PROVIDER_TYPE", _, readNamed providers .none⟩, ⟨"AUTH_PROVIDER_URL", _, readUrl⟩,
    ⟨"AUTH_PROVIDER_ISSUER", _, readOptional⟩, ⟨"JWT_ALGORITHM", _, readAlgorithm⟩,
    ⟨"JWT_PUBLIC_KEY", _, readPublicKey⟩, ⟨"ENFORCE_TENANT_ISOLATION", _, readFlag⟩,
    ⟨"REQUEST_ID_HEADER", _, readText (some "x-request-id")⟩]

def Variable.problems (entry : Variable) (source : Fields) : List Problem :=
  (entry.read (source.get? entry.name)).problems

theorem issues_flatMap (source : Fields) : (Readings.ofSource source).issues =
    allVariables.flatMap fun entry => (entry.problems source).map (Issue.mk entry.name) := by
  simp only [allVariables, List.flatMap_cons, List.flatMap_nil, List.append_nil, Readings.issues, List.append_assoc]
  rfl

def Graded (reading : Reading α) : Prop :=
  (∃ value, reading.value? = some value) ↔ ∀ problem ∈ reading.problems, stops problem = false

theorem graded_good (value : α) : Graded (.good value) :=
  ⟨fun _ => nofun, fun _ => ⟨value, rfl⟩⟩

theorem graded_ofProblems (value : α) {problems : List Problem} (mild : ∀ problem ∈ problems, stops problem = false) :
    Graded (.ofProblems value problems) := by
  unfold Reading.ofProblems
  split
  · exact graded_good value
  · exact ⟨fun _ => mild, fun _ => ⟨value, rfl⟩⟩

theorem graded_unusable {problem : Problem} (severe : stops problem = true) :
    Graded (.unusable problem : Reading α) := by
  constructor
  · rintro ⟨_, ⟨⟩⟩
  · intro mild
    rw [mild problem List.mem_cons_self] at severe
    cases severe

theorem readNamed_graded (names : List (String × α)) (standard : α) (given : Option Json) :
    Graded (readNamed names standard given) := by
  unfold readNamed
  split
  · exact graded_good standard
  · split
    · exact graded_good _
    · exact graded_unusable rfl
  · exact graded_unusable rfl

theorem readText_graded (standard : Option String) (given : Option Json) : Graded (readText standard given) := by
  unfold readText
  split
  · exact graded_good _
  · exact graded_unusable rfl
  · refine graded_ofProblems _ ?_
    split
    · exact List.forall_mem_singleton.mpr rfl
    · nofun
  · exact graded_unusable rfl

theorem rangeProblems_mild (least greatest : Nat) (number : Number) :
    ∀ problem ∈ rangeProblems least greatest number, stops problem = false := by
  unfold rangeProblems
  simp only [List.forall_mem_append]
  refine ⟨⟨?_, ?_⟩, ?_⟩ <;> split <;> simp [stops]

theorem readWhole_graded (standard least greatest : Nat) (given : Option Json) :
    Graded (readWhole standard least greatest given) := by
  have counted (number : Number) : Graded (readNumber least greatest number) :=
    graded_ofProblems _ (rangeProblems_mild _ _ _)
  unfold readWhole
  split
  · exact counted _
  · exact counted _
  · exact graded_unusable rfl
  · exact counted _
  · split
    · exact counted _
    · simp only
      split
      · exact counted _
      · exact graded_unusable rfl
  · exact graded_unusable rfl

theorem readOptional_graded (given : Option Json) : Graded (readOptional given) := by
  unfold readOptional
  split
  · exact graded_good _
  · exact graded_good _
  · exact graded_unusable rfl

theorem readUrl_graded (given : Option Json) : Graded (readUrl given) := by
  unfold readUrl
  split
  · refine graded_ofProblems _ ?_
    split
    · nofun
    · exact List.forall_mem_singleton.mpr rfl
  · exact readOptional_graded given

theorem readPublicKey_graded (given : Option Json) : Graded (readPublicKey given) := by
  unfold readPublicKey
  split
  · split
    · exact graded_good _
    · refine graded_ofProblems _ ?_
      split
      · nofun
      · exact List.forall_mem_singleton.mpr rfl
  · exact graded_good _

theorem readAlgorithm_graded (given : Option Json) : Graded (readAlgorithm given) := by
  unfold readAlgorithm
  split
  · split
    · exact graded_ofProblems standardAlgorithm (List.forall_mem_singleton.mpr rfl)
    · exact readNamed_graded ..
  · exact graded_unusable rfl
  · exact graded_good _

theorem readFlag_graded (given : Option Json) : Graded (readFlag given) := by
  unfold readFlag
  split
  · exact graded_good _
  · exact graded_good _
  · simp only
    split
    · exact graded_good _
    · split
      · exact graded_good _
      · exact graded_unusable rfl
  · exact graded_unusable rfl

theorem allVariables_graded : ∀ entry ∈ allVariables, ∀ given, Graded (entry.read given) := by
  simp only [allVariables, List.forall_mem_cons]
  exact ⟨readNamed_graded _ _, readWhole_graded _ _ _, readNamed_graded _ _, readText_graded _, readWhole_graded _ _ _,
    readWhole_graded _ _ _, readWhole_graded _ _ _, readWhole_graded _ _ _, readNamed_graded _ _,
    readNamed_graded _ _, readUrl_graded, readOptional_graded, readAlgorithm_graded, readPublicKey_graded,
    readFlag_graded, readText_graded _, nofun⟩

def Stopped (source : Fields) : Prop :=
  ∃ entry ∈ allVariables, ∃ problem ∈ entry.problems source, stops problem = true

instance (source : Fields) : Decidable (Stopped source) :=
  inferInstanceAs (Decidable (∃ entry ∈ allVariables, ∃ problem ∈ entry.problems source, stops problem = true))

theorem stopped_iff (source : Fields) : ¬ Stopped source ↔ ∃ settings, Used (.ofSource source) settings := by
  have usable : ¬ Stopped source ↔
      ∀ entry ∈ allVariables, ∃ value, (entry.read (source.get? entry.name)).value? = some value := by
    unfold Stopped
    push Not
    refine forall₂_congr fun entry listed => Iff.trans ?_ (allVariables_graded entry listed _).symm
    simp [Variable.problems]
  rw [usable]
  simp only [allVariables, List.forall_mem_cons]
  constructor
  · rintro ⟨⟨_, runMode⟩, ⟨_, port⟩, ⟨_, logLevel⟩, ⟨_, databaseUrl⟩, ⟨_, queryTimeout⟩, ⟨_, poolMax⟩,
      ⟨_, poolIdleTimeout⟩, ⟨_, poolConnectionTimeout⟩, ⟨_, authMode⟩, ⟨_, provider⟩, ⟨_, providerUrl⟩,
      ⟨_, providerIssuer⟩, ⟨_, algorithm⟩, ⟨_, publicKeyPem⟩, ⟨_, enforceIsolation⟩, ⟨_, requestIdHeader⟩, -⟩
    exact ⟨⟨_, _, _, _, _, _, _, _, _, _, _, _, _, _, _, _⟩, runMode, port, logLevel, databaseUrl, queryTimeout,
      poolMax, poolIdleTimeout, poolConnectionTimeout, authMode, provider, providerUrl, providerIssuer, algorithm,
      publicKeyPem, enforceIsolation, requestIdHeader⟩
  · rintro ⟨settings, used⟩
    exact ⟨⟨_, used.runMode⟩, ⟨_, used.port⟩, ⟨_, used.logLevel⟩, ⟨_, used.databaseUrl⟩, ⟨_, used.queryTimeout⟩,
      ⟨_, used.poolMax⟩, ⟨_, used.poolIdleTimeout⟩, ⟨_, used.poolConnectionTimeout⟩, ⟨_, used.authMode⟩,
      ⟨_, used.provider⟩, ⟨_, used.providerUrl⟩, ⟨_, used.providerIssuer⟩, ⟨_, used.algorithm⟩,
      ⟨_, used.publicKeyPem⟩, ⟨_, used.enforceIsolation⟩, ⟨_, used.requestIdHeader⟩, nofun⟩

/-- A provider is named, and its address is missing or blank. -/
structure Unaddressed (source : Fields) (provider : Provider) : Prop where
  listed : provider ∈ Provider.known
  set : provider ≠ .none
  named : source.get? "AUTH_PROVIDER_TYPE" = some (.text provider.toText)
  missing : source.get? "AUTH_PROVIDER_URL" = none ∨
    ∃ text, source.get? "AUTH_PROVIDER_URL" = some (.text text) ∧ Text.isBlankText text = true

def noWords : List String := ["0", "false", "no", "off"]

/-- A gateway's word on the caller is taken, and tenants are not kept apart. -/
structure Unisolated (source : Fields) : Prop where
  behind : source.get? "AUTH_MODE" = some (.text "headers")
  shared : source.get? "ENFORCE_TENANT_ISOLATION" = some (.boolean false) ∨
    ∃ text, source.get? "ENFORCE_TENANT_ISOLATION" = some (.text text) ∧
      Text.lowercase (Text.trim text) ∈ noWords

/-- The issues of the rules on several variables. -/
inductive Joint (source : Fields) : Issue → Prop where
  | address {provider : Provider} (unaddressed : Unaddressed source provider) :
      Joint source ⟨"AUTH_PROVIDER_URL", .urlRequired provider.toText⟩
  | isolation (unisolated : Unisolated source) : Joint source ⟨"ENFORCE_TENANT_ISOLATION", .isolationRequired⟩

/-- An issue of one variable, which shows in what is given for that variable and in nothing else. -/
def Own (source : Fields) (issue : Issue) : Prop :=
  ∃ entry ∈ allVariables, issue.name = entry.name ∧ issue.problem ∈ entry.problems source

/-- Loading fails, and the issue is among those that are told. -/
def Reported (source : Fields) (issue : Issue) : Prop :=
  ∃ invalid, load source = .error invalid ∧ issue ∈ invalid.issues

theorem own_iff (source : Fields) (issue : Issue) : issue ∈ (Readings.ofSource source).issues ↔ Own source issue := by
  rw [issues_flatMap, List.mem_flatMap]
  refine exists_congr fun entry => and_congr_right fun _ => ?_
  rw [List.mem_map]
  constructor
  · rintro ⟨problem, wrong, rfl⟩
    exact ⟨rfl, wrong⟩
  · rintro ⟨named, wrong⟩
    exact ⟨issue.problem, wrong, by rw [← named]⟩

theorem value?_ofProblems (value : α) (problems : List Problem) :
    (Reading.ofProblems value problems).value? = some value := by
  unfold Reading.ofProblems
  split <;> rfl

theorem readNamed_value {names : List (String × α)} {standard value : α} {given : Option Json} :
    (readNamed names standard given).value? = some value ↔
      given = none ∧ standard = value ∨ ∃ text, given = some (.text text) ∧ names.lookup text = some value := by
  unfold readNamed
  split
  · simp [Reading.value?]
  next text =>
    split
    next found listed => simp [Reading.value?, listed]
    next unlisted => simp [Reading.value?, unlisted]
  next other apart => simp_all [Reading.value?]

theorem readUrl_value (given : Option Json) : (readUrl given).value? = (readOptional given).value? := by
  unfold readUrl
  split
  next url read => rw [read, value?_ofProblems, Reading.value?]
  · rfl

theorem readOptional_missing {given : Option Json} : (readOptional given).value? = some none ↔
    given = none ∨ ∃ text, given = some (.text text) ∧ Text.isBlankText text = true := by
  unfold readOptional
  split
  · simp [Reading.value?]
  · simp [Reading.value?]
  next other apart => simp_all [Reading.value?]

theorem readUrl_missing {given : Option Json} : (readUrl given).value? = some none ↔
    given = none ∨ ∃ text, given = some (.text text) ∧ Text.isBlankText text = true := by
  rw [readUrl_value]
  exact readOptional_missing

theorem readFlag_false {given : Option Json} : (readFlag given).value? = some false ↔
    given = some (.boolean false) ∨ ∃ text, given = some (.text text) ∧ Text.lowercase (Text.trim text) ∈ noWords := by
  have apart : ∀ word ∈ ["1", "true", "yes", "on"], word ∉ noWords := by decide
  unfold readFlag
  split
  · simp [Reading.value?]
  · simp [Reading.value?]
  next text =>
    simp only
    split
    next yes => simpa [Reading.value?] using apart _ (List.contains_iff_mem.mp yes)
    next =>
      split
      next no => simpa [Reading.value?, noWords] using List.contains_iff_mem.mp no
      next other => simpa [Reading.value?, noWords] using other
  next other apart => simp_all [Reading.value?]

theorem providers_lookup (text : String) (provider : Provider) :
    providers.lookup text = some provider ↔ provider ∈ Provider.known ∧ text = provider.toText := by
  have found : ∀ provider ∈ Provider.known, providers.lookup provider.toText = some provider := by decide
  constructor
  · intro listed
    obtain ⟨before, after, whole, -⟩ := List.lookup_eq_some_iff.mp listed
    have member : (text, provider) ∈ providers := by simp [whole]
    obtain ⟨other, known, same⟩ := List.mem_map.mp member
    cases same
    exact ⟨known, rfl⟩
  · rintro ⟨listed, rfl⟩
    exact found provider listed

theorem authModes_headers (text : String) : authModes.lookup text = some .headers ↔ text = "headers" := by
  constructor
  · intro listed
    obtain ⟨before, after, whole, -⟩ := List.lookup_eq_some_iff.mp listed
    have member : (text, AuthMode.headers) ∈ authModes := by simp [whole]
    simpa [authModes, AuthMode.toText] using member
  · rintro rfl
    decide

theorem read_as {reading : Reading α} {value : α} (used : reading.value? = some value) (other : α) :
    value = other ↔ reading.value? = some other := by
  rw [used, Option.some_inj]

section
variable {source : Fields} {settings : Settings}

theorem unaddressed_iff (used : Used (.ofSource source) settings) (provider : Provider) :
    Unaddressed source provider ↔
      settings.provider = provider ∧ provider ≠ .none ∧ settings.providerUrl = none := by
  have chosen := (read_as used.provider provider).trans readNamed_value
  have address := (read_as used.providerUrl none).trans readUrl_missing
  rw [chosen, address]
  constructor
  · rintro ⟨listed, set, named, missing⟩
    exact ⟨.inr ⟨_, named, (providers_lookup ..).mpr ⟨listed, rfl⟩⟩, set, missing⟩
  · rintro ⟨⟨-, rfl⟩ | ⟨text, named, found⟩, set, missing⟩
    · exact absurd rfl set
    · obtain ⟨listed, rfl⟩ := (providers_lookup ..).mp found
      exact ⟨listed, set, named, missing⟩

theorem unisolated_iff (used : Used (.ofSource source) settings) :
    Unisolated source ↔ settings.authMode = .headers ∧ settings.enforceIsolation = false := by
  have mode := (read_as used.authMode .headers).trans readNamed_value
  have isolation := (read_as used.enforceIsolation false).trans readFlag_false
  rw [mode, isolation]
  constructor
  · rintro ⟨behind, shared⟩
    exact ⟨.inr ⟨_, behind, (authModes_headers _).mpr rfl⟩, shared⟩
  · rintro ⟨⟨-, ⟨⟩⟩ | ⟨text, behind, found⟩, shared⟩
    obtain rfl := (authModes_headers text).mp found
    exact ⟨behind, shared⟩

theorem jointIssues_iff (used : Used (.ofSource source) settings) (issue : Issue) :
    issue ∈ jointIssues settings ↔ Joint source issue := by
  have address := unaddressed_iff used settings.provider
  have isolation := unisolated_iff used
  constructor
  · intro inside
    rcases List.mem_append.mp inside with inside | inside
    · split at inside
      next broken =>
        obtain rfl := List.mem_singleton.mp inside
        simp only [Bool.and_eq_true, decide_eq_true_eq, Option.isNone_iff_eq_none] at broken
        exact .address (address.mpr ⟨rfl, broken⟩)
      · cases inside
    · split at inside
      next broken =>
        obtain rfl := List.mem_singleton.mp inside
        simp only [Bool.and_eq_true, decide_eq_true_eq, Bool.not_eq_true'] at broken
        exact .isolation (isolation.mpr broken)
      · cases inside
  · rintro (unaddressed | unisolated)
    · obtain ⟨rfl, set, missing⟩ := (unaddressed_iff used _).mp unaddressed
      simp [jointIssues, set, missing]
    · obtain ⟨behind, shared⟩ := isolation.mp unisolated
      simp [jointIssues, behind, shared]

theorem reported_used (used : Used (.ofSource source) settings) (issue : Issue) :
    Reported source issue ↔ Own source issue ∨ Joint source issue := by
  rw [← own_iff, ← jointIssues_iff used, ← List.mem_append]
  unfold Reported load
  simp only [(settings?_iff ..).mpr used]
  split
  next none => simp [List.isEmpty_iff.mp none]
  next some => simp

theorem load_stopped (stopped : Stopped source) : load source = .error ⟨(Readings.ofSource source).issues⟩ := by
  have unread : (Readings.ofSource source).settings? = none := by
    refine Option.eq_none_iff_forall_ne_some.mpr fun settings read => ?_
    exact (stopped_iff source).mpr ⟨settings, (settings?_iff ..).mp read⟩ stopped
  unfold load
  simp only [unread]

theorem entry_unique {entry other : Variable} (listed : entry ∈ allVariables) (known : other ∈ allVariables)
    (same : entry.name = other.name) : entry = other := by
  have apart : (allVariables.map Variable.name).Nodup := by decide
  exact List.inj_on_of_nodup_map apart listed known same

theorem unset_url_sound {given : Option Json}
    (missing : given = none ∨ ∃ text, given = some (.text text) ∧ Text.isBlankText text = true) :
    (readUrl given).problems = [] := by
  rcases missing with rfl | ⟨text, rfl, blank⟩
  · rfl
  · simp [readUrl, readOptional, blank, Reading.problems]

theorem used_flag_sound {given : Option Json} {value : Bool} (used : (readFlag given).value? = some value) :
    (readFlag given).problems = [] := by
  unfold readFlag at used ⊢
  split
  · rfl
  · rfl
  · simp only at used ⊢
    split
    · rfl
    next other =>
      split
      · rfl
      next neither =>
        rw [if_neg other, if_neg neither] at used
        cases used
  next missing boolean text => simp_all [Reading.value?]

/-- Nothing is wrong by itself with a variable that breaks a rule together with others. -/
theorem joint_sound_alone {issue : Issue} (joint : Joint source issue) {entry : Variable}
    (listed : entry ∈ allVariables) (named : issue.name = entry.name) : entry.problems source = [] := by
  cases joint with
  | address unaddressed =>
    have known : ⟨"AUTH_PROVIDER_URL", _, readUrl⟩ ∈ allVariables := by simp [allVariables]
    obtain rfl := entry_unique known listed named
    exact unset_url_sound unaddressed.missing
  | isolation unisolated =>
    have known : ⟨"ENFORCE_TENANT_ISOLATION", _, readFlag⟩ ∈ allVariables := by simp [allVariables]
    obtain rfl := entry_unique known listed named
    exact used_flag_sound (readFlag_false.mpr unisolated.shared)

theorem reported_stopped (stopped : Stopped source) (issue : Issue) : Reported source issue ↔ Own source issue := by
  rw [← own_iff]
  unfold Reported
  rw [load_stopped stopped]
  simp

end

/-- An issue is told when it is one of a single variable, whatever the other variables hold. One of a rule on several
variables is told only if each variable can be used, but the settings are refused in any case. -/
theorem issues_told_iff (source : Fields) :
    (∀ issue, Reported source issue ↔ Own source issue ∨ Joint source issue ∧ ¬ Stopped source) ∧
      ∀ issue, Joint source issue → (∃ invalid, load source = .error invalid) ∧
        ((∃ problem, Reported source ⟨issue.name, problem⟩) ↔ ¬ Stopped source) := by
  by_cases stopped : Stopped source
  · refine ⟨fun issue => ?_, fun issue joint => ⟨⟨_, load_stopped stopped⟩, ?_⟩⟩
    · rw [reported_stopped stopped]
      exact ⟨.inl, fun either => either.resolve_right fun joint => joint.2 stopped⟩
    · refine ⟨?_, absurd stopped⟩
      rintro ⟨problem, told⟩
      obtain ⟨entry, listed, named, wrong⟩ := (reported_stopped stopped _).mp told
      rw [joint_sound_alone joint listed named] at wrong
      cases wrong
  · obtain ⟨settings, used⟩ := (stopped_iff source).mp stopped
    refine ⟨fun issue => ?_, fun issue joint => ?_⟩
    · rw [reported_used used, and_iff_left stopped]
    · have told : Reported source issue := (reported_used used issue).mpr (.inr joint)
      obtain ⟨invalid, refused, -⟩ := id told
      exact ⟨⟨invalid, refused⟩, fun _ => stopped, fun _ => ⟨issue.problem, told⟩⟩

def crowdedSource : Fields :=
  [("DATABASE_URL", .text "postgres://db"), ("PORT", .text "70000"), ("AUTH_MODE", .text "headers"),
    ("AUTH_PROVIDER_TYPE", .text "ory"), ("AUTH_PROVIDER_URL", .text " "), ("ENFORCE_TENANT_ISOLATION", .text "Off")]

theorem issues_told_iff_crowded :
    Joint crowdedSource ⟨"AUTH_PROVIDER_URL", .urlRequired "ory"⟩ ∧
      (∃ problem, Reported crowdedSource ⟨"AUTH_PROVIDER_URL", problem⟩) ∧
      Joint crowdedSource ⟨"ENFORCE_TENANT_ISOLATION", .isolationRequired⟩ ∧
      (∃ problem, Reported crowdedSource ⟨"ENFORCE_TENANT_ISOLATION", problem⟩) := by
  have address : Unaddressed crowdedSource .ory := ⟨by decide, by decide, rfl, .inr ⟨" ", rfl, by decide⟩⟩
  have isolation : Unisolated crowdedSource := ⟨rfl, .inr ⟨"Off", rfl, by decide +kernel⟩⟩
  have usable : ¬ Stopped crowdedSource := by decide +kernel
  have joint := (issues_told_iff crowdedSource).2
  exact ⟨.address address, (joint _ (.address address)).2.mpr usable, .isolation isolation,
    (joint _ (.isolation isolation)).2.mpr usable⟩

/-- The same two rules are broken, and no database is named. -/
def bareSource : Fields :=
  [("AUTH_MODE", .text "headers"), ("AUTH_PROVIDER_TYPE", .text "ory"), ("ENFORCE_TENANT_ISOLATION", .text "false")]

/-- What is missing hides both rules. -/
theorem missing_database_hides_rules :
    Unaddressed bareSource .ory ∧ Unisolated bareSource ∧
      load bareSource = .error ⟨[⟨"DATABASE_URL", .required⟩]⟩ := by
  have address : Unaddressed bareSource .ory := ⟨by decide, by decide, rfl, .inl rfl⟩
  have isolation : Unisolated bareSource := ⟨rfl, .inr ⟨"false", rfl, by decide +kernel⟩⟩
  exact ⟨address, isolation, by decide +kernel⟩

end TenantAccess.Proofs
