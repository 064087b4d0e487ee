import TenantAccess.Proofs.CanonicalIdentifiers
import TenantAccess.Proofs.ToldIssues

/-! Settings that are loaded from settings. What was loaded is written under the names of its variables, each
in the form in which it is kept, and loading that gives the same again: every form that is kept is one that is
read as it is. -/

namespace TenantAccess.Proofs
open Settings

section
variable {names : List (String × α)} {standard value : α} {given : Option Json}

theorem clean_ofProblems_nil (value : α) : Clean (.ofProblems value []) value := ⟨rfl, rfl⟩

/-- A name that leads to a value is written back for it, and so is the name of the standard value. -/
theorem readNamed_again {name : α → String} (usual : names.lookup (name standard) = some standard)
    (named : ∀ pair ∈ names, names.lookup (name pair.2) = some pair.2)
    (clean : Clean (readNamed names standard given) value) :
    Clean (readNamed names standard (some (.text (name value)))) value := by
  have found : names.lookup (name value) = some value := by
    rcases readNamed_clean clean with ⟨-, rfl⟩ | ⟨text, -, listed⟩
    · exact usual
    · exact named _ listed
  unfold readNamed
  simp only [found]
  exact ⟨rfl, rfl⟩

end

theorem readWhole_again {standard least greatest value : Nat} {given : Option Json} (small : greatest < 2 ^ 53)
    (ordered : least ≤ greatest) (within : standard ≤ greatest)
    (clean : Clean (readWhole standard least greatest given) value) :
    Clean (readWhole standard least greatest (some (.ofNat value))) value := by
  obtain ⟨-, low, high⟩ := readWhole_clean small ordered within clean
  have held {n : Nat} (few : n ≤ greatest) : Number.ofInt n = .finite n := ofInt_held (by omega)
  have sound : rangeProblems least greatest (.finite value) = [] := by
    simp [rangeProblems, held ordered, held (Nat.le_refl _), Number.isWhole, Number.below, low, high]
  have given : Json.ofNat value = .number (.finite value) := congrArg Json.number (held high)
  have counted : readWhole standard least greatest (some (.ofNat value)) = .ofProblems value [] := by
    rw [given, ← sound]
    rfl
  rw [counted]
  exact clean_ofProblems_nil value

theorem readText_again {standard : Option String} {value : String} {given : Option Json} (usual : standard ≠ some "")
    (clean : Clean (readText standard given) value) : Clean (readText standard (some (.text value))) value := by
  have filled : value ≠ "" := by
    unfold readText at clean
    split at clean
    · rintro rfl
      exact usual (congrArg some (clean_good clean))
    · exact absurd clean unclean_unusable
    · obtain ⟨rfl, none⟩ := clean_ofProblems clean
      simpa using none
    · exact absurd clean unclean_unusable
  unfold readText
  simp only [filled, if_false]
  exact clean_ofProblems_nil value

theorem readOptional_again {given : Option Json} {value : Option String} (clean : Clean (readOptional given) value) :
    Clean (readOptional (value.map Json.text)) value := by
  cases value with
  | none => exact ⟨rfl, rfl⟩
  | some text =>
    have filled : Text.isBlankText text = false := by
      unfold readOptional at clean
      split at clean
      · cases clean_good clean
      · split at clean
        · cases clean_good clean
        next filled =>
          cases clean_good clean
          simpa using filled
      · exact absurd clean unclean_unusable
    have read : readOptional (some (.text text)) = .good (some text) := by simp [readOptional, filled]
    exact read ▸ ⟨rfl, rfl⟩

theorem readUrl_again {given : Option Json} {value : Option String} (clean : Clean (readUrl given) value) :
    Clean (readUrl (value.map Json.text)) value := by
  cases value with
  | none => exact ⟨rfl, rfl⟩
  | some url =>
    obtain ⟨-, filled, valid⟩ := readUrl_clean clean
    have read : readUrl (some (.text url)) = .ofProblems (some url) [] := by simp [readUrl, readOptional, filled, valid]
    exact read ▸ clean_ofProblems_nil _

def Unescaped (text : List Char) : Prop := ¬ ['\\', 'n'] <:+: text

/-- No n comes first that did not come first before. -/
theorem expandLineEnds_starts {text rest : List Char} (starts : expandLineEnds text = 'n' :: rest) :
    ∃ more, text = 'n' :: more := by
  unfold expandLineEnds at starts
  split at starts
  · cases starts
  next c more _ =>
    obtain ⟨rfl, -⟩ := List.cons.inj starts
    exact ⟨more, rfl⟩
  · cases starts

theorem expandLineEnds_unescaped (text : List Char) : Unescaped (expandLineEnds text) := by
  unfold Unescaped
  fun_induction expandLineEnds text with
  | case1 rest ih =>
    rw [List.infix_cons_iff, not_or]
    exact ⟨by simp, ih⟩
  | case2 c rest apart ih =>
    rw [List.infix_cons_iff, not_or, List.cons_prefix_cons]
    refine ⟨?_, ih⟩
    rintro ⟨rfl, more, begun⟩
    obtain ⟨later, rfl⟩ := expandLineEnds_starts begun.symm
    exact apart _ rfl rfl
  | case3 => simp

theorem Unescaped.expanded {text : List Char} (unescaped : Unescaped text) : expandLineEnds text = text := by
  unfold Unescaped at unescaped
  fun_induction expandLineEnds text with
  | case1 rest ih => exact absurd (List.infix_append [] ['\\', 'n'] rest) unescaped
  | case2 c rest apart ih =>
    rw [List.infix_cons_iff, not_or] at unescaped
    rw [ih unescaped.2]
  | case3 => rfl

theorem Unescaped.trimmed {text : List Char} (unescaped : Unescaped text) : Unescaped (Text.trimmed text) := by
  obtain ⟨before, after, whole, -, -⟩ := trimmed_splits text
  have inside : Text.trimmed text <:+: text := ⟨before, after, whole.symm⟩
  exact fun escaped => unescaped (escaped.trans inside)

/-- A key without escapes and without blanks around it is kept as it is. -/
theorem readPublicKey_kept {pem : List Char} (unescaped : Unescaped pem) (bare : Bare pem)
    (marked : Text.occursIn Crypto.PublicKey.beginMarker.toList pem = true) :
    readPublicKey (some (.text (String.ofList pem))) = .good (some (String.ofList pem)) := by
  have unblank : Text.isBlankText (String.ofList pem) = false := by
    cases pem with
    | nil => exact absurd marked (by decide)
    | cons c rest => simp [Text.isBlankText, bare.first c rfl]
  simp [readPublicKey, unblank, unescaped.expanded, bare.trimmed, marked, Reading.ofProblems]

theorem readPublicKey_again {given : Option Json} {value : Option String} (clean : Clean (readPublicKey given) value) :
    Clean (readPublicKey (value.map Json.text)) value := by
  cases value with
  | none => exact ⟨rfl, rfl⟩
  | some pem =>
    unfold readPublicKey at clean
    split at clean
    next text =>
      split at clean
      · cases clean_good clean
      · obtain ⟨same, sound⟩ := clean_ofProblems clean
        cases same
        have unescaped := (expandLineEnds_unescaped text.toList).trimmed
        rw [Option.map_some, readPublicKey_kept unescaped (trimmed_bare _) (by simpa using sound)]
        exact ⟨rfl, rfl⟩
    · cases clean_good clean

theorem readAlgorithm_again (algorithm : SigningAlgorithm) :
    Clean (readAlgorithm (some (.text algorithm.toText))) algorithm := by
  obtain ⟨scheme, digest⟩ := algorithm
  cases scheme <;> cases digest <;> exact ⟨rfl, rfl⟩

/-- A variable is left out when there is nothing to tell of it. -/
def fieldOf (entry : String × Option Json) : Option (String × Json) := entry.2.map (entry.1, ·)

theorem get?_unlisted {entries : List (String × Option Json)} {name : String} (unlisted : name ∉ entries.map (·.1)) :
    Fields.get? (entries.filterMap fieldOf) name = none := by
  rw [Fields.get?, Option.map_eq_none_iff, List.find?_eq_none]
  intro field member found
  obtain ⟨entry, listed, written⟩ := List.mem_filterMap.mp member
  obtain ⟨value, -, rfl⟩ := Option.map_eq_some_iff.mp written
  exact unlisted (List.mem_map.mpr ⟨entry, listed, by simpa using found⟩)

theorem get?_listed {entries : List (String × Option Json)} (apart : (entries.map (·.1)).Nodup) {name : String}
    {value : Option Json} (listed : (name, value) ∈ entries) :
    Fields.get? (entries.filterMap fieldOf) name = value := by
  induction entries with
  | nil => cases listed
  | cons entry rest ih =>
    obtain ⟨first, given⟩ := entry
    rw [List.map_cons, List.nodup_cons] at apart
    rcases List.mem_cons.mp listed with same | later
    · cases same
      cases value with
      | none =>
        have missing : Fields.get? (rest.filterMap fieldOf) name = none := get?_unlisted apart.1
        exact missing
      | some value => simp [Fields.get?, fieldOf]
    · have other : first ≠ name := by
        rintro rfl
        exact apart.1 (List.mem_map.mpr ⟨_, later, rfl⟩)
      rw [← ih apart.2 later]
      cases given with
      | none => rfl
      | some given => simp [Fields.get?, fieldOf, other]

def entriesOf (settings : Settings) : List (String × Option Json) :=
  [("NODE_ENV", some (.text settings.runMode.toText)), ("PORT", some (.ofNat settings.port)),
    ("LOG_LEVEL", some (.text settings.logLevel.toText)), ("DATABASE_URL", some (.text settings.databaseUrl)),
    ("QUERY_TIMEOUT_MS", some (.ofNat settings.queryTimeout)), ("PG_POOL_MAX", some (.ofNat settings.poolMax)),
    ("PG_POOL_IDLE_TIMEOUT_MS", some (.ofNat settings.poolIdleTimeout)),
    ("PG_POOL_CONNECTION_TIMEOUT_MS", some (.ofNat settings.poolConnectionTimeout)),
    ("AUTH_MODE", some (.text settings.authMode.toText)),
    ("AUTH_PROVIDER_TYPE", some (.text settings.provider.toText)),
    ("AUTH_PROVIDER_URL", settings.providerUrl.map .text), ("AUTH_PROVIDER_ISSUER", settings.providerIssuer.map .text),
    ("JWT_ALGORITHM", some (.text settings.algorithm.toText)), ("JWT_PUBLIC_KEY", settings.publicKeyPem.map .text),
    ("ENFORCE_TENANT_ISOLATION", some (.boolean settings.enforceIsolation)),
    ("REQUEST_ID_HEADER", some (.text settings.requestIdHeader))]

theorem toFields_entries (settings : Settings) : settings.toFields = (entriesOf settings).filterMap fieldOf := by
  unfold toFields entriesOf
  cases settings.providerUrl <;> cases settings.providerIssuer <;> cases settings.publicKeyPem <;> rfl

theorem entries_apart (settings : Settings) : ((entriesOf settings).map (·.1)).Nodup := by
  change (allVariables.map Variable.name).Nodup
  decide

theorem toFields_found (settings : Settings) :
    ∀ entry ∈ entriesOf settings, settings.toFields.get? entry.1 = entry.2 := by
  intro entry listed
  rw [toFields_entries]
  exact get?_listed (entries_apart settings) listed

theorem Cleared.again {source : Fields} {settings : Settings} (cleared : Cleared (.ofSource source) settings) :
    Cleared (.ofSource settings.toFields) settings := by
  have found := toFields_found settings
  simp only [entriesOf, List.forall_mem_cons] at found
  obtain ⟨runMode, port, logLevel, databaseUrl, queryTimeout, poolMax, poolIdleTimeout, poolConnectionTimeout, authMode,
    provider, providerUrl, providerIssuer, algorithm, publicKeyPem, enforceIsolation, requestIdHeader, -⟩ := found
  unfold Readings.ofSource
  rw [runMode, port, logLevel, databaseUrl, queryTimeout, poolMax, poolIdleTimeout, poolConnectionTimeout, authMode,
    provider, providerUrl, providerIssuer, algorithm, publicKeyPem, enforceIsolation, requestIdHeader]
  exact {
    runMode := readNamed_again rfl (by decide) cleared.runMode
    port := readWhole_again (by decide) (by decide) (by decide) cleared.port
    logLevel := readNamed_again rfl (by decide) cleared.logLevel
    databaseUrl := readText_again (by decide) cleared.databaseUrl
    queryTimeout := readWhole_again (by decide) (by decide) (by decide) cleared.queryTimeout
    poolMax := readWhole_again (by decide) (by decide) (by decide) cleared.poolMax
    poolIdleTimeout := readWhole_again (by decide) (by decide) (by decide) cleared.poolIdleTimeout
    poolConnectionTimeout := readWhole_again (by decide) (by decide) (by decide) cleared.poolConnectionTimeout
    authMode := readNamed_again rfl (by decide) cleared.authMode
    provider := readNamed_again rfl (by decide) cleared.provider
    providerUrl := readUrl_again cleared.providerUrl
    providerIssuer := readOptional_again cleared.providerIssuer
    algorithm := readAlgorithm_again settings.algorithm
    publicKeyPem := readPublicKey_again cleared.publicKeyPem
    enforceIsolation := ⟨rfl, rfl⟩
    requestIdHeader := readText_again (by decide) cleared.requestIdHeader }

/-- Loading what was loaded, in the form in which it is kept, gives the same once more. -/
theorem reloaded_unchanged {source : Fields} {settings : Settings} (loaded : load source = .ok settings) :
    load settings.toFields = .ok settings := by
  obtain ⟨cleared, joint⟩ := (load_iff ..).mp loaded
  exact (load_iff ..).mpr ⟨cleared.again, joint⟩

/-- Numbers and words between blanks, an issuer that is blank, and a key with escapes and blanks around it. -/
def looseSource : Fields :=
  [("DATABASE_URL", .text " postgres://db "), ("PORT", .text " 0x1F90 "), ("QUERY_TIMEOUT_MS", .text ""),
    ("PG_POOL_MAX", .text "2e2"), ("AUTH_PROVIDER_TYPE", .text "ory"),
    ("AUTH_PROVIDER_URL", .text " https://id.example/ "), ("AUTH_PROVIDER_ISSUER", .text " \t"),
    ("ENFORCE_TENANT_ISOLATION", .text " Off "),
    ("JWT_PUBLIC_KEY", .text " \\n-----BEGIN PUBLIC KEY-----\\n\\\\nn ")]

def looseSettings : Settings where
  runMode := .development
  port := 8080
  logLevel := .info
  databaseUrl := " postgres://db "
  queryTimeout := 5000
  poolMax := 200
  poolIdleTimeout := 30000
  poolConnectionTimeout := 5000
  authMode := .token
  provider := .ory
  providerUrl := some " https://id.example/ "
  providerIssuer := none
  algorithm := ⟨.rsaPkcs1, .bits256⟩
  publicKeyPem := some "-----BEGIN PUBLIC KEY-----\n\\\nn"
  enforceIsolation := false
  requestIdHeader := "x-request-id"

theorem reloaded_unchanged_loose :
    load looseSource = .ok looseSettings ∧ load looseSettings.toFields = .ok looseSettings := by
  have loaded : load looseSource = .ok looseSettings := by decide +kernel
  exact ⟨loaded, reloaded_unchanged loaded⟩

end TenantAccess.Proofs
