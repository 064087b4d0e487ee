import TenantAccess.Identity.Mapping
import TenantAccess.Proofs.FlowRuns
import TenantAccess.Proofs.OrganizationChoice

/-! Whom a record of claims stands for. Five claims are looked at and no others. Where two may say the same thing, the
first that is given decides, whether or not what it holds can be used. -/

namespace TenantAccess.Proofs

/-- A claim that is there, and neither null nor the empty text. -/
def Given (claims : Fields) (name : String) (value : Json) : Prop :=
  claims.get? name = some value ∧ value ≠ .null ∧ value ≠ .text ""

def Ungiven (claims : Fields) (name : String) : Prop := ∀ value, ¬ Given claims name value

inductive FirstGiven (claims : Fields) (first second : String) : Option Json → Prop where
  | first {value : Json} (given : Given claims first value) : FirstGiven claims first second (some value)
  | second {value : Json} (ungiven : Ungiven claims first) (given : Given claims second value) :
      FirstGiven claims first second (some value)
  | neither (ungiven : Ungiven claims first) (bare : Ungiven claims second) : FirstGiven claims first second none

def NamesSubject (claims : Fields) (subject : String) : Prop :=
  ∃ text, claims.get? "sub" = some (.text text) ∧ Holds text subject

def Unidentifying (value : Json) : Prop := ∀ text identifier, value = .text text → ¬ Holds text identifier

def ignoredEntry (subject : String) : LogEntry :=
  ⟨.warn, [LogEntry.text "subjectId" subject], "ignoring malformed organization claim"⟩

/-- What is made of the organization that the claims name, if they name any, and what is reported of it. -/
inductive Affiliates (subject : String) : Option Json → Option String → List LogEntry → Prop where
  | unaffiliated : Affiliates subject none none []
  | named {text organization : String} (held : Holds text organization) :
      Affiliates subject (some (.text text)) (some organization) []
  | malformed {value : Json} (unidentifying : Unidentifying value) :
      Affiliates subject (some value) none [ignoredEntry subject]

/-- What the claims come to, and what is reported on the way. -/
inductive Mapping (claims : Fields) : Except ClaimsRejection Identity → List LogEntry → Prop where
  | mapped {subject email : String} {named : Option Json} {organization : Option String} {entries : List LogEntry}
      (subjected : NamesSubject claims subject)
      (addressed : FirstGiven claims "email" "preferred_username" (some (.text email)))
      (naming : FirstGiven claims "org_id" "organization_id" named)
      (affiliates : Affiliates subject named organization entries) :
      Mapping claims (.ok ⟨subject, email, organization⟩) entries
  | subjectless (ungiven : Ungiven claims "sub") : Mapping claims (.error .missingSubject) []
  | malformed {value : Json} (given : Given claims "sub" value) (unidentifying : Unidentifying value) :
      Mapping claims (.error .malformedSubject) []
  | unaddressed {subject : String} {value : Option Json} (subjected : NamesSubject claims subject)
      (found : FirstGiven claims "email" "preferred_username" value)
      (textless : ∀ email, value ≠ some (.text email)) : Mapping claims (.error .missingEmail) []

def reporting (entry : LogEntry) : Exchanged := ⟨.report entry, ()⟩

section
variable {claims : Fields}

theorem claim?_given (claims : Fields) (name : String) (value : Json) :
    Identity.claim? claims name = some value ↔ Given claims name value := by
  unfold Identity.claim? Given
  cases claims.get? name with
  | none => simp
  | some found =>
    cases found with
    | null => simp +contextual [eq_comm]
    | text text =>
      by_cases empty : text = ""
      · simp +contextual [empty, eq_comm]
      · simp only [if_neg empty, Option.some.injEq]
        refine ⟨fun same => ⟨same, same ▸ nofun, fun blank => empty ?_⟩, And.left⟩
        exact Json.text.inj (same.trans blank)
    | _ =>
      simp only [Option.some.injEq]
      exact ⟨fun same => ⟨same, same ▸ nofun, same ▸ nofun⟩, And.left⟩

theorem claim?_ungiven (claims : Fields) (name : String) :
    Identity.claim? claims name = none ↔ Ungiven claims name := by
  simp only [Option.eq_none_iff_forall_ne_some, ne_eq, claim?_given, Ungiven]

theorem firstClaim?_first (claims : Fields) (first second : String) :
    FirstGiven claims first second (Identity.firstClaim? claims [first, second]) := by
  unfold Identity.firstClaim?
  rw [List.findSome?_cons]
  cases one : Identity.claim? claims first with
  | some value => exact .first ((claim?_given ..).mp one)
  | none =>
    have ungiven := (claim?_ungiven ..).mp one
    rw [List.findSome?_cons, List.findSome?_nil]
    cases two : Identity.claim? claims second with
    | some value => exact .second ungiven ((claim?_given ..).mp two)
    | none => exact .neither ungiven ((claim?_ungiven ..).mp two)

theorem FirstGiven.unique {first second : String} {value other : Option Json}
    (one : FirstGiven claims first second value) (two : FirstGiven claims first second other) : value = other := by
  have same {name : String} {value other : Json} (one : Given claims name value) (two : Given claims name other) :
      some value = some other := one.1.symm.trans two.1
  cases one with
  | first given => cases two with
    | first again => exact same given again
    | second ungiven => exact absurd given (ungiven _)
    | neither ungiven => exact absurd given (ungiven _)
  | second ungiven given => cases two with
    | first again => exact absurd again (ungiven _)
    | second _ again => exact same given again
    | neither _ bare => exact absurd given (bare _)
  | neither ungiven bare => cases two with
    | first again => exact absurd again (ungiven _)
    | second _ again => exact absurd again (bare _)
    | neither => rfl

theorem ofJson?_unidentifying (value : Json) : Uuid.ofJson? value = none ↔ Unidentifying value := by
  simp only [Option.eq_none_iff_forall_ne_some, ne_eq, ofJson?_holds, Unidentifying, not_exists, not_and]
  exact forall_comm

/-- A claim that could not be read is reported; one that was not given is not. -/
theorem organization_affiliates (subject : String) (named : Option Json) :
    Affiliates subject named (named.bind Uuid.ofJson?)
      (if named.isSome && (named.bind Uuid.ofJson?).isNone then [ignoredEntry subject] else []) := by
  cases named with
  | none => exact .unaffiliated
  | some value =>
    rw [Option.bind_some]
    cases read : Uuid.ofJson? value with
    | none => exact .malformed ((ofJson?_unidentifying value).mp read)
    | some organization =>
      obtain ⟨text, rfl, held⟩ := (ofJson?_holds ..).mp read
      exact .named held

theorem NamesSubject.given {subject : String} (subjected : NamesSubject claims subject) : ¬ Ungiven claims "sub" := by
  obtain ⟨text, found, held⟩ := subjected
  exact fun ungiven => ungiven _ ⟨found, nofun, fun same => held.filled (Json.text.inj same)⟩

theorem NamesSubject.identifying {subject : String} (subjected : NamesSubject claims subject) {value : Json}
    (given : Given claims "sub" value) : ¬ Unidentifying value := by
  obtain ⟨text, found, held⟩ := subjected
  have same : value = .text text := Option.some.inj (given.1.symm.trans found)
  exact fun unidentifying => unidentifying text subject same held

theorem NamesSubject.unique {subject other : String} (one : NamesSubject claims subject)
    (two : NamesSubject claims other) : subject = other := by
  obtain ⟨text, found, held⟩ := one
  obtain ⟨again, same, holds⟩ := two
  obtain rfl : text = again := by simpa using found.symm.trans same
  exact held.unique holds

theorem Affiliates.unique {subject : String} {named : Option Json} {organization other : Option String}
    {entries more : List LogEntry} (one : Affiliates subject named organization entries)
    (two : Affiliates subject named other more) : organization = other ∧ entries = more := by
  cases one with
  | unaffiliated =>
    cases two
    exact ⟨rfl, rfl⟩
  | named held => cases two with
    | named holds => exact ⟨congrArg some (held.unique holds), rfl⟩
    | malformed unidentifying => exact absurd held (unidentifying _ _ rfl)
  | malformed unidentifying => cases two with
    | named held => exact absurd held (unidentifying _ _ rfl)
    | malformed => exact ⟨rfl, rfl⟩

theorem Mapping.unique {result other : Except ClaimsRejection Identity} {entries more : List LogEntry}
    (one : Mapping claims result entries) (two : Mapping claims other more) : result = other ∧ entries = more := by
  cases one with
  | mapped subjected addressed naming affiliates => cases two with
    | mapped again found called joins =>
      obtain rfl := subjected.unique again
      cases addressed.unique found
      obtain rfl := naming.unique called
      obtain ⟨rfl, rfl⟩ := affiliates.unique joins
      exact ⟨rfl, rfl⟩
    | subjectless ungiven => exact absurd ungiven subjected.given
    | malformed given unidentifying => exact absurd unidentifying (subjected.identifying given)
    | unaddressed _ found textless => exact absurd (found.unique addressed) (textless _)
  | subjectless ungiven => cases two with
    | mapped subjected => exact absurd ungiven subjected.given
    | subjectless => exact ⟨rfl, rfl⟩
    | malformed given => exact absurd given (ungiven _)
    | unaddressed subjected => exact absurd ungiven subjected.given
  | malformed given unidentifying => cases two with
    | mapped subjected => exact absurd unidentifying (subjected.identifying given)
    | subjectless ungiven => exact absurd given (ungiven _)
    | malformed => exact ⟨rfl, rfl⟩
    | unaddressed subjected => exact absurd unidentifying (subjected.identifying given)
  | unaddressed subjected found textless => cases two with
    | mapped _ addressed => exact absurd (found.unique addressed) (textless _)
    | subjectless ungiven => exact absurd ungiven subjected.given
    | malformed given unidentifying => exact absurd unidentifying (subjected.identifying given)
    | unaddressed => exact ⟨rfl, rfl⟩

def mappedEntries : Except ClaimsRejection MappedClaims → List LogEntry
  | .ok mapped => if mapped.organizationIgnored then [ignoredEntry mapped.identity.subject] else []
  | .error _ => []

theorem ofClaims_mapping (claims : Fields) :
    Mapping claims ((Identity.ofClaims claims).map (·.identity)) (mappedEntries (Identity.ofClaims claims)) := by
  unfold Identity.ofClaims
  cases sub : Identity.claim? claims "sub" with
  | none => exact .subjectless ((claim?_ungiven ..).mp sub)
  | some value =>
    have given : Given claims "sub" value := (claim?_given ..).mp sub
    cases read : Uuid.ofJson? value with
    | none =>
      simp only [read]
      exact .malformed given ((ofJson?_unidentifying value).mp read)
    | some subject =>
      obtain ⟨text, rfl, held⟩ := (ofJson?_holds ..).mp read
      have subjected : NamesSubject claims subject := ⟨text, given.1, held⟩
      have addressed := firstClaim?_first claims "email" "preferred_username"
      have naming := firstClaim?_first claims "org_id" "organization_id"
      simp only [read]
      split
      next email found => exact .mapped subjected (found ▸ addressed) naming (organization_affiliates subject _)
      next textless => exact .unaddressed subjected addressed textless

theorem readClaims_reports (claims : Fields) : Runs (Identity.readClaims claims)
    ((mappedEntries (Identity.ofClaims claims)).map reporting) ((Identity.ofClaims claims).map (·.identity)) := by
  unfold Identity.readClaims
  cases Identity.ofClaims claims with
  | error rejection => exact .done _
  | ok mapped =>
    dsimp only [mappedEntries]
    split
    · exact .ask _ (.done _)
    · exact .done _

/-- Mapping asks the world for nothing, so it always runs alike. -/
theorem readClaims_settled {history : List Exchanged} {result : Except ClaimsRejection Identity}
    (runs : Runs (Identity.readClaims claims) history result) :
    history = (mappedEntries (Identity.ofClaims claims)).map reporting ∧
      result = (Identity.ofClaims claims).map (·.identity) := by
  unfold Identity.readClaims at runs
  cases found : Identity.ofClaims claims with
  | error rejection =>
    simp only [found] at runs
    obtain ⟨rfl, rfl⟩ := runs.ended
    exact ⟨rfl, rfl⟩
  | ok mapped =>
    simp only [found] at runs
    dsimp only [mappedEntries]
    split at runs
    next ignored =>
      obtain ⟨-, rest, rfl, ended⟩ := runs.asked
      obtain ⟨rfl, rfl⟩ := ended.ended
      rw [if_pos ignored]
      exact ⟨rfl, rfl⟩
    next kept =>
      obtain ⟨rfl, rfl⟩ := runs.ended
      rw [if_neg kept]
      exact ⟨rfl, rfl⟩

/-- What the claims come to is what their mapping says, in every run. -/
theorem readClaims_iff (claims : Fields) (result : Except ClaimsRejection Identity) (entries : List LogEntry) :
    Runs (Identity.readClaims claims) (entries.map reporting) result ↔ Mapping claims result entries := by
  have mapping := ofClaims_mapping claims
  constructor
  · intro runs
    have apart (one two : LogEntry) (same : reporting one = reporting two) : one = two := by
      cases same
      rfl
    obtain ⟨told, rfl⟩ := readClaims_settled runs
    obtain rfl := (List.map_inj_right apart).mp told
    exact mapping
  · intro mapped
    obtain ⟨rfl, rfl⟩ := mapped.unique mapping
    exact readClaims_reports claims

end

def lookedAt : List String := ["sub", "email", "preferred_username", "org_id", "organization_id"]

/-- Claims that say the same under the names that are looked at. -/
def SaySame (claims other : Fields) : Prop := ∀ name ∈ lookedAt, claims.get? name = other.get? name

theorem SaySame.claim? {claims other : Fields} (same : SaySame claims other) (name : String)
    (looked : name ∈ lookedAt) : Identity.claim? claims name = Identity.claim? other name := by
  rw [Identity.claim?, Identity.claim?, same name looked]

theorem SaySame.ofClaims {claims other : Fields} (same : SaySame claims other) :
    Identity.ofClaims claims = Identity.ofClaims other := by
  simp only [Identity.ofClaims, Identity.firstClaim?, List.findSome?_cons, List.findSome?_nil,
    same.claim? "sub" (by decide), same.claim? "email" (by decide), same.claim? "preferred_username" (by decide),
    same.claim? "org_id" (by decide), same.claim? "organization_id" (by decide)]

/-- A record of claims comes to what its five claims say and to nothing else, with at most one report on the way. It is
an identity exactly when the subject holds an identifier and the first address that is given is a text. Another record
that says the same under the five names is treated alike, whatever else it holds. -/
theorem five_claims_decide (claims : Fields) (world : World σ) (state : σ) :
    (∀ result entries, Mapping claims result entries ↔
      ((Identity.readClaims claims).run world state).1 = result ∧
        (Identity.readClaims claims).trace world state = entries.map reporting) ∧
    ((∃ identity, ((Identity.readClaims claims).run world state).1 = .ok identity) ↔
      (∃ subject, NamesSubject claims subject) ∧
        ∃ email, FirstGiven claims "email" "preferred_username" (some (.text email))) ∧
    ∀ other, SaySame claims other → Identity.readClaims other = Identity.readClaims claims := by
  have runs := trace_runs (Identity.readClaims claims) world state
  obtain ⟨told, settled⟩ := readClaims_settled runs
  have mapping := ofClaims_mapping claims
  rw [← settled] at mapping
  refine ⟨fun result entries => ?_, ⟨?_, ?_⟩, fun other same => ?_⟩
  · rw [← readClaims_iff]
    constructor
    · intro again
      obtain ⟨traced, came⟩ := readClaims_settled again
      exact ⟨settled.trans came.symm, told.trans traced.symm⟩
    · rintro ⟨rfl, traced⟩
      exact traced ▸ runs
  · rintro ⟨identity, mapped⟩
    rw [mapped] at mapping
    cases mapping with
    | mapped subjected addressed => exact ⟨⟨_, subjected⟩, _, addressed⟩
  · rintro ⟨⟨subject, subjected⟩, email, addressed⟩
    have mapped := Mapping.mapped subjected addressed (firstClaim?_first claims "org_id" "organization_id")
      (organization_affiliates subject _)
    exact ⟨_, (mapped.unique mapping).1.symm⟩
  · rw [Identity.readClaims, Identity.readClaims, same.ofClaims]

end TenantAccess.Proofs
