import TenantAccess.Proofs.CanonicalIdentifiers
import TenantAccess.Tenant.Resolution

/-! Which organization a request is about. The identity, the path and the query are asked in this order, and the
first of them that says anything decides alone: what the others hold does not matter, nor does the way in which
the deciding value is spelled. -/

namespace TenantAccess.Proofs

inductive Ruling where
  | found (organization : String) (source : TenantSource)
  | refused (status : Nat) (message : String)

def ruling : Except ResolutionFailure ResolvedTenant → Ruling
  | .ok tenant => .found tenant.organization tenant.source
  | .error failure => .refused failure.status failure.message

/-- The identity names this organization; an empty text names none. -/
def Owns (identity : Identity) (organization : String) : Prop :=
  identity.organization = some organization ∧ organization ≠ ""

def Unaffiliated (identity : Identity) : Prop := ∀ organization, ¬ Owns identity organization

/-- What comes of a path parameter that is there, with a value or without one. -/
inductive PathRuling : Option Json → Ruling → Prop where
  | found {text organization : String} (held : Holds text organization) :
      PathRuling (some (.text text)) (.found organization .path)
  | malformed {value : Option Json}
      (unheld : ∀ text organization, value = some (.text text) → ¬ Holds text organization) :
      PathRuling value (.refused 400 "invalid organization id format in path")

/-- What comes of a query parameter. One that is left empty counts as absent, one that is blank does not. -/
inductive QueryRuling : Option Json → Ruling → Prop where
  | absent {value : Option Json} (empty : value = none ∨ value = some (.text "")) :
      QueryRuling value (.refused 403 "organization context required but not provided")
  | found {text organization : String} (held : Holds text organization) :
      QueryRuling (some (.text text)) (.found organization .query)
  | malformed {value : Json} (filled : value ≠ .text "")
      (unheld : ∀ text organization, value = .text text → ¬ Holds text organization) :
      QueryRuling (some value) (.refused 400 "invalid organization id format in query")

/-- The same value, or a text that holds an identifier and the same text in another spelling. -/
inductive SameMention : Option Json → Option Json → Prop where
  | same (value : Option Json) : SameMention value value
  | respelled {text other organization : String} (held : Holds text organization)
      (respelled : Respelled text other) : SameMention (some (.text text)) (some (.text other))

/-- Two requests that agree where the decision falls. Whatever else they hold may differ. -/
inductive Agree : Identity → List (String × Option Json) → Fields →
    Identity → List (String × Option Json) → Fields → Prop where
  | identity {one other : Identity} {params others : List (String × Option Json)} {query another : Fields}
      {organization : String} (first : Owns one organization) (second : Owns other organization) :
      Agree one params query other others another
  | path {one other : Identity} {params others : List (String × Option Json)} {query another : Fields}
      {value written : Option Json} (first : Unaffiliated one) (second : Unaffiliated other)
      (given : params.lookup "org_id" = some value) (again : others.lookup "org_id" = some written)
      (alike : SameMention value written) : Agree one params query other others another
  | query {one other : Identity} {params others : List (String × Option Json)} {query another : Fields}
      (first : Unaffiliated one) (second : Unaffiliated other) (pathless : params.lookup "org_id" = none)
      (bare : others.lookup "org_id" = none) (alike : SameMention (query.get? "org_id") (another.get? "org_id")) :
      Agree one params query other others another

/-- What a resolution comes to, by the first place that says anything. -/
structure Ranked (identity : Identity) (params : List (String × Option Json)) (query : Fields)
    (told : Ruling) : Prop where
  own : ∀ organization, Owns identity organization → told = .found organization .token
  path : Unaffiliated identity → ∀ value, params.lookup "org_id" = some value → PathRuling value told
  query : Unaffiliated identity → params.lookup "org_id" = none → QueryRuling (query.get? "org_id") told
  canonical : ∀ organization source, told = .found organization source → source ≠ .token → Canonical organization

variable {identity : Identity} {params : List (String × Option Json)} {query : Fields}

theorem lookup_found (name : String) (params : List (String × α)) :
    params.lookup name = (params.find? (·.1 == name)).map (·.2) := by
  induction params with
  | nil => rfl
  | cons param rest ih =>
    obtain ⟨own, value⟩ := param
    rw [List.lookup_cons, List.find?_cons, BEq.comm]
    cases own == name with
    | true => rfl
    | false => exact ih

theorem inPath_lookup (params : List (String × Option Json)) : Mention.inPath params =
    match params.lookup "org_id" with
    | none => .absent
    | some value => .ofUuid (value.bind Uuid.ofJson?) := by
  unfold Mention.inPath Mention.parameterName
  rw [lookup_found]
  cases params.find? (·.1 == "org_id") <;> rfl

theorem resolve_owned {organization : String} (owned : Owns identity organization)
    (params : List (String × Option Json)) (query : Fields) :
    ResolvedTenant.resolve identity params query = .ok ⟨organization, .token⟩ := by
  simp only [ResolvedTenant.resolve, owned.1, if_neg owned.2]

theorem resolve_unaffiliated (unaffiliated : Unaffiliated identity) (params : List (String × Option Json))
    (query : Fields) : ResolvedTenant.resolve identity params query = ResolvedTenant.ofRequest params query := by
  unfold ResolvedTenant.resolve
  split
  next organization given =>
    exact if_pos (Decidable.byContradiction fun named => unaffiliated organization ⟨given, named⟩)
  · rfl

theorem path_ruled {value : Option Json} (given : params.lookup "org_id" = some value) (query : Fields) :
    ResolvedTenant.ofRequest params query = match value.bind Uuid.ofJson? with
      | some organization => .ok ⟨organization, .path⟩
      | none => .error .malformedPath := by
  simp only [ResolvedTenant.ofRequest, inPath_lookup, given]
  cases value.bind Uuid.ofJson? <;> rfl

theorem query_ruled (pathless : params.lookup "org_id" = none) (query : Fields) :
    ResolvedTenant.ofRequest params query = match Mention.inQuery query with
      | .malformed => .error .malformedQuery
      | .found organization => .ok ⟨organization, .query⟩
      | .absent => .error .notProvided := by
  cases mentioned : Mention.inQuery query <;>
    simp only [ResolvedTenant.ofRequest, inPath_lookup, pathless, mentioned]

theorem path_rules {value : Option Json} (given : params.lookup "org_id" = some value) (query : Fields) :
    PathRuling value (ruling (ResolvedTenant.ofRequest params query)) := by
  rw [path_ruled given]
  cases read : value.bind Uuid.ofJson? with
  | some organization =>
    obtain ⟨value, rfl, read⟩ := Option.bind_eq_some_iff.mp read
    obtain ⟨text, rfl, held⟩ := (ofJson?_holds value organization).mp read
    exact .found held
  | none =>
    refine .malformed fun text organization same held => ?_
    rw [same, Option.bind_some, (ofJson?_holds _ organization).mpr ⟨text, rfl, held⟩] at read
    cases read

theorem query_rules (pathless : params.lookup "org_id" = none) (query : Fields) :
    QueryRuling (query.get? "org_id") (ruling (ResolvedTenant.ofRequest params query)) := by
  rw [query_ruled pathless, Mention.inQuery, Mention.parameterName]
  cases query.get? "org_id" with
  | none => exact .absent (.inl rfl)
  | some value =>
    cases value with
    | text text =>
      by_cases empty : text = ""
      · subst empty
        exact .absent (.inr rfl)
      · simp only [if_neg empty]
        cases read : Uuid.parse? text with
        | some organization => exact .found ((parse?_holds text organization).mp read)
        | none =>
          refine .malformed (fun same => empty (Json.text.inj same)) fun other organization same held => ?_
          rw [Json.text.inj same, (parse?_holds other organization).mpr held] at read
          cases read
    | _ => exact .malformed nofun nofun

theorem PathRuling.canonical {value : Option Json} {organization : String} {source : TenantSource}
    (ruled : PathRuling value (.found organization source)) : Canonical organization := by
  cases ruled with
  | found held => exact held.canonical

theorem QueryRuling.canonical {value : Option Json} {organization : String} {source : TenantSource}
    (ruled : QueryRuling value (.found organization source)) : Canonical organization := by
  cases ruled with
  | found held => exact held.canonical

theorem resolve_ranked (identity : Identity) (params : List (String × Option Json)) (query : Fields) :
    Ranked identity params query (ruling (ResolvedTenant.resolve identity params query)) := by
  have path (unaffiliated : Unaffiliated identity) (value : Option Json)
      (given : params.lookup "org_id" = some value) :
      PathRuling value (ruling (ResolvedTenant.resolve identity params query)) :=
    resolve_unaffiliated unaffiliated params query ▸ path_rules given query
  have asked (unaffiliated : Unaffiliated identity) (pathless : params.lookup "org_id" = none) :
      QueryRuling (query.get? "org_id") (ruling (ResolvedTenant.resolve identity params query)) :=
    resolve_unaffiliated unaffiliated params query ▸ query_rules pathless query
  refine ⟨fun organization owned => by rw [resolve_owned owned]; rfl, path, asked, ?_⟩
  intro organization source found foreign
  by_cases affiliated : ∃ own, Owns identity own
  · obtain ⟨own, owned⟩ := affiliated
    rw [resolve_owned owned] at found
    cases found
    exact absurd rfl foreign
  · have unaffiliated : Unaffiliated identity := fun own owned => affiliated ⟨own, owned⟩
    cases given : params.lookup "org_id" with
    | some value => exact (found ▸ path unaffiliated value given).canonical
    | none => exact (found ▸ asked unaffiliated given).canonical

theorem SameMention.read {value written : Option Json} (alike : SameMention value written) :
    value.bind Uuid.ofJson? = written.bind Uuid.ofJson? := by
  cases alike with
  | same => rfl
  | respelled held respelled => exact respelled.parsed

theorem Holds.filled {text organization : String} (held : Holds text organization) : text ≠ "" := by
  rintro rfl
  have nothing : Uuid.parse? "" = none := by decide
  rw [(parse?_holds ..).mpr held] at nothing
  cases nothing

theorem SameMention.mentioned {query another : Fields}
    (alike : SameMention (query.get? "org_id") (another.get? "org_id")) :
    Mention.inQuery query = Mention.inQuery another := by
  unfold Mention.inQuery Mention.parameterName
  generalize query.get? "org_id" = value at alike
  generalize another.get? "org_id" = written at alike
  cases alike with
  | same => rfl
  | @respelled text other organization held respelled =>
    have read := respelled.parsed
    -- The other spelling holds the identifier as well, so neither text counts as left empty.
    have again : Holds other organization := (parse?_holds ..).mp (read.symm.trans ((parse?_holds ..).mpr held))
    simp only [if_neg held.filled, if_neg again.filled, read]

/-- The identity's own organization is the answer whatever path and query say; without one the path parameter
decides whatever the query says, and only without that the query. Whoever agrees there gets the same answer, and
an organization that is read from the request comes in its one form. -/
theorem organizations_ranked (identity : Identity) (params : List (String × Option Json)) (query : Fields) :
    Ranked identity params query (ruling (ResolvedTenant.resolve identity params query)) ∧
      ∀ other others another, Agree identity params query other others another →
        ResolvedTenant.resolve identity params query = ResolvedTenant.resolve other others another := by
  refine ⟨resolve_ranked identity params query, fun other others another agree => ?_⟩
  cases agree with
  | identity first second => rw [resolve_owned first, resolve_owned second]
  | path first second given again alike =>
    rw [resolve_unaffiliated first, resolve_unaffiliated second, path_ruled given, path_ruled again, alike.read]
  | query first second pathless bare alike =>
    rw [resolve_unaffiliated first, resolve_unaffiliated second, query_ruled pathless, query_ruled bare,
      alike.mentioned]

end TenantAccess.Proofs
