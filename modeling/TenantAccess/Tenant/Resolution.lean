import TenantAccess.Identity.Basic
import TenantAccess.Uuid

/-! Which organization a request is about: the identity's own, else the one in the path, else the
one in the query. The first place that names one decides, and a malformed name there is final. -/

namespace TenantAccess

inductive TenantSource where
  | token
  | path
  | query
  deriving DecidableEq, Repr

def TenantSource.toText : TenantSource → String
  | .token => "token"
  | .path => "path"
  | .query => "query"

inductive ResolutionFailure where
  | malformedPath
  | malformedQuery
  | notProvided
  deriving DecidableEq, Repr

namespace ResolutionFailure

def status : ResolutionFailure → Nat
  | .malformedPath | .malformedQuery => 400
  | .notProvided => 403

def message : ResolutionFailure → String
  | .malformedPath => "invalid organization id format in path"
  | .malformedQuery => "invalid organization id format in query"
  | .notProvided => "organization context required but not provided"

end ResolutionFailure

structure ResolvedTenant where
  organization : String
  source : TenantSource
  deriving DecidableEq, Repr

/-- What one place of the request says: nothing, an organization, or something unreadable. -/
inductive Mention where
  | absent
  | found (organization : String)
  | malformed
  deriving DecidableEq, Repr

namespace Mention

def ofUuid : Option String → Mention
  | some organization => .found organization
  | none => .malformed

def parameterName : String := "org_id"

/-- A path parameter that is there must hold an identifier, even when it has no value. -/
def inPath (params : List (String × Option Json)) : Mention :=
  match params.find? (·.1 == parameterName) with
  | none => .absent
  | some (_, value) => ofUuid (value.bind Uuid.ofJson?)

/-- A query parameter may be left empty. -/
def inQuery (query : Fields) : Mention :=
  match query.get? parameterName with
  | none => .absent
  | some (.text value) => if value = "" then .absent else ofUuid (Uuid.parse? value)
  | some _ => .malformed

end Mention

namespace ResolvedTenant

def ofRequest (params : List (String × Option Json)) (query : Fields) :
    Except ResolutionFailure ResolvedTenant :=
  match Mention.inPath params with
  | .malformed => .error .malformedPath
  | .found organization => .ok ⟨organization, .path⟩
  | .absent => match Mention.inQuery query with
    | .malformed => .error .malformedQuery
    | .found organization => .ok ⟨organization, .query⟩
    | .absent => .error .notProvided

/-- An identity with an empty organization names none. -/
def resolve (identity : Identity) (params : List (String × Option Json)) (query : Fields) :
    Except ResolutionFailure ResolvedTenant :=
  match identity.organization with
  | some organization =>
    if organization = "" then ofRequest params query else .ok ⟨organization, .token⟩
  | none => ofRequest params query

end ResolvedTenant
end TenantAccess
