import TenantAccess.Sql.Identifier
import TenantAccess.Tenant.Context

/-! Conditions of a query on rows that belong to a tenant. Values never enter the text of a
condition; each is bound to the placeholder of its position. -/

namespace TenantAccess.Sql

structure Conditions where
  predicates : List String
  parameters : List Json
  deriving Repr, BEq

namespace Conditions

def none : Conditions := ⟨[], []⟩

/-- Requires a column, quoted already, to hold the tenant's organization, which is bound to the next
placeholder. -/
def require (conditions : Conditions) (tenant : TenantContext) (quoted : String) : Conditions :=
  let parameters := conditions.parameters ++ [.text tenant.organization]
  ⟨conditions.predicates ++ [quoted ++ " = $" ++ toString parameters.length], parameters⟩

/-- The same for a column of any name; a name with an empty part adds nothing and fails. -/
def restrict (conditions : Conditions) (tenant : TenantContext) (column : String) :
    Except EmptyIdentifier Conditions :=
  match quoteIdentifier column with
  | .error error => .error error
  | .ok quoted => .ok (conditions.require tenant quoted)

def tenantColumn : String := "organization_id"

def clause (conditions : Conditions) : String :=
  if conditions.predicates.isEmpty then ""
  else "WHERE " ++ " AND ".intercalate conditions.predicates

end Conditions
end TenantAccess.Sql
