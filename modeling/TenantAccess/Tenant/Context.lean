import TenantAccess.Text.Lowercase
import TenantAccess.Failure

/-! The organization a request acts in once membership is confirmed. -/

namespace TenantAccess

structure TenantContext where
  organization : String
  user : String
  role : String
  deriving DecidableEq, Repr

namespace TenantContext

/-- A payload may name the tenant's own organization, in any letter case, and no other. -/
def refusal? (tenant : TenantContext) (organization : String) : Option Failure :=
  if Text.lowercase organization = tenant.organization then none
  else some (.ownership "cannot act on a resource of a different organization" Failure.ownershipCode)

end TenantContext
end TenantAccess
