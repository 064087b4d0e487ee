import TenantAccess.Routing.Router

/-! Tells a caller what the stages before it attached, so that the caller can choose an organization. -/

namespace TenantAccess.CallerContext

def ofIdentity (identity : Identity) : Json :=
  .record [("id", .text identity.subject), ("email", .text identity.email),
    ("organizationId", (identity.organization.map Json.text).getD .null)]

def ofTenant (tenant : TenantContext) : Json :=
  .record [("organizationId", .text tenant.organization), ("userId", .text tenant.user),
    ("role", .text tenant.role)]

def ofRequest (request : Request) : Json :=
  .record [("user", ((request.auth.bind (·.identity)).map ofIdentity).getD .null),
    ("tenant", (request.tenant.map ofTenant).getD .null)]

def tell : Stage := fun request _ => Flow.respond (.json 200 (ofRequest request))

def routes : List Route := [⟨[], [tell]⟩]

end TenantAccess.CallerContext
