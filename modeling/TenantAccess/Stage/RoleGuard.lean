import TenantAccess.Role
import TenantAccess.Stage.Basic

/-! A guard on the role that the tenant stage attached. It asks the database nothing. -/

namespace TenantAccess.RoleGuard

open Stage

def insufficient : Answer := .error 403 "insufficient permissions"

def run (required : String) : Stage := fun request next => do
  match request.tenant with
  | none =>
    Flow.report .error [LogEntry.text "path" request.fullPath, LogEntry.text "method" request.method]
      "tenant context not set before role check"
    Flow.respond internalError
  | some tenant =>
    if Role.nameMeets tenant.role required then proceed next request
    else
      Flow.report .warn
        [LogEntry.text "userId" tenant.user, LogEntry.text "organizationId" tenant.organization,
          LogEntry.text "userRole" tenant.role, LogEntry.text "requiredRole" required,
          LogEntry.text "method" request.method, LogEntry.text "path" request.fullPath]
        "permission denied"
      Flow.respond insufficient

end TenantAccess.RoleGuard
