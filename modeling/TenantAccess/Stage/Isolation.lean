import TenantAccess.Stage.Basic
import TenantAccess.Tenant.Membership
import TenantAccess.Tenant.Resolution

/-! The tenant stage: it finds the organization a request is about, and lets the request on only when
its caller belongs to it. -/

namespace TenantAccess

structure Isolation where
  lender : Sql.Lender
  enforce : Bool
  publicPaths : List String

namespace Isolation

open Stage

def unauthenticated : Answer := .error 401 "authentication required for tenant-isolated endpoint"
def notMember : Answer := .error 403 "user does not have access to this organization"

def accept (request : Request) (user organization : String) (role : Role) (next : Next) :
    Flow (Option Answer) := do
  let request ← attachTenant request ⟨organization, user, role.toText⟩
  Flow.report .debug
    [LogEntry.text "userId" user, LogEntry.text "organizationId" organization,
      LogEntry.text "role" role.toText]
    "tenant isolation validated"
  proceed next request

def confirm (stage : Isolation) (request : Request) (user : String) (resolved : ResolvedTenant)
    (next : Next) : Flow (Option Answer) := do
  match ← Membership.validate stage.lender request.ownSession user resolved.organization with
  | .error failure => raise next failure request
  | .ok none =>
    Flow.report .warn
      [LogEntry.text "userId" user, LogEntry.text "organizationId" resolved.organization,
        LogEntry.text "source" resolved.source.toText]
      "tenant access denied"
    Flow.respond notMember
  | .ok (some role) => accept request user resolved.organization role next

def resolve (stage : Isolation) (request : Request) (identity : Identity) (next : Next) :
    Flow (Option Answer) := do
  match ResolvedTenant.resolve identity request.params request.query with
  | .error failure =>
    Flow.report .warn
      [LogEntry.text "userId" identity.subject, LogEntry.number "status" (.ofInt failure.status)]
      failure.message
    Flow.respond (.error failure.status failure.message)
  | .ok resolved => stage.confirm request identity.subject resolved next

def run (stage : Isolation) : Stage := fun request next => do
  if !stage.enforce || isPublicPath request.fullPath stage.publicPaths then proceed next request
  else match request.auth with
    | none =>
      Flow.report .error [LogEntry.text "path" request.fullPath, LogEntry.text "method" request.method]
        "tenant isolation ran before the identity stage"
      Flow.respond internalError
    | some ⟨_, none⟩ =>
      Flow.report .warn [LogEntry.text "path" request.fullPath]
        "tenant isolation rejected unauthenticated request"
      Flow.respond unauthenticated
    | some ⟨_, some identity⟩ => stage.resolve request identity next

end Isolation
end TenantAccess
