import TenantAccess.Flow.Basic
import TenantAccess.Identity.Claims

/-! Mapping claims while a request is served: a malformed organization is reported. -/

namespace TenantAccess.Identity

def readClaims (claims : Fields) : Flow (Except ClaimsRejection Identity) := do
  match ofClaims claims with
  | .error rejection => pure (.error rejection)
  | .ok mapped =>
    if mapped.organizationIgnored then
      Flow.report .warn [LogEntry.text "subjectId" mapped.identity.subject]
        "ignoring malformed organization claim"
    pure (.ok mapped.identity)

end TenantAccess.Identity
