import TenantAccess.Http.Header
import TenantAccess.Stage.Basic
import TenantAccess.Text.Blank

/-! The identifier of a request: the one its caller sent, else a fresh one. -/

namespace TenantAccess.RequestId

def standardHeader : String := "x-request-id"

/-- A header that cannot be sent back makes every request fail. -/
def unusableHeader (name : String) : Failure :=
  .error "Error" ("request id header \"" ++ name ++ "\" is no header name")

/-- A blank identifier counts as not sent. -/
def sent? (request : Request) (header : String) : Option String :=
  ((request.header? header).map Text.trim).filter (· ≠ "")

def choose (request : Request) (header : String) : Flow String :=
  match sent? request header with
  | some id => pure id
  | none => Flow.request .freshId

end TenantAccess.RequestId
