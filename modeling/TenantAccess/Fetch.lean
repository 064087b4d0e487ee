import TenantAccess.Flow.Basic
import TenantAccess.Json.Parser
import TenantAccess.Text.Blank

/-! One outside request whose answer should be a value of the interchange format. It is never
repeated, and its timer is disarmed on every way out. -/

namespace TenantAccess

/-- A body that is blank or unreadable is no value. -/
structure JsonResponse where
  status : Nat
  body : Option Json
  deriving Repr, BEq

namespace JsonResponse

def isSuccess (response : JsonResponse) : Bool :=
  200 ≤ response.status && response.status ≤ 299

def readBody (text : String) : Option Json :=
  if Text.isBlankText text then none else Json.ofText? text

/-- A request that nobody answers ends when its timer or its caller cuts it off. -/
def ofReply : FetchReply → Except Failure JsonResponse
  | .answered status (.ok text) => .ok ⟨status, readBody text⟩
  | .answered _ (.error failure) => .error failure
  | .refused failure => .error failure
  | .unanswered => .error .cutOff

end JsonResponse

def fetchJson (request : FetchRequest) (timeout : Number) : Flow (Except Failure JsonResponse) := do
  Flow.request (.armTimer timeout)
  let reply ← Flow.request (.fetch request)
  Flow.request .disarmTimer
  pure (JsonResponse.ofReply reply)

end TenantAccess
