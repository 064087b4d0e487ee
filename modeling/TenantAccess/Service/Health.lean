import TenantAccess.Routing.Router
import TenantAccess.Sql.Session

/-! Two questions that anybody may ask: whether the service can reach its database, and whether it
answers at all. -/

namespace TenantAccess.Health

def statement : String := "SELECT 1"

def healthy (ok : Bool) : Answer :=
  .json (if ok then 200 else 503) (.record [("ok", .boolean ok)])

def check (lender : Sql.Lender) : Stage := fun _ _ => do
  match ← Sql.withSession lender (Flow.request (.query .pool statement (some []))) with
  | .ok _ => Flow.respond (healthy true)
  | .error failure =>
    Flow.report .error [("error", .failure failure)] "health check failed"
    Flow.respond (healthy false)

def pong : Stage := fun _ _ => Flow.respond (.json 200 (.record [("pong", .boolean true)]))

def routes (lender : Sql.Lender) : List Route :=
  [⟨[.literal "health"], [check lender]⟩, ⟨[.literal "ping"], [pong]⟩]

end TenantAccess.Health
