import TenantAccess.Role
import TenantAccess.Sql.Session

/-! Whether a user belongs to an organization, and with which role. One statement answers both. -/

namespace TenantAccess.Membership

def statement : String :=
  "SELECT role FROM membership WHERE user_id = $1 AND organization_id = $2 LIMIT 1"

/-- The role of the first row. A stored role that is no role makes no member, and is reported. -/
def ofRows (user organization : String) (rows : List Fields) : Flow (Option Role) := do
  match rows with
  | [] => pure none
  | row :: _ =>
    let stored := row.get? "role"
    match stored.bind Role.ofJson? with
    | some role => pure (some role)
    | none =>
      Flow.report .error
        ([LogEntry.text "userId" user, LogEntry.text "organizationId" organization] ++
          LogEntry.present "role" stored)
        "membership has unknown role"
      pure none

/-- The role of a member, none for anybody else. -/
def lookup (session : SessionKind) (user organization : String) :
    Flow (Except Failure (Option Role)) := do
  match ← Flow.request (.query session statement (some [.text user, .text organization])) with
  | .error failure => pure (.error failure)
  | .ok rows =>
    let role ← ofRows user organization rows
    pure (.ok role)

def validate (lender : Sql.Lender) (ownSession : Bool) (user organization : String) :
    Flow (Except Failure (Option Role)) :=
  Sql.inSession lender ownSession fun session => lookup session user organization

end TenantAccess.Membership
