import TenantAccess.Number.Decimal
import TenantAccess.Routing.Router
import TenantAccess.Sql.Session
import TenantAccess.Sql.TenantFilter
import TenantAccess.Stage.RoleGuard

/-! What a member may read of an organization: its name, and for administrators the list of its
members. The organization is always the one that the tenant stage attached. -/

namespace TenantAccess.Organizations

open Stage

/-- A statement and the values of its placeholders. -/
structure Statement where
  text : String
  parameters : List Json
  deriving Repr, BEq

/-- The rows whose column holds the tenant's organization. -/
def ownRows (tenant : TenantContext) (column : String) : Sql.Conditions :=
  Sql.Conditions.none.require tenant (Sql.quoteName column)

def organizationStatement (tenant : TenantContext) : Statement :=
  let own := ownRows tenant "id"
  ⟨"SELECT \"id\", \"name\"\n      FROM \"organization\"\n      " ++ own.clause ++ "\n      LIMIT 1",
    own.parameters⟩

/-- A list is read in the order of its users, up to a limit. -/
def membersStatement (tenant : TenantContext) (limit : Int) : Statement :=
  let own := ownRows tenant Sql.Conditions.tenantColumn
  ⟨"SELECT \"user_id\", \"role\"\n      FROM \"membership\"\n      " ++ own.clause ++
    "\n      ORDER BY \"user_id\" ASC\n      LIMIT " ++ toString limit, own.parameters⟩

def standardLimit : Int := 200
def greatestLimit : Int := 500

/-- A limit that is no finite number counts as none given, and every other one is brought into range. -/
def limitOf (given : Option Json) : Int :=
  match given with
  | some (.text text) => match Number.ofLenient text with
    | .finite value => max 1 (min greatestLimit (Number.truncate value))
    | .undefined | .infinite _ => standardLimit
  | _ => standardLimit

/-- The text in a column; a column without a value is the empty text. -/
def column (row : Fields) (name : String) : Except Failure String :=
  match row.get? name with
  | some .null | none => .ok ""
  | some value => Failure.display value

/-- An organization without a name of its own goes by its identifier. -/
def ofRow (row : Fields) : Except Failure Json :=
  (column row "id").map fun id =>
    let name := ((row.get? "name").bind Json.text?).getD id
    .record [("id", .text id), ("name", .text name)]

def memberOfRow (row : Fields) : Except Failure Json :=
  match column row "user_id", column row "role" with
  | .error failure, _ | .ok _, .error failure => .error failure
  | .ok user, .ok role => .ok (.record [("userId", .text user), ("role", .text role)])

def notFound : Answer := .error 404 "organization not found"

def details (row : Option Fields) (role : String) : Except Failure Answer :=
  match row with
  | none => .ok notFound
  | some row => (ofRow row).map fun organization =>
    .json 200 (.record [("organization", organization), ("role", .text role)])

def members (rows : List Fields) : Except Failure Answer :=
  (rows.mapM memberOfRow).map fun members => .json 200 (.record [("memberships", .list members)])

/-- Runs one statement on the tenant's rows; a request without a tenant cannot get here by itself. -/
def read (lender : Sql.Lender) (statement : Request → TenantContext → Statement)
    (answer : TenantContext → List Fields → Except Failure Answer) : Stage := fun request next => do
  match request.tenant with
  | none => Flow.respond internalError
  | some tenant =>
    let asked := statement request tenant
    let outcome ← Sql.inSession lender request.ownSession fun session =>
      Flow.request (.query session asked.text (some asked.parameters))
    match outcome.bind (answer tenant) with
    | .error failure => raise next failure request
    | .ok answer => Flow.respond answer

def readOrganization (lender : Sql.Lender) : Stage :=
  read lender (fun _ tenant => organizationStatement tenant)
    fun tenant rows => details rows.head? tenant.role

def readMembers (lender : Sql.Lender) : Stage :=
  read lender (fun request tenant => membersStatement tenant (limitOf (request.query.get? "limit")))
    fun _ rows => members rows

def routes (lender : Sql.Lender) : List Route :=
  [⟨[], [readOrganization lender]⟩,
    ⟨[.literal "memberships"], [RoleGuard.run Role.admin.toText, readMembers lender]⟩]

end TenantAccess.Organizations
