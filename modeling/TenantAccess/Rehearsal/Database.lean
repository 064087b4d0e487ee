import TenantAccess.Rehearsal.World
import TenantAccess.Text.Search

/-! A database for rehearsals. It knows rows of memberships and organizations, and can fail to
connect, on every statement, or on the statements that hold a given text. -/

namespace TenantAccess.Rehearsal

structure MembershipRow where
  user : String
  organization : String
  row : Fields

structure OrganizationRow where
  organization : String
  row : Fields

structure Database where
  memberships : List MembershipRow
  organizations : List OrganizationRow
  connectFails : Option Failure
  queryFails : Option Failure
  failsOn : Option String

namespace Database

def empty : Database := ⟨[], [], none, none, none⟩

def failure? (db : Database) (statement : String) : Option Failure :=
  match db.failsOn with
  | some part => if Text.contains statement part then db.queryFails else none
  | none => db.queryFails

def isParameter (parameters : List Json) (index : Nat) (value : String) : Bool :=
  parameters[index]? == some (.text value)

/-- Statements are told apart by their text; limits are not applied. -/
def rows (db : Database) (statement : String) (parameters : List Json) : List Fields :=
  if statement.startsWith "SET " then []
  else if statement = "SELECT 1" then [[("?column?", .number (.ofInt 1))]]
  else if statement.startsWith "SELECT role FROM membership" then
    (db.memberships.filter fun member =>
      isParameter parameters 0 member.user && isParameter parameters 1 member.organization).map
      fun member => ((member.row.get? "role").map fun role => ("role", role)).toList
  else if Text.contains statement "FROM \"organization\"" then
    (db.organizations.filter (isParameter parameters 0 ·.organization)).map (·.row)
  else
    (db.memberships.filter (isParameter parameters 0 ·.organization)).map (·.row)

def query (db : Database) (statement : String) (parameters : List Json) :
    Except Failure (List Fields) :=
  match db.failure? statement with
  | some failure => .error failure
  | none => .ok (db.rows statement parameters)

def borrow (db : Database) : Except Failure Unit :=
  match db.connectFails with
  | some failure => .error failure
  | none => .ok ()

end Database
end TenantAccess.Rehearsal
