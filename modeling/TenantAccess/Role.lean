import TenantAccess.Json.Basic

/-! The three roles of a member and their order. -/

namespace TenantAccess

inductive Role where
  | owner
  | admin
  | member
  deriving DecidableEq, Repr

namespace Role

def rank : Role → Nat
  | .owner => 3
  | .admin => 2
  | .member => 1

def toText : Role → String
  | .owner => "owner"
  | .admin => "admin"
  | .member => "member"

def ofText? (text : String) : Option Role :=
  if text = "owner" then some .owner
  else if text = "admin" then some .admin
  else if text = "member" then some .member
  else none

def ofJson? : Json → Option Role
  | .text value => ofText? value
  | _ => none

def meets (actual required : Role) : Bool :=
  required.rank ≤ actual.rank

/-- A name that is no role meets nothing, and nothing meets it. -/
def nameMeets (actual required : String) : Bool :=
  match ofText? actual, ofText? required with
  | some actual, some required => actual.meets required
  | _, _ => false

theorem ofText?_toText (role : Role) : ofText? role.toText = some role := by
  cases role <;> rfl

/-- By their names roles are compared as they are. -/
theorem nameMeets_toText (actual required : Role) :
    nameMeets actual.toText required.toText = actual.meets required := by
  simp only [nameMeets, ofText?_toText]

end Role
end TenantAccess
