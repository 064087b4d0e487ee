import TenantAccess.Identity.Basic
import TenantAccess.Uuid

/-! The identity that a record of claims stands for. Five names are looked at and no others. -/

namespace TenantAccess

inductive ClaimsRejection where
  | missingSubject
  | malformedSubject
  | missingEmail
  deriving DecidableEq, Repr

def ClaimsRejection.message : ClaimsRejection → String
  | .missingSubject => "missing sub claim"
  | .malformedSubject => "invalid user id format in sub claim"
  | .missingEmail => "missing email claim"

/-- An identity, and whether it was made by leaving out a malformed organization. -/
structure MappedClaims where
  identity : Identity
  organizationIgnored : Bool
  deriving DecidableEq, Repr

namespace Identity

/-- A claim that is null or the empty text counts as not given. -/
def claim? (claims : Fields) (name : String) : Option Json :=
  match claims.get? name with
  | some .null => none
  | some (.text value) => if value = "" then none else some (.text value)
  | found => found

/-- The first of the names that is given, whatever it holds. -/
def firstClaim? (claims : Fields) (names : List String) : Option Json :=
  names.findSome? (claim? claims)

/-- The subject must be an identifier and the address a text. A malformed organization is left out,
because the route can still name one. -/
def ofClaims (claims : Fields) : Except ClaimsRejection MappedClaims :=
  match claim? claims "sub" with
  | none => .error .missingSubject
  | some subject => match Uuid.ofJson? subject with
    | none => .error .malformedSubject
    | some subject => match firstClaim? claims ["email", "preferred_username"] with
      | some (.text email) =>
        let given := firstClaim? claims ["org_id", "organization_id"]
        let organization := given.bind Uuid.ofJson?
        .ok ⟨⟨subject, email, organization⟩, given.isSome && organization.isNone⟩
      | _ => .error .missingEmail

end Identity
end TenantAccess
