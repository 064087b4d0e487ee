import TenantAccess.Stage.Basic
import TenantAccess.Uuid

/-! The identity stage behind a gateway that has authenticated the caller already. The organization
it forwards is only a claim; membership is confirmed later. -/

namespace TenantAccess

structure GatewayIdentity where
  publicPaths : List String

namespace GatewayIdentity

open Stage

inductive Rejection where
  | missingHeaders
  | malformedUser
  | malformedOrganization
  deriving DecidableEq, Repr

def Rejection.answer : Rejection → Answer
  | .missingHeaders => .error 401 "missing required authentication headers"
  | .malformedUser => .error 400 "invalid user id format"
  | .malformedOrganization => .error 400 "invalid organization id format"

def organization? : Option String → Except Rejection (Option String)
  | none => .ok none
  | some selected => match Uuid.parse? selected with
    | none => .error .malformedOrganization
    | some organization => .ok (some organization)

/-- The user is looked at first, then the organization. -/
def ofHeaders (user email selected : Option String) : Except Rejection Identity :=
  match user, email with
  | some user, some email => match Uuid.parse? user with
    | none => .error .malformedUser
    | some subject => match organization? selected with
      | .error rejection => .error rejection
      | .ok organization => .ok ⟨subject, email, organization⟩
  | _, _ => .error .missingHeaders

def identityOf (request : Request) : Except Rejection Identity :=
  ofHeaders (request.nonemptyHeader? "x-user-id") (request.nonemptyHeader? "x-email")
    (request.nonemptyHeader? "x-selected-org")

def run (stage : GatewayIdentity) : Stage := fun request next => do
  if isPublicPath request.fullPath stage.publicPaths then admitPublic request next
  else match identityOf request with
    | .error rejection => Flow.respond rejection.answer
    | .ok identity =>
      let request ← attachAuth request ⟨.headers, some identity⟩
      Flow.report .debug
        [LogEntry.text "userId" identity.subject,
          LogEntry.optional "organizationId" identity.organization,
          LogEntry.text "source" "x-selected-org"]
        "gateway identity accepted"
      proceed next request

end GatewayIdentity
end TenantAccess
