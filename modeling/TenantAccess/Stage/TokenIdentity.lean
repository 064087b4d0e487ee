import TenantAccess.Identity.Mapping
import TenantAccess.Stage.Basic
import TenantAccess.Token.Bearer
import TenantAccess.Verifier.Setup

/-! The identity stage for callers who present a token. -/

namespace TenantAccess

structure TokenIdentity where
  verifier : Verifier
  provider : Provider
  publicPaths : List String

namespace TokenIdentity

open Stage

def missingToken : Answer := .error 401 "missing or invalid authorization header"
def refusedToken : Answer := .error 401 "invalid or expired token"
def refusedClaims : Answer := .error 401 "invalid token claims"

/-- A caller who goes away before the answer has ended makes the verification stop. -/
def watch : Flow Signal := do
  Flow.request .watchClose
  match ← Flow.request .closed with
  | some false =>
    Flow.request .abort
    pure .duringRequest
  | _ => pure .never

def accept (request : Request) (identity : Identity) (next : Next) : Flow (Option Answer) := do
  let request ← attachAuth request ⟨.bearer, some identity⟩
  Flow.report .debug
    [LogEntry.text "userId" identity.subject, LogEntry.optional "organizationId" identity.organization]
    "user authenticated"
  proceed next request

def judgeClaims (request : Request) (claims : Option Fields) (next : Next) : Flow (Option Answer) := do
  match claims with
  | none => Flow.respond refusedToken
  | some claims => match ← Identity.readClaims claims with
    | .error rejection =>
      Flow.report .warn [LogEntry.text "reason" rejection.message] "token claims rejected"
      Flow.respond refusedClaims
    | .ok identity => accept request identity next

/-- Nothing is answered to a caller who is gone, unless the verification itself failed. -/
def conclude (stage : TokenIdentity) (request : Request) (signal : Signal)
    (outcome : Except Failure (Option Fields)) (next : Next) : Flow (Option Answer) := do
  match outcome with
  | .error failure =>
    Flow.report .warn [("error", .failure failure)] "token verification failed"
    Flow.respond refusedToken
  | .ok claims =>
    if signal = .duringRequest then
      Flow.report .info [LogEntry.text "method" stage.verifier.method]
        "client disconnected during token verification"
      pure none
    else judgeClaims request claims next

def verify (stage : TokenIdentity) (request : Request) (token : String) (next : Next) :
    Flow (Option Answer) := do
  let signal ← watch
  let outcome ← stage.verifier.verify token signal
  let answer ← stage.conclude request signal outcome next
  Flow.request .unwatchClose
  pure answer

/-- Without a provider nobody is identified and nobody is turned away. -/
def run (stage : TokenIdentity) : Stage := fun request next => do
  if stage.provider = .none then proceed next (← attachAuth request ⟨.disabled, none⟩)
  else if isPublicPath request.fullPath stage.publicPaths then admitPublic request next
  else match (request.header? "authorization").bind Bearer.token? with
    | none => Flow.respond missingToken
    | some token => stage.verify request token next

end TokenIdentity
end TenantAccess
