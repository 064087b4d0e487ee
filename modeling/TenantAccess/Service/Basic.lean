import TenantAccess.Body.Check
import TenantAccess.Http.Exchange
import TenantAccess.Http.NotFoundPage
import TenantAccess.Service.CallerContext
import TenantAccess.Service.Health
import TenantAccess.Service.Organizations
import TenantAccess.Service.RequestId
import TenantAccess.Stage.FailureAnswer
import TenantAccess.Stage.Isolation

/-! The service: what is mounted where, and what becomes of a request from its arrival to its last
log entry. -/

namespace TenantAccess

structure Service where
  lender : Sql.Lender
  identity : Stage
  isolation : Isolation
  requestIdHeader : String

namespace Service

def organizationPattern : Pattern := [.literal "v1", .literal "orgs", .parameter Mention.parameterName]
def contextPattern : Pattern := [.literal "v1", .literal "context"]

def notFound : Answer := .error 404 "not found"

def onFailure (failure : Failure) : Stage := FailureAnswer.run failure false

/-- The identity stage always comes before the tenant stage, and both before what they guard. -/
def guarded (service : Service) (pattern : Pattern) (routes : List Route) : List Mount :=
  [⟨pattern, .stage service.identity⟩, ⟨pattern, .stage service.isolation.run⟩,
    ⟨pattern, .stage (Route.router routes)⟩]

def mounts (service : Service) : List Mount :=
  ⟨[], .stage (Route.router (Health.routes service.lender))⟩ ::
    service.guarded organizationPattern (Organizations.routes service.lender) ++
    service.guarded contextPattern CallerContext.routes ++
    [⟨[], .stage fun _ _ => Flow.respond notFound⟩, ⟨[], .onFailure onFailure⟩]

/-- A request that leaves all mounts is told so on a page. -/
def leave : Next := fun _ request => Flow.respond (NotFoundPage.answer request)

def dispatch (service : Service) (failure : Option Failure) (request : Request) :
    Flow (Option Answer) :=
  Mount.dispatch service.mounts leave failure request

/-- The line is begun before any pattern is matched, so its request has no parameters yet. -/
def reportAnswered (request : Request) (id : String) (status : Nat) : Flow Unit :=
  Flow.report .info
    [("req", .plain (.record [("id", .text id), ("method", .text request.method),
        ("url", .text request.wholeTarget), ("query", .record request.query), ("params", .record []),
        ("headers", .record (request.headers.map fun (name, value) => (name, .text value)))])),
      ("res", .plain (.record [("statusCode", .ofNat status)]))]
    (if 500 ≤ status then "request errored" else "request completed")

/-- A request that fails before it has an identifier is answered without one and not reported on. -/
def refuse (service : Service) (failure : Failure) (request : Request) : Flow (Option Response) := do
  let answer ← service.dispatch (some failure) request
  pure (answer.map fun answer => .ofAnswer answer request [])

/-- A caller who went away gets no response. -/
def serve (service : Service) (request : Request) (header : String) : Flow (Option Response) := do
  let id ← RequestId.choose request header
  match ← service.dispatch none request with
  | none => pure none
  | some answer =>
    let response := Response.ofAnswer answer request [(header, id)]
    reportAnswered request id response.status
    pure (some response)

/-- A request without a path reaches nothing that is mounted; of any other the body is read first. -/
def handle (service : Service) (incoming : Incoming) : Flow (Option Response) :=
  let request := incoming.toRequest
  let header := Header.key service.requestIdHeader
  if request.path.isNone then do
    let answer ← leave none request
    pure (answer.map fun answer => .ofAnswer answer request [])
  else match Body.check request incoming.body with
    | .error problem => service.refuse problem.failure request
    | .ok () =>
      if Header.isName header then service.serve request header
      else service.refuse (RequestId.unusableHeader header) request

end Service
end TenantAccess
