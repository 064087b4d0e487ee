import TenantAccess.Stage.Basic

/-! The answer to a request during which something was raised. -/

namespace TenantAccess.FailureAnswer

/-- A refusal to touch another organization's data is told to the caller; of everything else the
caller learns nothing. -/
def answer : Failure → Answer
  | .ownership message _ => .error 403 message
  | _ => Stage.internalError

def report (failure : Failure) (request : Request) : Flow Unit :=
  match failure with
  | .ownership message code =>
    Flow.report .warn
      (LogEntry.present "userId" (request.tenant.map fun tenant => .text tenant.user) ++
        [LogEntry.text "code" code])
      message
  | _ =>
    Flow.report .error
      [("error", .failure failure), LogEntry.text "method" request.method,
        LogEntry.text "path" request.wholeTarget]
      "unhandled request error"

/-- An answer that has begun cannot be replaced, so the failure is passed on. -/
def run (failure : Failure) (isAnswered : Bool) : Stage := fun request next =>
  if isAnswered then Stage.raise next failure request
  else do
    report failure request
    Flow.respond (answer failure)

end TenantAccess.FailureAnswer
