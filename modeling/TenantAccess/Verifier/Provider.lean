import TenantAccess.Fetch
import TenantAccess.Text.Form
import TenantAccess.Token.Bearer
import TenantAccess.Verifier.LocalKey

/-! Asking the provider about a token: its introspection endpoint says whether the token is active,
and its userinfo endpoint answers for the one who presents it. Whatever goes wrong is reported, and
then the token stands for nobody; only a failure that cannot be put into words is raised instead. -/

namespace TenantAccess

/-- How long a provider may take to answer. -/
def providerTimeout : Number := .ofInt 5000

/-- Reports that the provider at an address could not be asked. -/
def reportUnreachable (provider place url : String) (failure : Failure) :
    Flow (Except Failure (Option Fields)) := do
  match failure.describe with
  | .error raised => pure (.error raised)
  | .ok text =>
    Flow.report .error
      [LogEntry.text "provider" provider, LogEntry.text place url,
        ("aborted", .plain (.boolean failure.isCutOff)), LogEntry.text "error" text]
      "identity provider unreachable"
    pure (.ok none)

namespace Introspection

def request (url token : String) (signal : Signal) : FetchRequest :=
  { url, signal, method := some "POST",
    headers := some [("Content-Type", .text "application/x-www-form-urlencoded")],
    body := some (Form.pair "token" token) }

/-- The claims of a record that says it is active. -/
def claims? (response : JsonResponse) : Option Fields :=
  match response.body with
  | some (.record fields) =>
    match Fields.get? fields "active" with
    | some active => if active.isTruthy then some fields else none
    | none => none
  | _ => none

def verify (provider url : String) (timeout : Number) (token : String) (signal : Signal) :
    Flow (Except Failure (Option Fields)) := do
  match ← fetchJson (request url token signal) timeout with
  | .error failure => reportUnreachable provider "introspectionUrl" url failure
  | .ok response =>
    if response.status ≠ 200 then
      Flow.report .info
        [LogEntry.text "provider" provider, LogEntry.number "statusCode" (.ofInt response.status)]
        "token introspection failed"
      pure (.ok none)
    else match claims? response with
      | none =>
        Flow.report .info [LogEntry.text "provider" provider] "token not active"
        pure (.ok none)
      | some claims =>
        reportAccepted provider claims
        pure (.ok (some claims))

end Introspection

namespace Userinfo

def provider : String := "auth0"

def request (url token : String) (signal : Signal) : FetchRequest :=
  { url, signal, method := some "GET", body := none,
    headers := some [("Authorization", .text (Bearer.header token))] }

def verify (url : String) (timeout : Number) (token : String) (signal : Signal) :
    Flow (Except Failure (Option Fields)) := do
  match ← fetchJson (request url token signal) timeout with
  | .error failure => reportUnreachable provider "userinfoUrl" url failure
  | .ok response =>
    if response.status ≠ 200 then
      Flow.report .info
        [LogEntry.text "provider" provider, LogEntry.number "statusCode" (.ofInt response.status)]
        "userinfo request failed"
      pure (.ok none)
    else match response.body.bind Json.record? with
      | none =>
        Flow.report .info [LogEntry.text "provider" provider] "userinfo response was not a JSON object"
        pure (.ok none)
      | some claims =>
        reportAccepted provider claims
        pure (.ok (some claims))

end Userinfo
end TenantAccess
