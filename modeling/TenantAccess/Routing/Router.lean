import TenantAccess.Routing.Pattern
import TenantAccess.Routing.Target
import TenantAccess.Stage.Basic

/-! Handing a request through the stages that are mounted on its path. A stage passes a request on
with a failure or without one; a failure goes to the next stage that takes failures. Two bare words
say something else: one leaves the route it is raised in, the other the whole router. -/

namespace TenantAccess

namespace Failure

def leaveRoute : Failure := .bare (some (.text "route"))
def leaveRouter : Failure := .bare (some (.text "router"))

/-- What a router makes of what was passed on: no failure, or one, or the word to leave. -/
inductive Passed where
  | clear
  | leaves
  | failed (failure : Failure)

def passed : Option Failure → Passed
  | none => .clear
  | some failure =>
    if !failure.isRaised || failure == leaveRoute then .clear
    else if failure == leaveRouter then .leaves
    else .failed failure

end Failure

/-- A route answers the requests of one method; reading a thing without its content counts too. -/
structure Route where
  pattern : Pattern
  stages : List Stage

inductive Mounted where
  | stage (run : Stage)
  | onFailure (run : Failure → Stage)

structure Mount where
  pattern : Pattern
  handler : Mounted

namespace Route

def isReading (method : String) : Bool := method == "GET" || method == "HEAD"

/-- The answer to the question which methods a route has. -/
def allowed : Answer := ⟨200, .text "GET,HEAD", some "GET,HEAD"⟩

/-- The stages of one route; a failure skips the rest of them. -/
def chain (stages : List Stage) (leave : Next) : Next :=
  match stages with
  | [] => leave
  | stage :: rest => fun failure request =>
    match failure with
    | none => stage request (chain rest leave)
    | some raised =>
      if raised == Failure.leaveRoute then leave none request
      else if !raised.isRaised then stage request (chain rest leave)
      else leave (some raised) request

/-- Routes in order. `asked` tells whether a route of the path was asked for its methods. -/
def dispatch (routes : List Route) (asked : Bool) (leave : Next) : Next :=
  match routes with
  | [] => fun failure request =>
    match Failure.passed failure with
    | .failed raised => leave (some raised) request
    | .leaves => leave none request
    | .clear => if asked then Flow.respond allowed else leave none request
  | route :: rest => fun failure request =>
    match Failure.passed failure with
    | .failed raised => leave (some raised) request
    | .leaves => leave none request
    | .clear =>
      if !(request.path.map route.pattern.isRoute).getD false then dispatch rest asked leave none request
      else if isReading request.method then
        chain route.stages (dispatch rest asked leave) none request
      else dispatch rest (asked || request.method == "OPTIONS") leave none request

def router (routes : List Route) : Stage := fun request next => dispatch routes false next none request

end Route

namespace Mount

/-- A request whose target has changed, with the path that the new one has. -/
def retarget (request : Request) (target : List Char) : Request :=
  { request with target := String.ofList target, path := Target.path? (String.ofList target) }

/-- A request as it looks from where a handler is mounted. -/
def enter (request : Request) (taken : List Char) (params : List (String × Option Json)) : Request :=
  if taken.isEmpty then { request with params }
  else
    let base := if taken.getLast? = some '/' then taken.dropLast else taken
    { retarget request (Target.without request.target.toList taken) with
      baseUrl := request.baseUrl ++ String.ofList base, params }

/-- What a stage attached stays; where it was mounted does not. -/
def leaveTo (outer inner : Request) (taken : List Char) : Request :=
  let back := if taken.isEmpty then outer else retarget outer (Target.restored outer.target.toList taken)
  { back with auth := inner.auth, tenant := inner.tenant }

/-- A parameter that spells nothing is the caller's mistake, raised as a failure. -/
def undecodable (segment : String) : Failure :=
  .error "Error" ("path parameter \"" ++ segment ++ "\" cannot be decoded")

/-- A request without a path meets no pattern at all. -/
def dispatch (mounts : List Mount) (leave : Next) : Next :=
  match mounts with
  | [] => fun failure request =>
    match Failure.passed failure with
    | .failed raised => leave (some raised) request
    | .clear | .leaves => leave none request
  | mount :: rest => fun failure request =>
    let onward (taken : List Char) : Next := fun failure inner =>
      dispatch rest leave failure (leaveTo request inner taken)
    match Failure.passed failure, request.path with
    | .leaves, _ => leave none request
    | .clear, none => leave none request
    | .failed raised, none => leave (some raised) request
    | .clear, some path => match mount.pattern.mounted path with
      | .no => dispatch rest leave none request
      | .undecodable segment => dispatch rest leave (some (undecodable segment)) request
      | .yes taken params => match mount.handler with
        | .stage run => run (enter request taken params) (onward taken)
        | .onFailure _ => dispatch rest leave none request
    | .failed raised, some path => match mount.handler with
      | .stage _ => dispatch rest leave (some raised) request
      | .onFailure run => match mount.pattern.mounted path with
        | .yes taken params => run raised (enter request taken params) (onward taken)
        | _ => dispatch rest leave (some raised) request

end Mount
end TenantAccess
