import TenantAccess.Identity.Basic
import TenantAccess.Tenant.Context
import TenantAccess.Log

/-! The vocabulary between the service and the world around it: everything a request can ask for,
and what it gets back. -/

namespace TenantAccess

/-- Whether the one who waits for an outside request gives up on it. -/
inductive Signal where
  | never
  | beforehand
  | duringRequest
  deriving DecidableEq, Repr

structure FetchRequest where
  url : String
  method : Option String
  headers : Option Fields
  body : Option String
  signal : Signal
  deriving Repr, BEq

/-- What becomes of an outside request; a body that was announced may still be unreadable. -/
inductive FetchReply where
  | answered (status : Nat) (text : Except Failure String)
  | refused (failure : Failure)
  | unanswered

/-- The one key set a process holds. -/
structure CachedKeys where
  url : String
  keys : List Fields
  fetchedAt : Number
  expiresAt : Number
  deriving Repr, BEq

/-- Whose session a statement runs in. -/
inductive SessionKind where
  | pool
  | request
  | direct
  deriving DecidableEq, Repr

def SessionKind.toText : SessionKind → String
  | .pool => "pool"
  | .request => "request"
  | .direct => "direct"

/-- How many sessions a pool holds and how long it waits, in milliseconds. -/
structure PoolOptions where
  url : String
  max : Nat
  idleTimeout : Nat
  connectionTimeout : Nat
  deriving DecidableEq, Repr

/-- A page is written by nobody's handler, for requests that nobody answered. -/
inductive Content where
  | json (value : Json)
  | text (text : String)
  | page (text : String)
  deriving Repr, BEq

structure Answer where
  status : Nat
  content : Content
  allow : Option String
  deriving Repr, BEq

def Answer.json (status : Nat) (value : Json) : Answer := ⟨status, .json value, none⟩

/-- An answer that only says what went wrong. -/
def Answer.error (status : Nat) (message : String) : Answer :=
  .json status (.record [("error", .text message)])

/-- One thing that a flow asks of the world. The asks that only tell the world something come back
with nothing. -/
inductive Ask where
  | clock
  | armTimer (delay : Number)
  | disarmTimer
  | fetch (request : FetchRequest)
  | recallKeys
  | storeKeys (keys : CachedKeys)
  | borrow
  | query (session : SessionKind) (statement : String) (parameters : Option (List Json))
  | giveBack
  | report (entry : LogEntry)
  | freshId
  | consult (token : String) (signal : Signal)
  | watchClose
  | unwatchClose
  | closed
  | abort
  | attachAuth (auth : AuthState)
  | attachTenant (tenant : TenantContext)
  | pass (failure : Option Failure)
  | answer (answer : Answer)
  | openPool (options : PoolOptions)
  | listen (port : Nat)
  | closeServer
  | endPool
  | exit (code : Nat)

/-- Time is counted in milliseconds and fractions of them. A closed connection comes back with whether its answer had
already ended. -/
def Ask.Reply : Ask → Type
  | .clock => Number
  | .fetch _ => FetchReply
  | .recallKeys => Option CachedKeys
  | .borrow => Except Failure Unit
  | .query _ _ _ => Except Failure (List Fields)
  | .freshId => String
  | .consult _ _ => Except Failure (Option Fields)
  | .closed => Option Bool
  | .endPool => Except Failure Unit
  | .armTimer _ | .disarmTimer | .storeKeys _ | .giveBack | .report _ | .watchClose | .unwatchClose
  | .abort | .attachAuth _ | .attachTenant _ | .pass _ | .answer _ | .openPool _ | .listen _
  | .closeServer | .exit _ => Unit

end TenantAccess
