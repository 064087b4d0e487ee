import TenantAccess.Flow.Basic
import TenantAccess.Stage.PublicPath

/-! Requests as the stages of the service see them, and how a stage hands one on. -/

namespace TenantAccess

/-- The target is split where the handler that looks at it is mounted, and what is left of it may have
no path. A session of its own means that the request already runs inside one of the database. -/
structure Request where
  method : String
  baseUrl : String
  target : String
  path : Option String
  wholeTarget : String
  headers : List (String × String)
  params : List (String × Option Json)
  query : Fields
  auth : Option AuthState
  tenant : Option TenantContext
  ownSession : Bool

namespace Request

/-- A path that is missing shows. -/
def fullPath (request : Request) : String := request.baseUrl ++ request.path.getD "null"

/-- Header names are kept in small letters. -/
def header? (request : Request) (name : String) : Option String := request.headers.lookup name

/-- A header that is empty counts as not given. -/
def nonemptyHeader? (request : Request) (name : String) : Option String :=
  (request.header? name).filter (· ≠ "")

end Request

/-- Whoever comes after a stage. A stage that ends the exchange comes back with its answer; one whose
caller is gone comes back with none. -/
abbrev Next := Option Failure → Request → Flow (Option Answer)

abbrev Stage := Request → Next → Flow (Option Answer)

namespace Stage

def proceed (next : Next) (request : Request) : Flow (Option Answer) :=
  .ask (.pass none) fun _ => next none request

def raise (next : Next) (failure : Failure) (request : Request) : Flow (Option Answer) :=
  .ask (.pass (some failure)) fun _ => next (some failure) request

def attachAuth (request : Request) (auth : AuthState) : Flow Request :=
  .ask (.attachAuth auth) fun _ => .done { request with auth := some auth }

def attachTenant (request : Request) (tenant : TenantContext) : Flow Request :=
  .ask (.attachTenant tenant) fun _ => .done { request with tenant := some tenant }

def internalError : Answer := .error 500 "internal server error"

/-- Attaches that the path is public and goes on. -/
def admitPublic (request : Request) (next : Next) : Flow (Option Answer) := do
  proceed next (← attachAuth request ⟨.publicPath, none⟩)

end Stage
end TenantAccess
