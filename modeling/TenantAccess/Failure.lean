import TenantAccess.Json.Basic

/-! What can be raised while a request is served: an error with a name and a message, a refusal to
touch another organization's data, or any bare value, possibly none. -/

namespace TenantAccess

inductive Failure where
  | error (name message : String)
  | ownership (message code : String)
  | bare (value : Option Json)
  deriving Repr, BEq, ReflBEq, LawfulBEq

namespace Failure

instance : Inhabited Failure := ⟨.bare none⟩

def ownershipCode : String := "TENANT_OWNERSHIP_VIOLATION"

/-- An outside request that was cut off, by its timer or by its caller. -/
def cutOff : Failure := .error "AbortError" "This operation was aborted"

def isCutOff : Failure → Bool
  | .error name _ => name == "AbortError"
  | _ => false

/-- What is raised when a value has to be shown that cannot be. -/
def unshowable : Failure := .error "TypeError" "Cannot convert object to primitive value"

def display (value : Json) : Except Failure String :=
  match value.display? with
  | some text => .ok text
  | none => .error unshowable

/-- What a log entry or another message says of a failure. -/
def describe : Failure → Except Failure String
  | .error _ message | .ownership message _ => .ok message
  | .bare (some value) => display value
  | .bare none => .ok "undefined"

/-- Passing a bare value on as a failure only counts as one when the value counts as given. -/
def isRaised : Failure → Bool
  | .error _ _ | .ownership _ _ => true
  | .bare (some value) => value.isTruthy
  | .bare none => false

end Failure
end TenantAccess
