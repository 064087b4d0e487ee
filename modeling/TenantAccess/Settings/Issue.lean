import TenantAccess.Json.Basic

/-! What can be wrong with a variable, and how it is told. -/

namespace TenantAccess.Settings

inductive Problem where
  | required
  | wrongKind (expected received : String)
  | empty
  | notListed (options : List String) (received : String)
  | notText (options : List String) (received : String)
  | fraction
  | below (least : Nat)
  | above (greatest : Nat)
  | url
  | publicKey
  | sharedSecret
  | urlRequired (provider : String)
  | isolationRequired
  deriving DecidableEq, Repr

structure Issue where
  name : String
  problem : Problem
  deriving DecidableEq, Repr

/-- The kind of a value, as messages name it. An undefined number is of a kind of its own. -/
def kindOf : Json → String
  | .null => "null"
  | .boolean _ => "boolean"
  | .number .undefined => "nan"
  | .number _ => "number"
  | .text _ => "string"
  | .list _ => "array"
  | .record _ => "object"

def optionList (options : List String) : String :=
  " | ".intercalate (options.map fun option => "'" ++ option ++ "'")

def Problem.message : Problem → String
  | .required => "Required"
  | .wrongKind expected received => "Expected " ++ expected ++ ", received " ++ received
  | .empty => "String must contain at least 1 character(s)"
  | .notListed options received =>
    "Invalid enum value. Expected " ++ optionList options ++ ", received '" ++ received ++ "'"
  | .notText options received => "Expected " ++ optionList options ++ ", received " ++ received
  | .fraction => "Expected integer, received float"
  | .below least => "Number must be greater than or equal to " ++ toString least
  | .above greatest => "Number must be less than or equal to " ++ toString greatest
  | .url => "Invalid url"
  | .publicKey => "must be a PEM encoded public key"
  | .sharedSecret => "symmetric HMAC algorithms are not accepted for token verification"
  | .urlRequired provider => "required when AUTH_PROVIDER_TYPE=" ++ provider
  | .isolationRequired => "must be true when AUTH_MODE=headers"

def Issue.message (issue : Issue) : String := issue.name ++ ": " ++ issue.problem.message

end TenantAccess.Settings
