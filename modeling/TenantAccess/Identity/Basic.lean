import TenantAccess.Json.Basic

/-! Who a request is made for, and how the service came to believe it. -/

namespace TenantAccess

structure Identity where
  subject : String
  email : String
  organization : Option String
  deriving DecidableEq, Repr

inductive AuthMethod where
  | bearer
  | headers
  | publicPath
  | disabled
  deriving DecidableEq, Repr

/-- What the identity stage attaches. A public path and a service without a provider have no
identity to attach. -/
structure AuthState where
  method : AuthMethod
  identity : Option Identity
  deriving DecidableEq, Repr

def AuthMethod.toText : AuthMethod → String
  | .bearer => "bearer"
  | .headers => "headers"
  | .publicPath => "public"
  | .disabled => "disabled"

end TenantAccess
