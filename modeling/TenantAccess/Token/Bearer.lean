import TenantAccess.Text.Blank

/-! The token inside an authorization header. -/

namespace TenantAccess.Bearer

def scheme : String := "Bearer "

/-- What stands between the blanks after the scheme, which is spelled exactly so; an empty token is
none. -/
def token? (header : String) : Option String :=
  match scheme.toList.isPrefixOf? header.toList with
  | none => none
  | some rest =>
    let token := Text.trimmed rest
    if token.isEmpty then none else some (String.ofList token)

def header (token : String) : String := scheme ++ token

end TenantAccess.Bearer
