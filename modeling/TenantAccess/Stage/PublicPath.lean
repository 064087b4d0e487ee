/-! Paths that need no identity. -/

namespace TenantAccess

def standardPublicPaths : List String :=
  ["/health", "/ping", "/docs", "/openapi.json", "/metrics"]

def isPublicPath (path : String) (starts : List String) : Bool :=
  starts.any fun start => start.toList.isPrefixOf path.toList

end TenantAccess
