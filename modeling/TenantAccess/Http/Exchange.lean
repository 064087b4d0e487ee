import TenantAccess.Body.MediaType
import TenantAccess.Http.Freshness
import TenantAccess.Http.Header
import TenantAccess.Json.Printer
import TenantAccess.Routing.Router
import TenantAccess.Routing.Query
import TenantAccess.Routing.Target
import TenantAccess.Stage.Basic

/-! One exchange over the wire: the request as it arrives and the response as it leaves. -/

namespace TenantAccess

/-- The headers are in the order in which they were sent. -/
structure Incoming where
  method : String
  target : String
  headers : List (String × String)
  body : Option (List UInt8)

/-- A request as it looks before any stage has seen it. -/
def Incoming.toRequest (incoming : Incoming) : Request where
  method := incoming.method
  baseUrl := ""
  target := incoming.target
  path := Target.path? incoming.target
  wholeTarget := incoming.target
  headers := Header.collect incoming.headers
  params := []
  query := Query.parse (Target.query incoming.target)
  auth := none
  tenant := none
  ownSession := false

/-- Each header has one value, and its name is in small letters. A response has no content when its
request only asked about the content, or when its caller holds the content already. -/
structure Response where
  status : Nat
  headers : List (String × String)
  content : Option Content
  deriving Repr, BEq

namespace Response

def header? (response : Response) (name : String) : Option String := response.headers.lookup name

def without (name : String) (headers : List (String × String)) : List (String × String) :=
  headers.filter (·.1 != name)

def put (headers : List (String × String)) (name value : String) : List (String × String) :=
  without name headers ++ [(name, value)]

/-- Headers that describe a content, which an answer without one does not have. -/
def contentHeaders : List String := ["content-type", "content-length", "transfer-encoding"]

/-- A type that was set before the answer stays; its text is always encoded in the one way. -/
def typeOf (held : List (String × String)) (standard : String) : String :=
  match held.lookup "content-type" with
  | none => standard ++ "; charset=utf-8"
  | some type => match MediaType.ofText? type with
    | some type => (type.withParameter "charset" "utf-8").toText
    | none => type

/-- A content goes out with a tag, unless one was set before. -/
def sent (answer : Answer) (request : Request) (held : List (String × String)) (type text : String) :
    Response :=
  let octets := Utf8.encode text
  let tag := (held.lookup "etag").getD (Freshness.tag octets)
  let allowed := match answer.allow with
    | some methods => put held "allow" methods
    | none => held
  let headers := put (put (put allowed "content-type" (typeOf held type))
    "content-length" (toString octets.length)) "etag" tag
  if Route.isReading request.method && 200 ≤ answer.status && answer.status < 300 &&
      Freshness.isFresh request.header? (some tag) (held.lookup "last-modified") then
    ⟨304, contentHeaders.foldl (fun headers name => without name headers) headers, none⟩
  else ⟨answer.status, headers, some answer.content⟩

/-- A page forbids what it does not need itself, and has no tag. -/
def page (answer : Answer) (held : List (String × String)) (text : String) : Response :=
  ⟨answer.status,
    [("content-security-policy", "default-src 'none'"), ("x-content-type-options", "nosniff"),
      ("content-type", "text/html; charset=utf-8"),
      ("content-length", toString (Utf8.encode text).length)].foldl
      (fun headers header => put headers header.1 header.2) held,
    some answer.content⟩

/-- The response that an answer leaves as, over the headers that were set before. -/
def ofAnswer (answer : Answer) (request : Request) (held : List (String × String)) : Response :=
  let response := match answer.content with
    | .json value => sent answer request held "application/json" value.render
    | .text text => sent answer request held "text/html" text
    | .page text => page answer held text
  if request.method = "HEAD" then { response with content := none } else response

end Response
end TenantAccess
