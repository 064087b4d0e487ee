import TenantAccess.Text.Lowercase

/-! Headers of a request as they are looked up: each name once, in small letters, with the values that
were sent under it put together. -/

namespace TenantAccess.Header

def isSpace (c : Char) : Bool := c == ' ' || c == '\t'

def trimValue (value : String) : String :=
  String.ofList ((value.toList.dropWhile isSpace).reverse.dropWhile isSpace).reverse

/-- Names of which only the first value counts. -/
def singular : List String :=
  ["age", "authorization", "content-length", "content-type", "etag", "expires", "from", "host",
    "if-modified-since", "if-unmodified-since", "last-modified", "location", "max-forwards",
    "proxy-authorization", "referer", "retry-after", "server", "user-agent"]

/-- The one name whose values stay apart, so it never holds a single text. -/
def plural : String := "set-cookie"

def separator (name : String) : String := if name = "cookie" then "; " else ", "

def add (headers : List (String × String)) (sent : String × String) : List (String × String) :=
  let name := sent.1.map Char.toLower
  let value := trimValue sent.2
  if name = plural then headers
  else if (headers.lookup name).isNone then headers ++ [(name, value)]
  else if singular.contains name then headers
  else headers.map fun (other, first) =>
    (other, if other = name then first ++ separator name ++ value else first)

def collect (sent : List (String × String)) : List (String × String) := sent.foldl add []

def isNameCharacter (c : Char) : Bool :=
  c.isAlphanum || "!#$%&'*+-.^_`|~".toList.contains c

/-- Whether a header of this name can be sent at all. -/
def isName (name : String) : Bool := !name.isEmpty && name.toList.all isNameCharacter

/-- Names are looked up in small letters, whatever letters they were configured with. -/
def key (name : String) : String := Text.lowercase name

end TenantAccess.Header
