import TenantAccess.Crypto.Sha1
import TenantAccess.Http.HttpDate
import TenantAccess.Http.Header
import TenantAccess.Text.Base64
import TenantAccess.Text.Blank
import TenantAccess.Text.Search

/-! Whether a caller already holds what an answer would bring: contents go by tags, and a caller names
the tags, or the moment, of what it holds. -/

namespace TenantAccess.Freshness

/-- The tag of a content: its length and the start of its digest. -/
def tag (content : List UInt8) : String :=
  let digest := (Base64.encode (Crypto.Sha1.digest content)).take 27
  "W/\"" ++ String.ofList (Nat.toDigits 16 content.length) ++ "-" ++ String.ofList digest ++ "\""

/-- The part of a text between its spaces; other blanks belong to it. -/
def trimSpaces (text : List Char) : List Char :=
  ((text.dropWhile (· == ' ')).reverse.dropWhile (· == ' ')).reverse

/-- A weak tag and a strong one match when nothing but the weakness tells them apart. -/
def tagsMatch (named held : String) : Bool :=
  named == held || named == "W/" ++ held || "W/" ++ named == held

def namesTag (list : String) (held : String) : Bool :=
  (list.toList.splitOn ',').any fun named => tagsMatch (String.ofList (trimSpaces named)) held

/-- Whether one of the directives, in small letters and between blanks, asks for a new answer. -/
def asksAnew (directives : String) : Bool :=
  (directives.toList.splitOn ',').any fun directive => Text.trim (String.ofList directive) == "no-cache"

def isUnchangedSince (held : Option String) (since : String) : Bool :=
  match held.bind HttpDate.seconds?, HttpDate.seconds? since with
  | some changed, some since => changed ≤ since
  | _, _ => false

/-- Every condition that is given must hold, and one must be given. -/
def isFresh (headers : String → Option String) (tag changed : Option String) : Bool :=
  let given (name : String) := (headers name).filter (· ≠ "")
  let named := given "if-none-match"
  let since := given "if-modified-since"
  let conditions := [
    named.map fun list => list == "*" || (tag.map (namesTag list)).getD false,
    since.map (isUnchangedSince changed)].filterMap id
  !conditions.isEmpty && conditions.all id && !((given "cache-control").map asksAnew).getD false

end TenantAccess.Freshness
