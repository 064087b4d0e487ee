import TenantAccess.Text.Blank
import TenantAccess.Text.Lowercase
import TenantAccess.Text.Percent
import TenantAccess.Text.Search
import TenantAccess.Url.Domain

/-! The target of a request line, split into its path and its query. Most targets are a path with
perhaps a query behind it. Every other one is read as an address, which can have a scheme, a user, a host
and a fragment; none of these belongs to the path. -/

namespace TenantAccess.Target

/-- A target may be an address without any path. -/
structure Parts where
  path : Option String
  query : String
  deriving DecidableEq, Repr

/-- Characters that make a target something else than a path and a query. -/
def isUnusual (c : Char) : Bool := "\t\n\x0C\r #\u00A0\uFEFF".toList.contains c

/-- Splits at the first question mark. -/
def splitQuery (text : List Char) : Parts :=
  ⟨some (String.ofList (text.takeWhile (· != '?'))), String.ofList ((text.dropWhile (· != '?')).drop 1)⟩

namespace Address

def isMargin (c : Char) : Bool := c.toNat < 33 || c == '\u00A0' || c == '\uFEFF'

def endsPath (c : Char) : Bool := c == '?' || c == '#'

/-- Blanks around an address do not count, and backslashes in front of its query are slashes. -/
def cleaned (text : List Char) : List Char :=
  let inner := ((text.dropWhile isMargin).reverse.dropWhile isMargin).reverse
  (inner.takeWhile (!endsPath ·)).map (fun c => if c = '\\' then '/' else c) ++
    inner.dropWhile (!endsPath ·)

def slashes (text : List Char) : Nat := (text.takeWhile (· == '/')).length

/-- A path after all: one or two slashes at the start, and no user, fragment or blank. -/
def isPlain (text : List Char) : Bool :=
  1 ≤ slashes text && slashes text ≤ 2 && !text.any Text.isBlank && !text.contains '#' &&
    !(text.takeWhile (!endsPath ·)).contains '@'

def isSchemeCharacter (c : Char) : Bool := c.isAlphanum || c == '.' || c == '+' || c == '-'

/-- The scheme in front of a colon, and what follows. -/
def scheme? (text : List Char) : Option (List Char × List Char) :=
  let scheme := text.takeWhile isSchemeCharacter
  match text.drop scheme.length with
  | ':' :: rest => if scheme.isEmpty then none else some (scheme, rest)
  | _ => none

/-- Schemes whose addresses always have a path. -/
def pathSchemes : List String := ["http", "https", "ftp", "gopher", "file", "ws", "wss"]

/-- The one scheme that has no host, and nothing of which is escaped. -/
def hostlessScheme : String := "javascript"

/-- Without a scheme, two slashes begin a host only when it has a user. -/
def hasUser (text : List Char) : Bool :=
  match text with
  | '/' :: '/' :: rest =>
    let user := rest.takeWhile fun c => c != '@' && c != '/'
    match rest.drop user.length with
    | '@' :: c :: _ => !user.isEmpty && c != '@' && c != '/'
    | _ => false
  | _ => false

/-- Characters that end a host wherever they stand behind its user. -/
def endsHost (c : Char) : Bool := " \"%';<>\\^`\x7b|\x7d".toList.contains c

def endsAuthority (c : Char) : Bool := c == '#' || c == '/' || c == '?'

/-- The user, the host, and what follows them. -/
def splitAuthority (text : List Char) : List Char × List Char × List Char :=
  let authority := (text.takeWhile (!endsAuthority ·)).filter fun c => c != '\t' && c != '\n' && c != '\r'
  let behindUser := (authority.reverse.takeWhile (· != '@')).reverse
  let user := authority.take (authority.length - behindUser.length - 1)
  let host := behindUser.takeWhile (!endsHost ·)
  (user, host, behindUser.drop host.length ++ text.dropWhile (!endsAuthority ·))

/-- A host without the number behind its last colon. -/
def withoutPort (host : List Char) : List Char :=
  match host.reverse.dropWhile Char.isDigit with
  | ':' :: rest => rest.reverse
  | _ => host

def isBracketed (host : List Char) : Bool := host.head? == some '[' && host.getLast? == some ']'

def longestHost : Nat := 255

def isForbidden (c : Char) : Bool := "\x00\t\n\r #%/:<>?@[\\]^|".toList.contains c

/-- Colons and brackets may stand in a host between brackets. -/
def isForbiddenInBrackets (c : Char) : Bool := isForbidden c && !":[]".toList.contains c

/-- Whether a host names something; one that is missing does no harm. -/
def isHost (host : List Char) : Bool :=
  if host.isEmpty then true
  else if isBracketed host then !host.any isForbiddenInBrackets
  else match Url.Domain.labels? (Text.lowercase (String.ofList host)).toList with
    | some labels => labels != [[]] && !labels.any (·.any isForbidden)
    | none => false

/-- The host, and what follows it as a path. What stands behind a colon that begins no number belongs to
the path. -/
def splitHost (host rest : List Char) : List Char × List Char :=
  let host := withoutPort host
  if isBracketed host then (host, if rest.head? == some '/' then rest else '/' :: rest)
  else
    let name := host.takeWhile (· != ':')
    let rest := if name.length < host.length then '/' :: host.drop name.length ++ rest else rest
    (if longestHost < name.length then [] else name, rest)

def escaped (c : Char) : List Char :=
  match c with
  | '\t' => "%09".toList
  | '\n' => "%0A".toList
  | '\r' => "%0D".toList
  | ' ' => "%20".toList
  | '"' => "%22".toList
  | '\'' => "%27".toList
  | '<' => "%3C".toList
  | '>' => "%3E".toList
  | '\\' => "%5C".toList
  | '^' => "%5E".toList
  | '`' => "%60".toList
  | '\x7b' => "%7B".toList
  | '|' => "%7C".toList
  | '\x7d' => "%7D".toList
  | _ => [c]

/-- The parts of what follows the host. An empty path is none, unless the scheme and the host ask for
one. -/
def partsOf (text : List Char) (needsPath : Bool) : Parts :=
  let path := text.takeWhile (!endsPath ·)
  let shown := if path.isEmpty && needsPath then ['/'] else path
  let query := match text.drop path.length with
    | '?' :: rest => rest.takeWhile (· != '#')
    | _ => []
  ⟨if shown.isEmpty then none else some (String.ofList shown), String.ofList query⟩

def readHost? (scheme : Option String) (text : List Char) : Option Parts :=
  let (user, authority, rest) := splitAuthority text
  let (host, rest) := splitHost authority rest
  let needsPath := !host.isEmpty && (scheme.map pathSchemes.contains).getD false
  if (Percent.decode? (String.ofList user)).isSome && isHost host then
    some (partsOf (rest.flatMap escaped) needsPath)
  else none

/-- The parts of an address, none when its user or its host cannot be read. -/
def read? (text : List Char) : Option Parts :=
  let text := cleaned text
  if isPlain text then some (splitQuery text)
  else match scheme? text with
    | some (scheme, rest) =>
      let scheme := (String.ofList scheme).map Char.toLower
      if scheme = hostlessScheme then some (partsOf rest false)
      else match rest with
        | '/' :: '/' :: rest => readHost? (some scheme) rest
        | _ =>
          if pathSchemes.contains scheme then some (partsOf (rest.flatMap escaped) false)
          else readHost? (some scheme) rest
    | none =>
      if hasUser text then readHost? none (text.drop 2) else some (partsOf (text.flatMap escaped) false)

end Address

def parse? (target : String) : Option Parts :=
  let text := target.toList
  if text.head? == some '/' && !text.any isUnusual then some (splitQuery text) else Address.read? text

def path? (target : String) : Option String := (parse? target).bind (·.path)

def query (target : String) : String := ((parse? target).map (·.query)).getD ""

/-- The scheme and the host that an address begins with. They stay in front when a part of the path is
taken away. -/
def origin (target : List Char) : List Char :=
  if target.head? == some '/' then []
  else match Text.cutAt? "://".toList (target.takeWhile (· != '?')) with
    | none => []
    | some (scheme, _) =>
      let behind := target.drop (scheme.length + 3)
      let host := behind.takeWhile (· != '/')
      if host.length < behind.length then target.take (scheme.length + 3 + host.length) else []

/-- A target without the given part of its path; what is left of the path begins with a slash. -/
def without (target taken : List Char) : List Char :=
  let host := origin target
  let rest := target.drop (host.length + taken.length)
  if host.isEmpty && rest.head? != some '/' then '/' :: rest else host ++ rest

/-- A target after a part of its path was taken away and put back in the form it was found in. -/
def restored (target taken : List Char) : List Char :=
  let host := origin target
  host ++ taken ++ target.drop (host.length + taken.length)

end TenantAccess.Target
