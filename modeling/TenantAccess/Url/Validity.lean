import TenantAccess.Url.Host

/-! Which texts are absolute addresses. Only what can make an address fail is looked at: its scheme,
its host and its port; everything after them is taken as it is. -/

namespace TenantAccess.Url

def isMargin (c : Char) : Bool := c.toNat ≤ 0x20

/-- Controls and spaces at both ends do not count, nor do tabs and line ends anywhere. -/
def cleaned (text : List Char) : List Char :=
  let inner := ((text.dropWhile isMargin).reverse.dropWhile isMargin).reverse
  inner.filter fun c => c != '\t' && c != '\n' && c != '\r'

def isSchemeCharacter (c : Char) : Bool :=
  c.isAlphanum || c == '+' || c == '-' || c == '.'

/-- The scheme in small letters, and what follows its colon. -/
def scheme? (text : List Char) : Option (String × List Char) :=
  let scheme := text.takeWhile isSchemeCharacter
  match scheme, text.dropWhile isSchemeCharacter with
  | first :: _, ':' :: rest =>
    if first.isAlpha then some (String.ofList (scheme.map Char.toLower), rest) else none
  | _, _ => none

def specialSchemes : List String := ["http", "https", "ws", "wss", "ftp"]

def endsAuthority (special : Bool) (c : Char) : Bool :=
  c == '/' || c == '?' || c == '#' || (special && c == '\\')

/-- What follows the last at-sign, and whether there is one. -/
def afterUser (authority : List Char) : Bool × List Char :=
  (authority.contains '@', (authority.reverse.takeWhile (· != '@')).reverse)

/-- Splits a port off at the first colon outside of brackets. -/
def splitPort (inBrackets : Bool) : List Char → List Char × Option (List Char)
  | [] => ([], none)
  | c :: rest =>
    if c == ':' && !inBrackets then ([], some rest)
    else
      let (host, port) := splitPort (c == '[' || (inBrackets && c != ']')) rest
      (c :: host, port)

def isPort (text : List Char) : Bool :=
  text.all (fun c => '0' ≤ c && c ≤ '9') &&
    text.foldl (fun n c => n * 10 + (c.toNat - '0'.toNat)) 0 ≤ 65535

/-- A host may be left out only under a scheme that is not well known, and then with its port. -/
def isAuthority (special : Bool) (authority : List Char) : Bool :=
  let (hasUser, rest) := afterUser authority
  let (host, port) := splitPort false rest
  if host.isEmpty then !special && !hasUser && port.isNone
  else Host.isHost special host && isPort (port.getD [])

def isSpecialRest (rest : List Char) : Bool :=
  isAuthority true ((rest.dropWhile fun c => c == '/' || c == '\\').takeWhile (!endsAuthority true ·))

/-- Whether two letters and a bar or colon name a drive. -/
def isDrive (text : List Char) : Bool :=
  match text with
  | [letter, mark] => letter.isAlpha && (mark == ':' || mark == '|')
  | _ => false

/-- A local file has a host only after two slashes, and a drive is none. -/
def isFileRest (rest : List Char) : Bool :=
  let isSlash (c : Char) := c == '/' || c == '\\'
  if (rest.take 2).length = 2 && (rest.take 2).all isSlash then
    let host := (rest.drop 2).takeWhile (!endsAuthority true ·)
    host.isEmpty || isDrive host || Host.isHost true host
  else true

def isOtherRest (rest : List Char) : Bool :=
  match rest with
  | '/' :: '/' :: rest => isAuthority false (rest.takeWhile (!endsAuthority false ·))
  | _ => true

def isValid (text : String) : Bool :=
  match scheme? (cleaned text.toList) with
  | none => false
  | some (scheme, rest) =>
    if scheme = "file" then isFileRest rest
    else if specialSchemes.contains scheme then isSpecialRest rest
    else isOtherRest rest

end TenantAccess.Url
