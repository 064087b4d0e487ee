import TenantAccess.Http.Header

/-! What a body says it is: a type, and parameters that may be given in quotes. -/

namespace TenantAccess

structure MediaType where
  name : String
  parameters : List (String × String)
  deriving DecidableEq, Repr

namespace MediaType

def skipSpaces (text : List Char) : List Char := text.dropWhile (· == ' ')

/-- A quoted value up to its closing quote; a backslash stands before a character meant as it is. -/
def quoted? : List Char → Option (List Char × List Char)
  | '"' :: rest => some ([], rest)
  | '\\' :: c :: rest =>
    if ' ' ≤ c && c ≤ '~' then (quoted? rest).map fun (value, rest) => (c :: value, rest) else none
  | c :: rest =>
    if c ≠ '\\' && ((' ' ≤ c && c ≤ '~') || (0x80 ≤ c.toNat && c.toNat ≤ 0xFF)) then
      (quoted? rest).map fun (value, rest) => (c :: value, rest)
    else none
  | [] => none

def value? (text : List Char) : Option (List Char × List Char) :=
  match text with
  | '"' :: rest => quoted? rest
  | _ =>
    let value := text.takeWhile Header.isNameCharacter
    if value.isEmpty then none else some (value, text.drop value.length)

/-- One parameter behind its semicolon. -/
def parameter? (text : List Char) : Option ((String × String) × List Char) :=
  let text := skipSpaces text
  let name := text.takeWhile Header.isNameCharacter
  if name.isEmpty then none
  else match skipSpaces (text.drop name.length) with
    | '=' :: rest => (value? (skipSpaces rest)).map fun (value, rest) =>
      (((String.ofList name).map Char.toLower, String.ofList value), skipSpaces rest)
    | _ => none

/-- Every parameter takes at least its semicolon, so the text's length bounds their number. -/
def parameters? : Nat → List Char → Option (List (String × String))
  | _, [] => some []
  | count + 1, ';' :: rest => (parameter? rest).bind fun (parameter, rest) =>
    (parameters? count rest).map (parameter :: ·)
  | _, _ => none

/-- A text with a malformed part says nothing at all. -/
def ofText? (text : String) : Option MediaType :=
  let start := text.toList.takeWhile (· != ';')
  let name := (skipSpaces (skipSpaces start).reverse).reverse
  let rest := text.toList.drop start.length
  (parameters? rest.length rest).map fun parameters =>
    ⟨(String.ofList name).map Char.toLower, parameters⟩

/-- The last parameter of a name counts. -/
def parameter (type : MediaType) (name : String) : Option String :=
  type.parameters.reverse.lookup name

/-- A value that is no plain name is written in quotes. -/
def quotedValue (value : String) : String :=
  if Header.isName value then value
  else
    let escaped := value.toList.flatMap fun c => if c == '"' || c == '\\' then ['\\', c] else [c]
    "\"" ++ String.ofList escaped ++ "\""

/-- The parameters are written in the order of their names, each once. -/
def toText (type : MediaType) : String :=
  let names := (type.parameters.map (·.1)).eraseDups.mergeSort (· ≤ ·)
  names.foldl (fun text name =>
    text ++ "; " ++ name ++ "=" ++ quotedValue ((type.parameter name).getD "")) type.name

def withParameter (type : MediaType) (name value : String) : MediaType :=
  { type with parameters := type.parameters ++ [(name, value)] }

end MediaType
end TenantAccess
