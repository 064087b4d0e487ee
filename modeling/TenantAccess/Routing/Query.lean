import TenantAccess.Json.Basic
import TenantAccess.Text.Percent
import TenantAccess.Text.Search

/-! Query parameters. A name may be followed by bracketed names, which make lists and records; a name
that is given again makes a list. A plus is a space, and an escape that spells nothing is kept. -/

namespace TenantAccess.Query

/-- How many parameters are looked at, how deep brackets go, and how far a list can be numbered. -/
def parameterLimit : Nat := 1000
def depthLimit : Nat := 5
def indexLimit : Nat := 20

def unescape (text : List Char) : String :=
  let spaced := String.ofList (text.map fun c => if c = '+' then ' ' else c)
  (Percent.decode? spaced).getD spaced

/-- Escaped brackets count as brackets. -/
def openBrackets : List Char → List Char
  | '%' :: '5' :: c :: rest =>
    if c = 'B' || c = 'b' then '[' :: openBrackets rest
    else if c = 'D' || c = 'd' then ']' :: openBrackets rest
    else '%' :: '5' :: openBrackets (c :: rest)
  | c :: rest => c :: openBrackets rest
  | [] => []
termination_by text => text.length

/-- A parameter splits at the equals sign after its last bracket, else at its first equals sign. -/
def splitParameter (parameter : List Char) : String × String :=
  match Text.cutAt? [']', '='] parameter with
  | some (before, after) => (unescape (before ++ [']']), unescape after)
  | none => match Text.cutAt? ['='] parameter with
    | some (before, after) => (unescape before, unescape after)
    | none => (unescape parameter, "")

/-- A name that is given again collects its values. -/
def collect (found : Fields) (name : String) (value : Json) : Fields :=
  match found.get? name with
  | none => found.put name value
  | some (.list values) => found.put name (.list (values ++ [value]))
  | some first => found.put name (.list [first, value])

/-- An empty bracket makes a list by itself. -/
def parameters (query : String) : Fields :=
  ((openBrackets query.toList).splitOn '&' |>.take parameterLimit).foldl (fun found parameter =>
    let (name, value) := splitParameter parameter
    collect found name (.text value)) []

/-- The inside of a bracketed part, up to the bracket that closes it, and what follows. Brackets inside
are closed first; `level` counts those that are open. -/
def closeBracket? : Nat → List Char → Option (List Char × List Char)
  | _, [] => none
  | 0, ']' :: rest => some ([], rest)
  | level + 1, ']' :: rest => (closeBracket? level rest).map fun (inner, after) => (']' :: inner, after)
  | level, '[' :: rest => (closeBracket? (level + 1) rest).map fun (inner, after) => ('[' :: inner, after)
  | level, c :: rest => (closeBracket? level rest).map fun (inner, after) => (c :: inner, after)

/-- The bracketed parts of a name. What is never closed, or lies deeper than is followed, is one part
with its bracket; what stands between two parts is passed over. -/
def brackets (depth : Nat) (text : List Char) : List (List Char) :=
  match text.dropWhile (· != '['), depth with
  | [], _ => []
  | beyond, 0 => [beyond]
  | bracket :: rest, depth + 1 => match closeBracket? 0 rest with
    | some (inner, after) => inner :: brackets depth after
    | none => [bracket :: rest]

/-- The steps that lead to a value: the bare start of its name, and the bracketed parts after it. -/
def steps (name : String) : List (Bool × String) :=
  let text := name.toList
  let start := text.takeWhile (· != '[')
  (if start.isEmpty then [] else [(false, String.ofList start)]) ++
    (brackets depthLimit (text.drop start.length)).map fun part => (true, String.ofList part)

def isIndex (name : String) : Bool :=
  match name.toNat? with
  | some n => n ≤ indexLimit && toString n = name
  | none => false

/-- The value at the end of its steps. One name is never followed, because it is everybody's. -/
def nest (value : Json) : List (Bool × String) → Json
  | [] => value
  | (bracketed, name) :: rest =>
    let inner := nest value rest
    if bracketed && name = "" then
      match inner with
      | .list _ => inner
      | _ => .list [inner]
    else if bracketed && isIndex name then .list [inner]
    else if name = "__proto__" then .record []
    else .record [(name, inner)]

def numbered (items : List Json) : Fields :=
  items.zipIdx.map fun (item, index) => (toString index, item)

/-- Two values for one name are put together; an empty text adds nothing. -/
def merge (target source : Json) : Nat → Json
  | 0 => target
  | depth + 1 => match target, source with
    | target, .text "" => target
    | .list items, .list more => .list (items ++ more)
    | .list items, .record fields => mergeFields depth (numbered items) fields
    | .list items, source => .list (items ++ [source])
    | .record fields, .record more => mergeFields depth fields more
    | .record fields, .list items => mergeFields depth fields (numbered items)
    | .record fields, .text name => .record (Fields.put fields name (.boolean true))
    | .record fields, _ => .record fields
    | target, .list items => .list (target :: items)
    | target, source => .list [target, source]
where
  mergeFields (depth : Nat) (fields more : Fields) : Json :=
    .record (more.foldl (fun fields (name, value) =>
      match Fields.get? fields name with
      | some present => Fields.put fields name (merge present value depth)
      | none => Fields.put fields name value) fields)

def parse (query : String) : Fields :=
  (parameters query).foldl (fun found (name, value) =>
    match nest value (steps name) with
    | .record fields => fields.foldl (fun found (name, value) =>
        match Fields.get? found name with
        | some present => Fields.put found name (merge present value (depthLimit + 2))
        | none => Fields.put found name value) found
    | .list items => (numbered items).foldl (fun found (name, value) => collect found name value) found
    | _ => found) []

end TenantAccess.Query
