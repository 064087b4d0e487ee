import TenantAccess.Text.Blank

/-! Names of tables and columns in statements. A dotted name is quoted part by part, and a quote
inside a part is written twice, so no name can end its quotes early. -/

namespace TenantAccess.Sql

/-- A part of a name that has nothing in it. -/
structure EmptyIdentifier where
  part : String
  deriving DecidableEq, Repr

def EmptyIdentifier.message (error : EmptyIdentifier) : String :=
  "empty SQL identifier in \"" ++ error.part ++ "\""

/-- What stands inside one pair of enclosing quotes, or the part itself without them. -/
def unwrap : List Char → List Char
  | '"' :: rest => if rest.getLast? = some '"' then rest.dropLast else '"' :: rest
  | part => part

def doubleQuotes (name : List Char) : List Char :=
  name.flatMap fun c => if c = '"' then ['"', '"'] else [c]

/-- A name between quotes. -/
def quoted (name : List Char) : List Char := '"' :: doubleQuotes name ++ ['"']

def quoteName (name : String) : String := String.ofList (quoted name.toList)

def quotePart (part : List Char) : Except EmptyIdentifier (List Char) :=
  match unwrap (Text.trimmed part) with
  | [] => .error ⟨String.ofList part⟩
  | name => .ok (quoted name)

/-- The parts of a name between its dots, quoted one after the other; the first empty one fails. -/
def quoteParts : List (List Char) → Except EmptyIdentifier (List (List Char))
  | [] => .ok []
  | part :: rest => match quotePart part with
    | .error error => .error error
    | .ok quoted => match quoteParts rest with
      | .error error => .error error
      | .ok others => .ok (quoted :: others)

def quoteIdentifier (name : String) : Except EmptyIdentifier String :=
  match quoteParts (name.toList.splitOn '.') with
  | .error error => .error error
  | .ok parts => .ok (String.ofList (['.'].intercalate parts))

end TenantAccess.Sql
