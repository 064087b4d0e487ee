import TenantAccess.Json.Basic

/-! Looking up the fields of a value that may not be a record, and may hold something else there than
what is looked for. -/

namespace TenantAccess.Json

def at? (value : Json) (name : String) : Option Json :=
  value.record?.bind (Fields.get? · name)

def number? : Json → Option Number
  | .number value => some value
  | _ => none

def items : Json → List Json
  | .list items => items
  | _ => []

def fields : Json → Fields
  | .record fields => fields
  | _ => []

def textAt? (value : Json) (name : String) : Option String := (value.at? name).bind text?

def textAt (value : Json) (name : String) : String := (value.textAt? name).getD ""

def numberAt? (value : Json) (name : String) : Option Number := (value.at? name).bind number?

/-- Fractions are cut off. -/
def intAt? (value : Json) (name : String) : Option Int :=
  match value.numberAt? name with
  | some (.finite value) => some (Number.truncate value)
  | _ => none

def boolAt (value : Json) (name : String) (default : Bool) : Bool :=
  match value.at? name with
  | some (.boolean value) => value
  | _ => default

def listAt (value : Json) (name : String) : List Json := ((value.at? name).map items).getD []

def fieldsAt (value : Json) (name : String) : Fields := ((value.at? name).map fields).getD []

end TenantAccess.Json
