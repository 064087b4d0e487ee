import TenantAccess.Log
import TenantAccess.Log.Shown

/-! Log entries as the lines that are written: one record each, with the gravity of its level first
and its message last. Two headers of a request never reach a line. -/

namespace TenantAccess.LogLine

def redacted : Json := .text "[Redacted]"

/-- Covers what stands at the end of a path of names, if anything does. -/
def cover : List String → Json → Json
  | [], _ => redacted
  | name :: path, .record fields =>
    .record (fields.map fun (other, value) => (other, if other = name then cover path value else value))
  | _, value => value

/-- The headers that carry a caller's token and address. -/
def coveredPaths : List (List String) :=
  [["req", "headers", "authorization"], ["req", "headers", "x-email"]]

def redact (fields : Fields) : Json := coveredPaths.foldl (fun value path => cover path value) (.record fields)

/-- A field takes the place of the line's own field of that name, and the message comes last. -/
def compose (gravity : Nat) (fields : Fields) (message : Option Json) : Fields :=
  let shown := (redact (LogShown.fields fields)).record?.getD []
  let line := shown.foldl (fun line field => line.put field.1 field.2)
    (Fields.ofList [("level", .ofNat gravity)])
  match LogShown.messageOf? fields message with
  | some message => line.put "msg" message
  | none => line

/-- The line of an entry, none when its level is below the one asked for. -/
def write? (threshold level : LogLevel) (fields : Fields)
    (message : Option Json) : Option Fields :=
  match threshold.gravity?, level.gravity? with
  | some least, some gravity => if least ≤ gravity then some (compose gravity fields message) else none
  | _, _ => none

/-- An error that is logged as a field shows nothing of itself; a missing value is no field. -/
def fieldOf? : LogValue → Option Json
  | .plain value => some value
  | .failure (.bare value) => value
  | .failure (.error _ _) | .failure (.ownership _ _) => some (.record [])

def ofEntry? (threshold : LogLevel) (entry : LogEntry) : Option Fields :=
  write? threshold entry.severity.level
    (entry.fields.filterMap fun (name, value) => (fieldOf? value).map fun value => (name, value))
    (some (.text entry.message))

end TenantAccess.LogLine
