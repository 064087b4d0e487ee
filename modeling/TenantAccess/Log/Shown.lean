import TenantAccess.Json.Basic

/-! How errors and requests look when they are logged as fields. A record with a message text counts as
an error, and one with a method, headers and a socket as a request. -/

namespace TenantAccess.LogShown

def truthy? (fields : Fields) (name : String) : Option Json := (fields.get? name).filter (·.isTruthy)

def errorMessage? : Json → Option String
  | .record fields => (Fields.get? fields "message").bind Json.text?
  | _ => none

def isError (value : Json) : Bool := (errorMessage? value).isSome

/-- What kind of thing an error is: a plain record, unless it says otherwise itself. -/
def kindOf (fields : Fields) : Option Json :=
  if (fields.get? "constructor").isSome then fields.get? "name" else some (.text "Object")

mutual

/-- The message of an error, followed by those of its causes. -/
def message : Json → String
  | .record fields =>
    (((Fields.get? fields "message").bind Json.text?).getD "") ++ causeMessage fields
  | _ => ""

def causeMessage : List (String × Json) → String
  | [] => ""
  | (name, value) :: rest =>
    if name = "cause" then (if isError value then ": " ++ message value else "") else causeMessage rest

end

mutual

/-- Where an error came from, followed by where its causes did. -/
def stack : Json → Json
  | .record fields =>
    let own := (truthy? fields "stack").getD (.text "")
    match causeStack? fields with
    | some cause => .text ((own.display?).getD "" ++ "\ncaused by: " ++ (cause.display?).getD "")
    | none => own
  | _ => .text ""

def causeStack? : List (String × Json) → Option Json
  | [] => none
  | (name, value) :: rest =>
    if name = "cause" then (if isError value then some (stack value) else none) else causeStack? rest

end

/-- Names that an error's own fields cannot take in a line. -/
def takenNames : List String :=
  ["type", "message", "stack", "raw", "__proto__", "constructor", "toString", "toLocaleString", "valueOf",
    "hasOwnProperty", "isPrototypeOf", "propertyIsEnumerable", "__defineGetter__", "__defineSetter__",
    "__lookupGetter__", "__lookupSetter__"]

def head (fields : Fields) : Fields :=
  ((kindOf fields).map fun kind => ("type", kind)).toList ++
    [("message", .text (message (.record fields))), ("stack", stack (.record fields))]

mutual

/-- An error with its kind, its message and where it came from; any other value as it is. -/
def error : Json → Json
  | .record fields =>
    if isError (.record fields) then
      let gathered := head fields ++ aggregate fields
      .record (gathered ++ (errorFields fields).filter fun field => (Fields.get? gathered field.1).isNone)
    else .record fields
  | value => value

/-- The other fields of an error; a cause is told already. -/
def errorFields : List (String × Json) → List (String × Json)
  | [] => []
  | (name, value) :: rest =>
    if takenNames.contains name || (name = "cause" && isError value) then errorFields rest
    else (name, error value) :: errorFields rest

/-- The errors that an error gathers. -/
def aggregate : List (String × Json) → List (String × Json)
  | [] => []
  | (name, value) :: rest =>
    if name = "errors" then gathered value else aggregate rest

def gathered : Json → List (String × Json)
  | .list items => [("aggregateErrors", .list (errorItems items))]
  | _ => []

def errorItems : List Json → List Json
  | [] => []
  | item :: rest => error item :: errorItems rest

end

def isRequest (fields : Fields) : Bool :=
  ["method", "headers", "socket"].all fun name => (truthy? fields name).isSome

def member? (value : Json) (name : String) : Option Json := value.record?.bind (Fields.get? · name)

/-- The address of a request: as it arrived, else its path, else what it says itself. -/
def urlOf (fields : Fields) : Option Json :=
  match truthy? fields "originalUrl", fields.get? "path" with
  | some url, _ => some url
  | none, some (.text path) => some (.text path)
  | none, _ => (truthy? fields "url").map fun url => ((member? url "path").filter (·.isTruthy)).getD url

def request (fields : Fields) : Fields :=
  let info := truthy? fields "info"
  let connection := info.or (fields.get? "socket")
  let shown : List (String × Option Json) := [
    ("id", (truthy? fields "id").or (info.bind (member? · "id"))),
    ("method", fields.get? "method"), ("url", urlOf fields), ("query", truthy? fields "query"),
    ("params", truthy? fields "params"), ("headers", fields.get? "headers"),
    ("remoteAddress", connection.bind (member? · "remoteAddress")),
    ("remotePort", connection.bind (member? · "remotePort"))]
  [("req", .record (shown.filterMap fun (name, value) => value.map (name, ·)))]

/-- The fields as they are written: those of a request become one field, and the field `err` shows an
error. -/
def fields (given : Fields) : Fields :=
  if isRequest given then request given
  else given.map fun (name, value) => (name, if name = "err" then error value else value)

/-- Without a message of its own a line takes that of its error. -/
def messageOf? (given : Fields) (message : Option Json) : Option Json :=
  message.or (if isRequest given then none else (given.get? "err").bind (member? · "message"))

end TenantAccess.LogShown
