import TenantAccess.Json.Token

/-! Reading a value from its tokens. Open lists and records wait on a stack, so nesting costs no
depth of recursion, and each token is looked at once. -/

namespace TenantAccess.Json

/-- A list or record that is still open; what it holds so far, latest first. -/
inductive Frame where
  | list (items : List Json)
  | record (fields : List (String × Json))
  | field (fields : List (String × Json)) (name : String)

/-- What may come next. -/
inductive Expecting where
  | value
  | valueOrClose
  | nameOrClose
  | name
  | colon
  | separator
  | nothing

structure Reader where
  frames : List Frame
  expecting : Expecting
  result : Json

namespace Reader

def start : Reader := ⟨[], .value, .null⟩

/-- A finished value goes into the innermost open frame, or is the result. -/
def finish (frames : List Frame) (value : Json) : Option Reader :=
  match frames with
  | [] => some ⟨[], .nothing, value⟩
  | .list items :: rest => some ⟨.list (value :: items) :: rest, .separator, .null⟩
  | .field fields name :: rest => some ⟨.record ((name, value) :: fields) :: rest, .separator, .null⟩
  | .record _ :: _ => none

/-- The frame that ends here becomes a value. -/
def close (frames : List Frame) (isList : Bool) : Option Reader :=
  match frames with
  | .list items :: rest => if isList then finish rest (.list items.reverse) else none
  | .record fields :: rest => if isList then none else finish rest (.record (Fields.ofList fields.reverse))
  | _ => none

def openValue (frames : List Frame) : Token → Option Reader
  | .listOpen => some ⟨.list [] :: frames, .valueOrClose, .null⟩
  | .recordOpen => some ⟨.record [] :: frames, .nameOrClose, .null⟩
  | .scalar value => finish frames value
  | _ => none

def nameField (frames : List Frame) (name : String) : Option Reader :=
  match frames with
  | .record fields :: rest => some ⟨.field fields name :: rest, .colon, .null⟩
  | _ => none

/-- After a comma a list wants a value and a record wants a name. -/
def separate (frames : List Frame) : Option Reader :=
  match frames with
  | .list _ :: _ => some ⟨frames, .value, .null⟩
  | .record _ :: _ => some ⟨frames, .name, .null⟩
  | _ => none

def read (reader : Reader) (token : Token) : Option Reader :=
  match reader.expecting, token with
  | .valueOrClose, .listClose => close reader.frames true
  | .value, token | .valueOrClose, token => openValue reader.frames token
  | .nameOrClose, .recordClose => close reader.frames false
  | .name, .scalar (.text name) | .nameOrClose, .scalar (.text name) => nameField reader.frames name
  | .colon, .colon => some ⟨reader.frames, .value, .null⟩
  | .separator, .comma => separate reader.frames
  | .separator, .listClose => close reader.frames true
  | .separator, .recordClose => close reader.frames false
  | _, _ => none

def readAll (reader : Reader) : List Token → Option Reader
  | [] => some reader
  | token :: rest => match reader.read token with
    | some reader => reader.readAll rest
    | none => none

def result? (reader : Reader) : Option Json :=
  match reader.expecting with
  | .nothing => some reader.result
  | _ => none

end Reader

/-- The value a text writes, none when it writes none. -/
def ofText? (text : String) : Option Json :=
  match Token.scan text.toList with
  | some tokens => (Reader.start.readAll tokens).bind Reader.result?
  | none => none

end TenantAccess.Json
