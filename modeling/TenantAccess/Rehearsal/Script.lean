import TenantAccess.Json.Access
import TenantAccess.Json.Printer
import TenantAccess.Rehearsal.Database

/-! The script of a rehearsal, written as values of the interchange format: what is raised, what the
outside answers and when, what the database holds. -/

namespace TenantAccess

/-- An error that is given no name, or an empty one, goes by the plainest. -/
def Failure.namedBy (script : Json) : Failure :=
  .error (((script.textAt? "name").filter (· ≠ "")).getD "Error")
    ((script.at? "message").elim "" fun message => (message.display?).getD "")

/-- A text is the message of an error; a record describes an error, or holds a bare value. -/
def Failure.ofScript : Json → Failure
  | .text message => .error "Error" message
  | script => match script.at? "value" with
    | some value => .bare (some value)
    | none => Failure.namedBy script

def Failure.scripted? (script : Json) (name : String) : Option Failure :=
  (script.at? name).map Failure.ofScript

def Signal.ofScript (script : Json) : Signal :=
  match script.textAt? "abort" with
  | some "before" => .beforehand
  | some "during" => .duringRequest
  | _ => .never

namespace Rehearsal

/-- A reply that hangs never comes; one that throws is refused, or cannot be read. -/
def Cue.ofScript (script : Json) : Cue :=
  let status := ((script.intAt? "status").getD 200).toNat
  let text := match script.at? "json" with
    | some value => value.render
    | none => script.textAt "text"
  let reply : FetchReply :=
    if script.boolAt "hang" false then .unanswered
    else match Failure.scripted? script "throw", Failure.scripted? script "text_throw" with
      | some failure, _ => .refused failure
      | none, some failure => .answered status (.error failure)
      | none, none => .answered status (.ok text)
  ⟨(script.numberAt? "advance_ms").getD 0, reply⟩

def Cue.scripted (script : Json) : Cue := Cue.ofScript ((script.at? "response").getD .null)

def Cue.listAt (script : Json) (name : String) : List Cue := (script.listAt name).map Cue.ofScript

/-- The clock is set first and then moved on. -/
def Scene.clocked (scene : Scene) (script : Json) : Scene :=
  { scene with
    now := ((script.numberAt? "now_ms").getD scene.now).add ((script.numberAt? "advance_ms").getD 0) }

def Database.ofScript (script : Json) : Database where
  memberships := (script.listAt "memberships").map fun row =>
    ⟨row.textAt "user", row.textAt "org", row.fieldsAt "row"⟩
  organizations := (script.listAt "organizations").map fun row => ⟨row.textAt "org", row.fieldsAt "row"⟩
  connectFails := Failure.scripted? script "connect_fails"
  queryFails := Failure.scripted? script "query_fails"
  failsOn := script.textAt? "query_fails_on"

def Database.scripted (script : Json) : Database := ((script.at? "db").map Database.ofScript).getD .empty

end Rehearsal
end TenantAccess
