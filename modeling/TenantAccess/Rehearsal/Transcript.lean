import TenantAccess.Rehearsal.World

/-! What was asked in a rehearsal, written down as values of the interchange format. -/

namespace TenantAccess.Rehearsal.Transcript

/-- A record of the fields that have a value. -/
def record (fields : List (String × Option Json)) : Json :=
  .record (fields.filterMap fun (name, value) => value.map (name, ·))

def orNull (value : Option Json) : Option Json := some (value.getD .null)

def text (value : String) : Option Json := some (.text value)

def call (request : FetchRequest) (timeout : Option Number) (aborted : Bool) : Json :=
  record [("url", text request.url), ("method", orNull (request.method.map .text)),
    ("headers", orNull (request.headers.map .record)), ("body", request.body.map .text),
    ("timeoutMs", timeout.map .number),
    ("aborted", if aborted then some (.boolean true) else none)]

/-- The outside requests; each is written with the delay of the timer that was armed for it. -/
def calls (timed : Bool) (timeout : Option Number) : List Exchanged → List Json
  | [] => []
  | ⟨.armTimer delay, _⟩ :: rest => calls timed (some delay) rest
  | ⟨.fetch request, reply⟩ :: rest =>
    let fired := request.signal == .beforehand || match (reply : FetchReply) with
      | .unanswered => true
      | _ => false
    call request (if timed then timeout else none) fired :: calls timed none rest
  | _ :: rest => calls timed timeout rest

/-- How many timers were armed and not disarmed. -/
def timersLeft (history : List Exchanged) : Int :=
  history.foldl (fun left asked => match asked.question with
    | .armTimer _ => left + 1
    | .disarmTimer => left - 1
    | _ => left) 0

/-- How many watches on a connection were not taken back. -/
def watchesLeft (history : List Exchanged) : Int :=
  history.foldl (fun left asked => match asked.question with
    | .watchClose => left + 1
    | .unwatchClose => left - 1
    | _ => left) 0

/-- A statement on one line, with single spaces. -/
def squeezed (statement : String) : String :=
  " ".intercalate ((statement.split Char.isWhitespace).toList.map (·.toString) |>.filter (· ≠ ""))

/-- What the database was asked; sessions that are given back are told only where wanted. -/
def database (releases : Bool) (history : List Exchanged) : List Json :=
  history.filterMap fun
    | ⟨.borrow, _⟩ => some (record [("opened", some (.boolean true))])
    | ⟨.giveBack, _⟩ => if releases then some (record [("released", some (.boolean true))]) else none
    | ⟨.query session statement parameters, _⟩ =>
      some (record [("session", text session.toText), ("sql", text (squeezed statement)),
        ("params", parameters.map .list)])
    | _ => none

def reports (history : List Exchanged) : List LogEntry :=
  history.filterMap fun
    | ⟨.report entry, _⟩ => some entry
    | _ => none

/-- The answer that was given first. -/
def answer? (history : List Exchanged) : Option Answer :=
  history.findSome? fun
    | ⟨.answer answer, _⟩ => some answer
    | _ => none

/-- What was handed on, each time it was. -/
def passes (history : List Exchanged) : List (Option Failure) :=
  history.filterMap fun
    | ⟨.pass (some (.bare none)), _⟩ => some none
    | ⟨.pass failure, _⟩ => some failure
    | _ => none

def attachedAuth? (history : List Exchanged) : Option AuthState :=
  history.reverse.findSome? fun
    | ⟨.attachAuth auth, _⟩ => some auth
    | _ => none

def attachedTenant? (history : List Exchanged) : Option TenantContext :=
  history.reverse.findSome? fun
    | ⟨.attachTenant tenant, _⟩ => some tenant
    | _ => none

end TenantAccess.Rehearsal.Transcript
