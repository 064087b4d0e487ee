import TenantAccess.Flow.Basic

/-! A world whose replies are laid down beforehand: outside answers in the order they will be used, a
database of rows, a clock that stands still until it is moved. It keeps everything it was asked. -/

namespace TenantAccess.Rehearsal

/-- An outside answer, and how far the clock moves before it arrives. -/
structure Cue where
  delay : Number
  reply : FetchReply

/-- The replies that do not change while a rehearsal runs. -/
structure Props where
  borrow : Except Failure Unit
  query : String → List Json → Except Failure (List Fields)
  consult : String → Except Failure (Option Fields)
  closed : Option Bool
  endPool : Except Failure Unit
  freshId : String

structure Scene where
  now : Number
  cues : List Cue
  keys : Option CachedKeys
  /-- What was asked so far, latest first. -/
  history : List Exchanged

namespace Scene

def begin (now : Number) (cues : List Cue) : Scene := ⟨now, cues, none, []⟩

/-- What was asked since the history was last cleared, in order. -/
def asked (scene : Scene) : List Exchanged := scene.history.reverse

def forget (scene : Scene) : Scene := { scene with history := [] }

/-- A request whose caller has already given up uses no answer. -/
def answerFetch (scene : Scene) (request : FetchRequest) : FetchReply × Scene :=
  if request.signal = .beforehand then (.refused .cutOff, scene)
  else match scene.cues with
    | [] => (.refused (.error "Error" "no response scripted"), scene)
    | cue :: rest => (cue.reply, { scene with cues := rest, now := scene.now.add cue.delay })

def answer (scene : Scene) (props : Props) : (question : Ask) → question.Reply × Scene
  | .clock => (scene.now, scene)
  | .fetch request => scene.answerFetch request
  | .recallKeys => (scene.keys, scene)
  | .storeKeys keys => ((), { scene with keys := some keys })
  | .borrow => (props.borrow, scene)
  | .query _ statement parameters => (props.query statement (parameters.getD []), scene)
  | .freshId => (props.freshId, scene)
  | .consult token _ => (props.consult token, scene)
  | .closed => (props.closed, scene)
  | .endPool => (props.endPool, scene)
  | .armTimer _ | .disarmTimer | .giveBack | .report _ | .watchClose | .unwatchClose | .abort
  | .attachAuth _ | .attachTenant _ | .pass _ | .answer _ | .openPool _ | .listen _ | .closeServer
  | .exit _ => ((), scene)

end Scene

def Props.world (props : Props) : World Scene where
  reply question scene :=
    let (reply, after) := scene.answer props question
    (reply, { after with history := ⟨question, reply⟩ :: scene.history })

end TenantAccess.Rehearsal
