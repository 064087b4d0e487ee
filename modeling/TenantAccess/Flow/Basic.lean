import TenantAccess.Flow.Ask

/-! A flow is a computation that asks the world one thing at a time and goes on with the reply. What
a flow does in a given world, and everything it asked there, follow from its text alone. -/

namespace TenantAccess

inductive Flow (α : Type) where
  | done (value : α)
  | ask (question : Ask) (next : question.Reply → Flow α)

namespace Flow

def bind (flow : Flow α) (next : α → Flow β) : Flow β :=
  match flow with
  | .done value => next value
  | .ask question rest => .ask question fun reply => (rest reply).bind next

instance : Monad Flow where
  pure := .done
  bind := Flow.bind

def request (question : Ask) : Flow question.Reply := .ask question .done

def report (severity : Severity) (fields : List (String × LogValue)) (message : String) : Flow Unit :=
  request (.report ⟨severity, fields, message⟩)

/-- Answers the exchange and says so to the one who started it. -/
def respond (answer : Answer) : Flow (Option Answer) :=
  .ask (.answer answer) fun _ => .done (some answer)

end Flow

/-- A world replies to every question and may change with it. -/
structure World (σ : Type) where
  reply : (question : Ask) → σ → question.Reply × σ

/-- One question and the reply it got. -/
structure Exchanged where
  question : Ask
  reply : question.Reply

namespace Flow

def run (world : World σ) : Flow α → σ → α × σ
  | .done value, state => (value, state)
  | .ask question next, state =>
    let (reply, after) := world.reply question state
    (next reply).run world after

/-- Everything a flow asked, in order. -/
def trace (world : World σ) : Flow α → σ → List Exchanged
  | .done _, _ => []
  | .ask question next, state =>
    let (reply, after) := world.reply question state
    ⟨question, reply⟩ :: (next reply).trace world after

/-- A flow that waits for the reply to an outside request, or has come to its end. -/
inductive Paused (α : Type) where
  | finished (value : α)
  | waiting (request : FetchRequest) (next : FetchReply → Flow α)

/-- Runs a flow up to its next outside request. -/
def toFetch (world : World σ) : Flow α → σ → Paused α × σ
  | .done value, state => (.finished value, state)
  | .ask (.fetch request) next, state => (.waiting request next, state)
  | .ask question next, state =>
    let (reply, after) := world.reply question state
    (next reply).toFetch world after

@[simp] theorem pure_bind (value : α) (next : α → Flow β) : (pure value >>= next) = next value := rfl

@[simp] theorem ask_bind (question : Ask) (rest : question.Reply → Flow α) (next : α → Flow β) :
    (Flow.ask question rest >>= next) = .ask question fun reply => rest reply >>= next := rfl

theorem run_bind (world : World σ) (flow : Flow α) (next : α → Flow β) (state : σ) :
    (flow >>= next).run world state =
      (next (flow.run world state).1).run world (flow.run world state).2 := by
  induction flow generalizing state with
  | done value => rfl
  | ask question rest ih => exact ih _ _

end Flow
end TenantAccess
