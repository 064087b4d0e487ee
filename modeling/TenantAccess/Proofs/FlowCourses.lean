import TenantAccess.Proofs.VerifierFootprint

/-! The steps of a request: what it asks beyond the verifier's own business. Under every
reply the steps that a flow takes and the value it comes to stand in one relation. -/

namespace TenantAccess.Proofs

/-- Questions that begin a verification, attach something, go to the database, or answer. -/
def isStep : Ask → Bool
  | .watchClose | .consult _ _ | .attachAuth _ | .borrow | .query _ _ _ | .attachTenant _ | .answer _ => true
  | _ => false

def steps (history : List Exchanged) : List Exchanged := history.filter fun asked => isStep asked.question

def taken (done : List Exchanged) (question : Ask) (reply : question.Reply) : List Exchanged :=
  match isStep question with
  | true => done ++ [⟨question, reply⟩]
  | false => done

/-- Whatever the world replies, the steps taken and the value come out as the relation says. -/
def Comes (post : List Exchanged → α → Prop) (done : List Exchanged) : Flow α → Prop
  | .done value => post done value
  | .ask question next => ∀ reply, Comes post (taken done question reply) (next reply)

variable {post : List Exchanged → α → Prop} {done : List Exchanged}

theorem steps_cons (asked : Exchanged) (history : List Exchanged) (done : List Exchanged) :
    done ++ steps (asked :: history) = taken done asked.question asked.reply ++ steps history := by
  unfold steps taken
  cases step : isStep asked.question with
  | true => simp [step]
  | false => simp [step]

theorem Comes.bind {flow : Flow α} {next : α → Flow β} {last : List Exchanged → β → Prop}
    (comes : Comes post done flow) (resume : ∀ later value, post later value → Comes last later (next value)) :
    Comes last done (flow >>= next) := by
  induction flow generalizing done with
  | done value => exact resume done value comes
  | ask question rest ih => exact fun reply => ih reply (comes reply)

theorem Comes.weaken {flow : Flow α} {last : List Exchanged → α → Prop} (comes : Comes post done flow)
    (implies : ∀ later value, post later value → last later value) : Comes last done flow := by
  induction flow generalizing done with
  | done value => exact implies done value comes
  | ask question rest ih => exact fun reply => ih reply (comes reply)

theorem Comes.report {severity : Severity} {fields : List (String × LogValue)} {message : String}
    {next : Unit → Flow α} (resume : Comes post done (next ())) :
    Comes post done (Flow.report severity fields message >>= next) := fun _ => resume

theorem Comes.quiet {ok : Ask → Prop} {flow : Flow α} (asks : Asks ok flow)
    (silent : ∀ question, ok question → isStep question = false) (done : List Exchanged) :
    Comes (fun later _ => later = done) done flow := by
  induction flow with
  | done value => rfl
  | ask question next ih =>
    intro reply
    have same : taken done question reply = done := by rw [taken, silent question asks.1]
    rw [same]
    exact ih reply (asks.2 reply)

theorem Inward.silent (question : Ask) (inward : Inward question) : isStep question = false := by
  cases question <;> first | rfl | exact inward.elim

/-- What holds under all replies does so in every world. -/
theorem Comes.holds {flow : Flow α} (comes : Comes post done flow) (world : World σ) (state : σ) :
    post (done ++ steps (flow.trace world state)) (flow.run world state).1 := by
  induction flow generalizing done state with
  | done value => simpa [Flow.trace, Flow.run, steps] using! comes
  | ask question next ih =>
    have later := ih _ (comes (world.reply question state).1) (world.reply question state).2
    rw [Flow.trace, steps_cons]
    exact later

/-- How a stage comes to an end: it answers, it finds its caller gone, or it hands the request on. -/
inductive Exit where
  | answered (answer : Answer)
  | gone
  | handed (failure : Option Failure) (request : Request)

def Exit.Leads (post : List Exchanged → Option Answer → Prop) (done : List Exchanged) (next : Next) : Exit → Prop
  | .answered answer => post done (some answer)
  | .gone => post done none
  | .handed failure request => Comes post done (next failure request)

/-- The steps that a stage can take with a request, and the ends they lead to. -/
abbrev StageCourse := Request → List Exchanged → Exit → Prop

/-- A stage takes no other course, whatever comes after it. -/
def Takes (run : Stage) (course : StageCourse) : Prop :=
  ∀ (post : List Exchanged → Option Answer → Prop) done request next,
    (∀ more exit, course request more exit → exit.Leads post (done ++ more) next) →
    Comes post done (run request next)

def answering (answer : Answer) : Exchanged := ⟨.answer answer, ()⟩

theorem Comes.respond {post : List Exchanged → Option Answer → Prop} {answer : Answer}
    (answered : post (done ++ [answering answer]) (some answer)) : Comes post done (Flow.respond answer) :=
  fun _ => answered

/-- How a session begins: it is lent and made ready, or refused on the way. -/
inductive Opening : Sql.Lender → List Exchanged → Option Failure → Prop where
  | unlent (lender : Sql.Lender) (failure : Failure) :
      Opening lender [⟨.borrow, .error failure⟩] (some failure)
  | lent : Opening .plain [⟨.borrow, .ok ()⟩] none
  | unlimited (limit : Number) (failure : Failure) : Opening (.pooled limit)
      [⟨.borrow, .ok ()⟩, ⟨.query .pool (Sql.timeoutStatement limit) none, .error failure⟩] (some failure)
  | limited (limit : Number) (rows : List Fields) : Opening (.pooled limit)
      [⟨.borrow, .ok ()⟩, ⟨.query .pool (Sql.timeoutStatement limit) none, .ok rows⟩] none

/-- One statement asked in the request's own session or in a borrowed one, and what came of it. -/
inductive Asked (lender : Sql.Lender) (ownSession : Bool) (text : String) (parameters : List Json) :
    List Exchanged → Except Failure (List Fields) → Prop where
  | own (reply : Except Failure (List Fields)) (own : ownSession = true) :
      Asked lender ownSession text parameters [⟨.query .request text (some parameters), reply⟩] reply
  | unopened {opening : List Exchanged} {failure : Failure} (borrowed : ownSession = false)
      (refused : Opening lender opening (some failure)) :
      Asked lender ownSession text parameters opening (.error failure)
  | opened {opening : List Exchanged} (reply : Except Failure (List Fields)) (borrowed : ownSession = false)
      (ready : Opening lender opening none) :
      Asked lender ownSession text parameters
        (opening ++ [⟨.query .pool text (some parameters), reply⟩]) reply

variable {β : Type}

theorem query_comes (session : SessionKind) (text : String) (parameters : List Json) (done : List Exchanged) :
    Comes (fun later outcome => ∃ reply, later = done ++ [⟨.query session text (some parameters), reply⟩] ∧
      outcome = reply.map id) done (Flow.request (.query session text (some parameters))) := by
  intro reply
  exact ⟨reply, rfl, by cases reply <;> rfl⟩

theorem withSession_comes (lender : Sql.Lender) {work : Flow (Except Failure β)}
    {last : List Exchanged → Except Failure β → Prop} (done : List Exchanged)
    (refused : ∀ opening failure, Opening lender opening (some failure) → last (done ++ opening) (.error failure))
    (works : ∀ opening, Opening lender opening none → Comes last (done ++ opening) work) :
    Comes last done (Sql.withSession lender work) := by
  have working {current : List Exchanged} (comes : Comes last current work) :
      Comes last current (do
        let result ← work
        Flow.request .giveBack
        pure result) := comes.bind fun _ _ held _ => held
  intro borrowed
  cases borrowed with
  | error failure => exact refused _ _ (.unlent lender failure)
  | ok _ =>
    cases lender with
    | plain => exact working (works _ .lent)
    | pooled limit =>
      intro prepared
      cases prepared with
      | error failure =>
        have steps := refused _ _ (.unlimited limit failure)
        -- The session is given back, which is no step.
        intro _
        simpa [taken, isStep] using! steps
      | ok rows =>
        have comes := works _ (.limited limit rows)
        refine working ?_
        simpa [taken, isStep] using! comes

theorem inSession_comes (lender : Sql.Lender) (ownSession : Bool) {text : String} {parameters : List Json}
    (read : List Fields → β) {work : SessionKind → Flow (Except Failure β)} (done : List Exchanged)
    (asks : ∀ session current, Comes (fun later outcome => ∃ reply,
      later = current ++ [⟨.query session text (some parameters), reply⟩] ∧ outcome = reply.map read)
      current (work session)) :
    Comes (fun later outcome => ∃ more reply, later = done ++ more ∧
      Asked lender ownSession text parameters more reply ∧ outcome = reply.map read)
      done (Sql.inSession lender ownSession work) := by
  cases own : ownSession with
  | true =>
    refine (asks .request done).weaken ?_
    rintro later outcome ⟨reply, rfl, rfl⟩
    exact ⟨_, reply, rfl, .own reply rfl, rfl⟩
  | false =>
    refine withSession_comes lender done (fun opening failure refused => ?_) fun opening ready => ?_
    · exact ⟨opening, .error failure, rfl, .unopened rfl refused, rfl⟩
    · refine (asks .pool (done ++ opening)).weaken ?_
      rintro later outcome ⟨reply, rfl, rfl⟩
      exact ⟨_, reply, List.append_assoc .., .opened reply rfl ready, rfl⟩

end TenantAccess.Proofs
