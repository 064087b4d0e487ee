import TenantAccess.Proofs.FlowRuns
import TenantAccess.Proofs.StageWalks

/-! What a request leaves in the history: whole sessions of the database, one verification with
what came of it, and questions that touch neither. Every stage and every mount keeps to this. -/

namespace TenantAccess.Proofs

/-- What is asked of a borrowed session: statements with their values, and reports in between. -/
def Working : Ask → Prop
  | .query .pool _ (some _) | .report _ => True
  | _ => False

/-- One use of a lender, from the borrowing on, and what came of it. The work is run in a session that
is ready, and its outcome is the outcome. -/
inductive SessionRun (work : Flow (Except Failure α)) :
    Sql.Lender → List Exchanged → Except Failure α → Prop where
  | unlent (lender : Sql.Lender) (failure : Failure) :
      SessionRun work lender [⟨.borrow, .error failure⟩] (.error failure)
  | unready (limit : Number) (failure : Failure) : SessionRun work (.pooled limit)
      [⟨.borrow, .ok ()⟩, ⟨.query .pool (Sql.timeoutStatement limit) none, .error failure⟩, ⟨.giveBack, ()⟩]
      (.error failure)
  | used {lender : Sql.Lender} {opening worked : List Exchanged} {outcome : Except Failure α}
      (ready : Opening lender opening none) (ran : Runs work worked outcome) :
      SessionRun work lender (opening ++ worked ++ [⟨.giveBack, ()⟩]) outcome

theorem withSession_runs {lender : Sql.Lender} {work : Flow (Except Failure α)} {history : List Exchanged}
    {outcome : Except Failure α} (runs : Runs (Sql.withSession lender work) history outcome) :
    SessionRun work lender history outcome := by
  have working {opening history : List Exchanged} {outcome : Except Failure α}
      (ready : Opening lender opening none) (runs : Runs (do
        let result ← work
        Flow.request .giveBack
        pure result) history outcome) : SessionRun work lender (opening ++ history) outcome := by
    obtain ⟨worked, result, returned, rfl, ran, last⟩ := runs.bind
    obtain ⟨-, rest, rfl, ended⟩ := last.asked
    obtain ⟨rfl, rfl⟩ := ended.ended
    rw [← List.append_assoc]
    exact .used ready ran
  obtain ⟨borrowed, rest, rfl, lent⟩ := runs.asked
  cases borrowed with
  | error failure =>
    obtain ⟨rfl, rfl⟩ := lent.ended
    exact .unlent lender failure
  | ok _ =>
    cases lender with
    | plain => exact working .lent lent
    | pooled limit =>
      obtain ⟨prepared, more, rfl, readied⟩ := lent.asked
      cases prepared with
      | error failure =>
        obtain ⟨-, none, rfl, returned⟩ := readied.asked
        obtain ⟨rfl, rfl⟩ := returned.ended
        exact .unready limit failure
      | ok rows => exact working (.limited limit rows) readied

/-- A session that was borrowed and given back, or could not be borrowed at all. -/
inductive Session : Sql.Lender → List Exchanged → Prop where
  | unlent (lender : Sql.Lender) (failure : Failure) : Session lender [⟨.borrow, .error failure⟩]
  | unready (limit : Number) (failure : Failure) : Session (.pooled limit)
      [⟨.borrow, .ok ()⟩, ⟨.query .pool (Sql.timeoutStatement limit) none, .error failure⟩, ⟨.giveBack, ()⟩]
  | used {lender : Sql.Lender} {opening worked : List Exchanged} (ready : Opening lender opening none)
      (within : ∀ asked ∈ worked, Working asked.question) :
      Session lender (opening ++ worked ++ [⟨.giveBack, ()⟩])

theorem SessionRun.session {work : Flow (Except Failure α)} {lender : Sql.Lender} {history : List Exchanged}
    {outcome : Except Failure α} (run : SessionRun work lender history outcome) (working : Asks Working work) :
    Session lender history := by
  cases run with
  | unlent => exact .unlent _ _
  | unready => exact .unready _ _
  | used ready ran => exact .used ready (ran.within working)

/-- A question that belongs to no session and to no verification. -/
def Aside : Ask → Prop
  | .report _ | .attachAuth _ | .attachTenant _ | .pass _ | .answer _ | .unwatchClose | .freshId => True
  | .query .request _ _ => True
  | _ => False

/-- A verification that did not accept its token, and whose caller is still there to be told. -/
inductive Unaccepted : Signal → Outcome → Prop where
  | rejected (signal : Signal) (failure : Failure) : Unaccepted signal (.error failure)
  | unclaimed {signal : Signal} (there : signal ≠ .duringRequest) : Unaccepted signal (.ok none)

/-- The history and the result of a request with these headers. -/
inductive Woven (choice : IdentityChoice) (lends : Sql.Lender → Prop) (headers : List (String × String)) :
    List Exchanged → Option Answer → Prop where
  | ended (result : Option Answer) : Woven choice lends headers [] result
  | aside {question : Ask} (reply : question.Reply) {history : List Exchanged} {result : Option Answer}
      (apart : Aside question) (rest : Woven choice lends headers history result) :
      Woven choice lends headers (⟨question, reply⟩ :: history) result
  | session {lender : Sql.Lender} {session history : List Exchanged} {result : Option Answer}
      (lent : lends lender) (whole : Session lender session) (rest : Woven choice lends headers history result) :
      Woven choice lends headers (session ++ history) result
  | verification {stage : TokenIdentity} {token : String} {signal : Signal} {outcome : Outcome}
      {watching verifying history : List Exchanged} {result : Option Answer} (chosen : choice = .token stage)
      (presented : (headers.lookup "authorization").bind Bearer.token? = some token)
      (watched : Runs TokenIdentity.watch watching signal)
      (verified : Runs (stage.verifier.verify token signal) verifying outcome)
      (told : Unaccepted signal outcome → result = some TokenIdentity.refusedToken)
      (rest : Woven choice lends headers history result) :
      Woven choice lends headers (watching ++ (verifying ++ history)) result

variable {choice : IdentityChoice} {lends : Sql.Lender → Prop} {headers : List (String × String)}

theorem Woven.append {first second : List Exchanged} {result : Option Answer}
    (woven : Woven choice lends headers first result) (rest : Woven choice lends headers second result) :
    Woven choice lends headers (first ++ second) result := by
  induction woven with
  | ended result => exact rest
  | aside reply apart _ ih => exact .aside reply apart (ih rest)
  | session lent whole _ ih =>
    rw [List.append_assoc]
    exact .session lent whole (ih rest)
  | verification chosen presented watched verified told _ ih =>
    rw [List.append_assoc, List.append_assoc]
    exact .verification chosen presented watched verified told (ih rest)

theorem Woven.asides {history : List Exchanged} (result : Option Answer)
    (apart : ∀ asked ∈ history, Aside asked.question) : Woven choice lends headers history result := by
  induction history with
  | nil => exact .ended result
  | cons asked rest ih =>
    exact .aside asked.reply (apart asked List.mem_cons_self)
      (ih fun other member => apart other (List.mem_cons_of_mem _ member))

def Weaves (choice : IdentityChoice) (lends : Sql.Lender → Prop) (headers : List (String × String))
    (flow : Flow (Option Answer)) : Prop :=
  ∀ history result, Runs flow history result → Woven choice lends headers history result

section
variable {flow : Flow α} {next : α → Flow (Option Answer)}

theorem Weaves.done (result : Option Answer) : Weaves choice lends headers (.done result) := by
  rintro history other ⟨⟩
  exact .ended result

theorem Weaves.bind (aside : Asks Aside flow) (weaves : ∀ value, Weaves choice lends headers (next value)) :
    Weaves choice lends headers (flow >>= next) := by
  intro history result runs
  obtain ⟨first, value, second, rfl, earlier, later⟩ := runs.bind
  exact (Woven.asides result (earlier.within aside)).append (weaves value second result later)

theorem Weaves.ask {question : Ask} {next : question.Reply → Flow (Option Answer)} (apart : Aside question)
    (weaves : ∀ reply, Weaves choice lends headers (next reply)) :
    Weaves choice lends headers (.ask question next) := by
  intro history result runs
  cases runs with
  | ask reply rest => exact .aside reply apart (weaves reply _ result rest)

theorem Weaves.report {severity : Severity} {fields : List (String × LogValue)} {message : String}
    {next : Unit → Flow (Option Answer)} (weaves : Weaves choice lends headers (next ())) :
    Weaves choice lends headers (Flow.report severity fields message >>= next) := .ask trivial fun _ => weaves

theorem Weaves.respond (answer : Answer) : Weaves choice lends headers (Flow.respond answer) :=
  .ask trivial fun _ => .done _

theorem Weaves.withSession {lender : Sql.Lender} {work : Flow (Except Failure α)}
    {next : Except Failure α → Flow (Option Answer)} (lent : lends lender) (working : Asks Working work)
    (weaves : ∀ outcome, Weaves choice lends headers (next outcome)) :
    Weaves choice lends headers (Sql.withSession lender work >>= next) := by
  intro history result runs
  obtain ⟨session, outcome, rest, rfl, used, later⟩ := runs.bind
  exact .session lent ((withSession_runs used).session working) (weaves outcome rest result later)

theorem Weaves.inSession {lender : Sql.Lender} (ownSession : Bool) {work : SessionKind → Flow (Except Failure α)}
    {next : Except Failure α → Flow (Option Answer)} (lent : lends lender) (working : Asks Working (work .pool))
    (own : Asks Aside (work .request)) (weaves : ∀ outcome, Weaves choice lends headers (next outcome)) :
    Weaves choice lends headers (Sql.inSession lender ownSession work >>= next) := by
  cases ownSession with
  | true => exact .bind own weaves
  | false => exact .withSession lent working weaves

end

/-- Whoever comes next weaves, when the request still has its headers. -/
abbrev Follows (choice : IdentityChoice) (lends : Sql.Lender → Prop) (headers : List (String × String))
    (next : Next) : Prop :=
  ∀ failure request, request.headers = headers → Weaves choice lends headers (next failure request)

/-- A stage weaves when whatever comes after it does. What a stage hands on has the headers of what it got. -/
def Carries (choice : IdentityChoice) (lends : Sql.Lender → Prop) (headers : List (String × String))
    (run : Stage) : Prop :=
  ∀ request next, request.headers = headers → Follows choice lends headers next →
    Weaves choice lends headers (run request next)

section
variable {request : Request} {next : Next} (same : request.headers = headers)
  (weaves : Follows choice lends headers next)
include same weaves

theorem proceed_weaves : Weaves choice lends headers (Stage.proceed next request) :=
  .ask trivial fun _ => weaves none request same

theorem raise_weaves (failure : Failure) : Weaves choice lends headers (Stage.raise next failure request) :=
  .ask trivial fun _ => weaves (some failure) request same

theorem admitPublic_weaves : Weaves choice lends headers (Stage.admitPublic request next) :=
  .ask trivial fun _ => proceed_weaves same weaves

theorem judgeClaims_weaves (claims : Option Fields) :
    Weaves choice lends headers (TokenIdentity.judgeClaims request claims next) := by
  unfold TokenIdentity.judgeClaims
  split
  · exact .respond _
  next claims =>
    have aside : Asks Aside (Identity.readClaims claims) := by
      unfold Identity.readClaims
      split
      · trivial
      · split
        · exact ⟨trivial, fun _ => trivial⟩
        · trivial
    refine .bind aside fun outcome => ?_
    cases outcome with
    | error rejection => exact .report (.respond _)
    | ok identity => exact .ask trivial fun _ => .report (proceed_weaves same weaves)

theorem conclude_weaves (stage : TokenIdentity) (signal : Signal) (outcome : Outcome) :
    Weaves choice lends headers (stage.conclude request signal outcome next) := by
  unfold TokenIdentity.conclude
  split
  · exact .report (.respond _)
  · split
    · exact .report (.done _)
    · exact judgeClaims_weaves same weaves _

end

/-- Whoever was not accepted, and is still there, is told so in the one way. -/
theorem conclude_refuses {stage : TokenIdentity} {request : Request} {signal : Signal} {outcome : Outcome}
    {next : Next} {history : List Exchanged} {result : Option Answer}
    (runs : Runs (stage.conclude request signal outcome next) history result)
    (unaccepted : Unaccepted signal outcome) : result = some TokenIdentity.refusedToken := by
  cases unaccepted with
  | rejected failure =>
    obtain ⟨-, rest, -, responded⟩ := runs.asked
    obtain ⟨-, more, -, ended⟩ := responded.asked
    exact ended.ended.2.symm
  | unclaimed there =>
    simp only [TokenIdentity.conclude, if_neg there, TokenIdentity.judgeClaims] at runs
    obtain ⟨-, more, -, ended⟩ := runs.asked
    exact ended.ended.2.symm

theorem unwatched_weaves {flow : Flow (Option Answer)} (weaves : Weaves choice lends headers flow) :
    Weaves choice lends headers (do
      let answer ← flow
      Flow.request .unwatchClose
      pure answer) := by
  intro history result runs
  obtain ⟨concluding, answer, rest, rfl, concluded, unwatching⟩ := runs.bind
  obtain ⟨reply, none, rfl, ended⟩ := unwatching.asked
  obtain ⟨rfl, rfl⟩ := ended.ended
  exact (weaves concluding answer concluded).append (.aside reply trivial (.ended answer))

theorem token_carries (stage : TokenIdentity) : Carries (.token stage) lends headers stage.run := by
  intro request next same weaves
  unfold TokenIdentity.run
  split
  · exact .ask trivial fun _ => proceed_weaves same weaves
  · split
    · exact admitPublic_weaves same weaves
    · split
      · exact .respond _
      next token presented =>
        intro history result runs
        obtain ⟨watching, signal, rest, rfl, watched, verifies⟩ := runs.bind
        obtain ⟨verifying, outcome, rest, rfl, verified, concludes⟩ := verifies.bind
        refine .verification rfl (same ▸ presented) watched verified (fun unaccepted => ?_) ?_
        · obtain ⟨concluding, answer, rest, rfl, concluded, unwatching⟩ := concludes.bind
          obtain ⟨-, none, -, ended⟩ := unwatching.asked
          rw [← ended.ended.2]
          exact conclude_refuses concluded unaccepted
        · exact unwatched_weaves (conclude_weaves same weaves stage signal outcome) rest result concludes

theorem gateway_carries (stage : GatewayIdentity) : Carries choice lends headers stage.run := by
  intro request next same weaves
  unfold GatewayIdentity.run
  split
  · exact admitPublic_weaves same weaves
  · split
    · exact .respond _
    · exact .ask trivial fun _ => .report (proceed_weaves same weaves)

theorem identity_carries : Carries choice lends headers choice.stage := by
  cases choice with
  | token stage => exact token_carries stage
  | gateway stage => exact gateway_carries stage

theorem lookup_asks {ok : Ask → Prop} (session : SessionKind) (user organization : String)
    (asks : ∀ text parameters, ok (.query session text (some parameters)))
    (reports : ∀ entry, ok (.report entry)) : Asks ok (Membership.lookup session user organization) := by
  unfold Membership.lookup
  refine Asks.bind ⟨asks _ _, fun _ => trivial⟩ fun reply => ?_
  cases reply with
  | error failure => trivial
  | ok rows =>
    refine Asks.bind ?_ fun _ => trivial
    unfold Membership.ofRows
    split
    · trivial
    · simp only
      split
      · trivial
      · exact ⟨reports _, fun _ => trivial⟩

/-- What a lender asks for itself, around the work that is done in its session. -/
def Lending : Ask → Prop
  | .borrow | .giveBack | .query .pool _ none => True
  | _ => False

theorem withSession_asks {ok : Ask → Prop} (lending : ∀ question, Lending question → ok question) (lender : Sql.Lender)
    {work : Flow (Except Failure α)} (asks : Asks ok work) : Asks ok (Sql.withSession lender work) := by
  have working : Asks ok (do
      let result ← work
      Flow.request .giveBack
      pure result) := asks.bind fun _ => ⟨lending _ trivial, fun _ => trivial⟩
  refine ⟨lending _ trivial, fun reply => ?_⟩
  cases reply with
  | error failure => trivial
  | ok _ =>
    cases lender with
    | plain => exact working
    | pooled limit =>
      refine ⟨lending _ trivial, fun reply => ?_⟩
      cases reply with
      | error failure => exact ⟨lending _ trivial, fun _ => trivial⟩
      | ok rows => exact working

theorem inSession_asks {ok : Ask → Prop} (lending : ∀ question, Lending question → ok question) (lender : Sql.Lender)
    (ownSession : Bool) {work : SessionKind → Flow (Except Failure α)} (asks : ∀ session, Asks ok (work session)) :
    Asks ok (Sql.inSession lender ownSession work) := by
  unfold Sql.inSession
  split
  · exact asks _
  · exact withSession_asks lending lender (asks _)

theorem isolation_carries (isolation : Isolation) (lent : lends isolation.lender) :
    Carries choice lends headers isolation.run := by
  intro request next same weaves
  unfold Isolation.run
  split
  · exact proceed_weaves same weaves
  · split
    · exact .report (.respond _)
    · exact .report (.respond _)
    next identity =>
      unfold Isolation.resolve
      split
      · exact .report (.respond _)
      next resolved =>
        refine .inSession _ lent (lookup_asks _ _ _ (fun _ _ => trivial) fun _ => trivial)
          (lookup_asks _ _ _ (fun _ _ => trivial) fun _ => trivial) fun outcome => ?_
        match outcome with
        | .error failure => exact raise_weaves same weaves failure
        | .ok none => exact .report (.respond _)
        | .ok (some role) => exact .ask trivial fun _ => .report (proceed_weaves same weaves)

theorem read_carries {lender : Sql.Lender} (lent : lends lender)
    (statement : Request → TenantContext → Organizations.Statement)
    (answer : TenantContext → List Fields → Except Failure Answer) :
    Carries choice lends headers (Organizations.read lender statement answer) := by
  intro request next same weaves
  unfold Organizations.read
  split
  · exact .respond _
  · refine .inSession _ lent ⟨trivial, fun _ => trivial⟩ ⟨trivial, fun _ => trivial⟩ fun outcome => ?_
    split
    · exact raise_weaves same weaves _
    · exact .respond _

theorem guard_carries (required : String) : Carries choice lends headers (RoleGuard.run required) := by
  intro request next same weaves
  unfold RoleGuard.run
  split
  · exact .report (.respond _)
  · split
    · exact proceed_weaves same weaves
    · exact .report (.respond _)

theorem check_carries {lender : Sql.Lender} (lent : lends lender) :
    Carries choice lends headers (Health.check lender) := by
  intro request next same weaves
  refine .withSession lent ⟨trivial, fun _ => trivial⟩ fun outcome => ?_
  cases outcome with
  | ok rows => exact .respond _
  | error failure => exact .report (.respond _)

@[simp] theorem enter_headers (request : Request) (taken : List Char) (params : List (String × Option Json)) :
    (Mount.enter request taken params).headers = request.headers := by
  unfold Mount.enter
  split <;> rfl

@[simp] theorem leaveTo_headers (outer inner : Request) (taken : List Char) :
    (Mount.leaveTo outer inner taken).headers = outer.headers := by
  unfold Mount.leaveTo
  split <;> rfl

theorem headers_lasting (headers : List (String × String)) : Lasting fun request => request.headers = headers :=
  ⟨fun request taken params same => (enter_headers request taken params).trans same,
    fun outer inner taken same => (leaveTo_headers outer inner taken).trans same⟩

def lenders (isolation : Isolation) (lender : Sql.Lender) (other : Sql.Lender) : Prop :=
  other = isolation.lender ∨ other = lender

theorem onFailure_carries (failure : Failure) : Carries choice lends headers (Service.onFailure failure) := by
  intro request next same weaves
  refine .bind ?_ fun _ => .respond _
  unfold FailureAnswer.report
  split <;> exact ⟨trivial, fun _ => trivial⟩

theorem dispatch_weaves (isolation : Isolation) (lender : Sql.Lender) (header : String) (failure : Option Failure)
    (request : Request) : Weaves choice (lenders isolation lender) request.headers
      ((service choice isolation lender header).dispatch failure request) := by
  have mine : lenders isolation lender lender := .inr rfl
  have stages : StagesPassOn (Weaves choice (lenders isolation lender) request.headers)
      (fun inner => inner.headers = request.headers) choice isolation lender :=
    ⟨.respond, identity_carries, isolation_carries isolation (.inl rfl), check_carries mine, guard_carries,
      read_carries mine, onFailure_carries⟩
  exact dispatch_onwards stages (headers_lasting _) header failure request rfl

/-- What a response is made of: the answer to the request, over some headers. -/
def Answering (request : Request) (result : Option Answer) (response : Option Response) : Prop :=
  ∃ held, response = result.map fun answer => Response.ofAnswer answer request held

theorem serve_woven {isolation : Isolation} {lender : Sql.Lender} {own header : String} {request : Request}
    {history : List Exchanged} {response : Option Response}
    (runs : Runs ((service choice isolation lender own).serve request header) history response) :
    ∃ result, Woven choice (lenders isolation lender) request.headers history result ∧
      Answering request result response := by
  obtain ⟨choosing, id, rest, rfl, chosen, served⟩ := runs.bind
  have identified : Asks Aside (RequestId.choose request header) := by
    unfold RequestId.choose
    split
    · trivial
    · exact ⟨trivial, fun _ => trivial⟩
  obtain ⟨dispatching, result, last, rfl, dispatched, ending⟩ := served.bind
  have woven {rest : List Exchanged}
      (ending : Woven choice (lenders isolation lender) request.headers rest result) :
      Woven choice (lenders isolation lender) request.headers (choosing ++ (dispatching ++ rest)) result :=
    (Woven.asides result (chosen.within identified)).append
      ((dispatch_weaves isolation lender own none request dispatching result dispatched).append ending)
  cases result with
  | none =>
    obtain ⟨rfl, rfl⟩ := ending.ended
    exact ⟨none, woven (.ended none), [], rfl⟩
  | some answer =>
    obtain ⟨reporting, _, rest, rfl, reported, ended⟩ := ending.bind
    obtain ⟨rfl, rfl⟩ := ended.ended
    have told : Asks Aside (Service.reportAnswered request id
        (Response.ofAnswer answer request [(header, id)]).status) := ⟨trivial, fun _ => trivial⟩
    rw [List.append_nil]
    exact ⟨some answer, woven (.asides _ (reported.within told)), [(header, id)], rfl⟩

theorem handle_woven {isolation : Isolation} {lender : Sql.Lender} {header : String} {incoming : Incoming}
    {history : List Exchanged} {response : Option Response}
    (runs : Runs ((service choice isolation lender header).handle incoming) history response) :
    ∃ result, Woven choice (lenders isolation lender) incoming.toRequest.headers history result ∧
      Answering incoming.toRequest result response := by
  have refused {failure : Failure} (runs : Runs ((service choice isolation lender header).refuse failure
      incoming.toRequest) history response) : ∃ result, Woven choice (lenders isolation lender)
        incoming.toRequest.headers history result ∧ Answering incoming.toRequest result response := by
    obtain ⟨dispatching, result, rest, rfl, dispatched, last⟩ := runs.bind
    obtain ⟨rfl, rfl⟩ := last.ended
    rw [List.append_nil]
    exact ⟨result, dispatch_weaves isolation lender header _ _ _ _ dispatched, [], rfl⟩
  unfold Service.handle at runs
  simp only at runs
  split at runs
  · obtain ⟨leaving, result, rest, rfl, left, last⟩ := runs.bind
    obtain ⟨rfl, rfl⟩ := last.ended
    rw [List.append_nil]
    exact ⟨result, Weaves.respond _ _ _ left, [], rfl⟩
  · split at runs
    · exact refused runs
    · split at runs
      · exact serve_woven runs
      · exact refused runs

end TenantAccess.Proofs
