import TenantAccess.Proofs.PairedWalks
import TenantAccess.Proofs.PoolSessions
import TenantAccess.Proofs.PrivateClaims
import TenantAccess.Proofs.TenantIsolation

/-! Requests that bring a session of their own, and the same requests without one. What runs in the request's own
session does, step for step, what it does in sessions of the pool; the lender's own business comes on top. -/

namespace TenantAccess.Proofs
open Rehearsal

/-- A question for which it does not matter where sessions come from. -/
def Sessionless : Ask → Prop
  | .borrow | .giveBack | .query _ _ _ => False
  | _ => True

/-- The first flow runs in a session of its own and stands for the second, which runs in sessions of the pool. Both
ask the same, but for the session that a statement runs in; only the second borrows, prepares and gives back. -/
inductive StandsFor : Flow α → Flow α → Prop where
  | done (value : α) : StandsFor (.done value) (.done value)
  | ask {question : Ask} {next again : question.Reply → Flow α} (apart : Sessionless question)
      (rest : ∀ reply, StandsFor (next reply) (again reply)) : StandsFor (.ask question next) (.ask question again)
  | query (text : String) (parameters : List Json) {next again : Except Failure (List Fields) → Flow α}
      (rest : ∀ reply, StandsFor (next reply) (again reply)) :
      StandsFor (.ask (.query .request text (some parameters)) next) (.ask (.query .pool text (some parameters)) again)
  | borrowed {held : Flow α} {again : Except Failure Unit → Flow α} (rest : StandsFor held (again (.ok ()))) :
      StandsFor held (.ask .borrow again)
  | prepared (limit : Number) {held : Flow α} {again : Except Failure (List Fields) → Flow α}
      (rest : ∀ rows, StandsFor held (again (.ok rows))) :
      StandsFor held (.ask (.query .pool (Sql.timeoutStatement limit) none) again)
  | returned {held : Flow α} {again : Unit → Flow α} (rest : StandsFor held (again ())) :
      StandsFor held (.ask .giveBack again)

section
variable {held lent : Flow α}

theorem StandsFor.bind {next again : α → Flow β} (stands : StandsFor held lent)
    (rest : ∀ value, StandsFor (next value) (again value)) : StandsFor (held >>= next) (lent >>= again) := by
  induction stands with
  | done value => exact rest value
  | ask apart _ ih => exact .ask apart ih
  | query text parameters _ ih => exact .query text parameters ih
  | borrowed _ ih => exact .borrowed ih
  | prepared limit _ ih => exact .prepared limit ih
  | returned _ ih => exact .returned ih

theorem StandsFor.request {question : Ask} {next again : question.Reply → Flow α} (apart : Sessionless question)
    (rest : ∀ reply, StandsFor (next reply) (again reply)) :
    StandsFor (Flow.request question >>= next) (Flow.request question >>= again) :=
  .ask apart rest

theorem StandsFor.itself {flow : Flow α} (apart : Asks Sessionless flow) : StandsFor flow flow := by
  induction flow with
  | done value => exact .done value
  | ask question next ih => exact .ask apart.1 fun reply => ih reply (apart.2 reply)

/-- Giving a session back changes nothing for one that has its own. -/
theorem StandsFor.givenBack (stands : StandsFor held lent) :
    StandsFor held (do
      let result ← lent
      Flow.request .giveBack
      pure result) := by
  induction stands with
  | done value => exact .returned (.done value)
  | ask apart _ ih => exact .ask apart ih
  | query text parameters _ ih => exact .query text parameters ih
  | borrowed _ ih => exact .borrowed ih
  | prepared limit _ ih => exact .prepared limit ih
  | returned _ ih => exact .returned ih

theorem inSession_stands (lender : Sql.Lender) {work : SessionKind → Flow (Except Failure α)}
    (stands : StandsFor (work .request) (work .pool)) :
    StandsFor (Sql.inSession lender true work) (Sql.inSession lender false work) := by
  refine .borrowed ?_
  cases lender with
  | plain => exact stands.givenBack
  | pooled limit => exact .prepared limit fun _ => stands.givenBack

/-- Whoever has a session of its own leaves the pool alone, whatever the world replies. -/
theorem StandsFor.off (stands : StandsFor held lent) : Asks OffPool held := by
  induction stands with
  | done value => trivial
  | @ask question _ _ apart _ ih =>
    refine ⟨?_, ih⟩
    cases question <;> trivial
  | query _ _ _ ih => exact ⟨trivial, ih⟩
  | borrowed _ ih => exact ih
  | prepared _ _ ih => exact ih []
  | returned _ ih => exact ih

end

theorem Inward.sessionless {question : Ask} (inward : Inward question) : Sessionless question := by
  cases question <;> trivial

/-- Two worlds over the same content. In the second a session can always be borrowed and prepared, and statements
come to there what they come to in the request's own session in the first. -/
structure SameContent (own : World σ) (pool : World τ) (alike : σ → τ → Prop) : Prop where
  asked : ∀ {state other}, alike state other → ∀ question, Sessionless question →
    ∃ reply after later, own.reply question state = (reply, after) ∧ pool.reply question other = (reply, later) ∧
      alike after later
  queried : ∀ {state other}, alike state other → ∀ text parameters, ∃ reply after later,
    own.reply (.query .request text (some parameters)) state = (reply, after) ∧
      pool.reply (.query .pool text (some parameters)) other = (reply, later) ∧ alike after later
  borrowed : ∀ {state other}, alike state other →
    ∃ later, pool.reply .borrow other = (.ok (), later) ∧ alike state later
  prepared : ∀ {state other}, alike state other → ∀ limit, ∃ rows later,
    pool.reply (.query .pool (Sql.timeoutStatement limit) none) other = (.ok rows, later) ∧ alike state later
  returned : ∀ {state other}, alike state other →
    ∃ later, pool.reply .giveBack other = ((), later) ∧ alike state later

def isSetting (text : String) : Bool := text.startsWith "SET "

theorem timeoutStatement_setting (limit : Number) : isSetting (Sql.timeoutStatement limit) = true := by
  have first : "SET ".toList <+: "SET statement_timeout = ".toList := by decide
  have parts : (Sql.timeoutStatement limit).toList = "SET statement_timeout = ".toList ++ limit.toText.toList :=
    String.toList_append
  apply String.startsWith_string_iff.mpr
  rw [parts]
  exact first.trans (List.prefix_append _ _)

/-- What an exchange with a session of the pool would be in the request's own. The lender's own business is none
there. -/
def ownExchange : Exchanged → Option Exchanged
  | ⟨.borrow, _⟩ | ⟨.giveBack, _⟩ => none
  | ⟨.query .pool text (some parameters), reply⟩ => some ⟨.query .request text (some parameters), reply⟩
  | ⟨.query .pool text none, reply⟩ => if isSetting text then none else some ⟨.query .request text none, reply⟩
  | asked => some asked

theorem ownExchange_apart {question : Ask} (apart : Sessionless question) (reply : question.Reply) :
    ownExchange ⟨question, reply⟩ = some ⟨question, reply⟩ := by
  cases question <;> first | rfl | exact apart.elim

/-- In their worlds the two flows come to the same, and what the first asked is what the second asked without the
lender. -/
structure SideBySide (own : World σ) (pool : World τ) (state : σ) (other : τ) (held lent : Flow α) : Prop where
  result : (held.run own state).1 = (lent.run pool other).1
  history : held.trace own state = (lent.trace pool other).filterMap ownExchange

section
variable {own : World σ} {pool : World τ} {state after : σ} {other later : τ}

theorem SideBySide.ask {question lending : Ask} {reply : question.Reply} {answer : lending.Reply}
    {next : question.Reply → Flow α} {again : lending.Reply → Flow α}
    (here : own.reply question state = (reply, after)) (there : pool.reply lending other = (answer, later))
    (kept : ownExchange ⟨lending, answer⟩ = some ⟨question, reply⟩)
    (rest : SideBySide own pool after later (next reply) (again answer)) :
    SideBySide own pool state other (.ask question next) (.ask lending again) := by
  constructor
  · simp only [Flow.run, here, there]
    exact rest.result
  · simp only [Flow.trace, here, there]
    rw [List.filterMap_cons_some kept, rest.history]

theorem SideBySide.lend {lending : Ask} {answer : lending.Reply} {held : Flow α} {again : lending.Reply → Flow α}
    (there : pool.reply lending other = (answer, later)) (dropped : ownExchange ⟨lending, answer⟩ = none)
    (rest : SideBySide own pool state later held (again answer)) :
    SideBySide own pool state other held (.ask lending again) := by
  constructor
  · simp only [Flow.run, there]
    exact rest.result
  · simp only [Flow.trace, there]
    rw [List.filterMap_cons_none dropped]
    exact rest.history

theorem StandsFor.sideBySide {alike : σ → τ → Prop} (content : SameContent own pool alike) {held lent : Flow α}
    (stands : StandsFor held lent) (same : alike state other) : SideBySide own pool state other held lent := by
  induction stands generalizing state other with
  | done value => exact ⟨rfl, rfl⟩
  | @ask question _ _ apart _ ih =>
    obtain ⟨reply, after, later, here, there, onward⟩ := content.asked same question apart
    exact .ask here there (ownExchange_apart apart reply) (ih reply onward)
  | query text parameters _ ih =>
    obtain ⟨reply, after, later, here, there, onward⟩ := content.queried same text parameters
    exact .ask here there rfl (ih reply onward)
  | borrowed _ ih =>
    obtain ⟨later, lends, onward⟩ := content.borrowed same
    exact .lend lends rfl (ih onward)
  | prepared limit _ ih =>
    obtain ⟨rows, later, prepares, onward⟩ := content.prepared same limit
    exact .lend prepares (if_pos (timeoutStatement_setting limit)) (ih rows onward)
  | returned _ ih =>
    obtain ⟨later, takes, onward⟩ := content.returned same
    exact .lend takes rfl (ih onward)

end

inductive Sessioned : Request → Request → Prop where
  | intro (request : Request) : Sessioned { request with ownSession := true } { request with ownSession := false }

section
variable {request other : Request} (paired : Sessioned request other)
include paired

theorem Sessioned.method : other.method = request.method := by cases paired; rfl
theorem Sessioned.path : other.path = request.path := by cases paired; rfl
theorem Sessioned.fullPath : other.fullPath = request.fullPath := by cases paired; rfl
theorem Sessioned.wholeTarget : other.wholeTarget = request.wholeTarget := by cases paired; rfl
theorem Sessioned.headers : other.headers = request.headers := by cases paired; rfl
theorem Sessioned.params : other.params = request.params := by cases paired; rfl
theorem Sessioned.query : other.query = request.query := by cases paired; rfl
theorem Sessioned.auth : other.auth = request.auth := by cases paired; rfl
theorem Sessioned.tenant : other.tenant = request.tenant := by cases paired; rfl
theorem Sessioned.own : request.ownSession = true := by cases paired; rfl
theorem Sessioned.lent : other.ownSession = false := by cases paired; rfl

theorem Sessioned.identified (auth : Option AuthState) :
    Sessioned { request with auth := auth } { other with auth := auth } := by
  obtain ⟨request⟩ := paired
  exact .intro { request with auth := auth }

theorem Sessioned.tenanted (tenant : Option TenantContext) :
    Sessioned { request with tenant := tenant } { other with tenant := tenant } := by
  obtain ⟨request⟩ := paired
  exact .intro { request with tenant := tenant }

theorem Sessioned.entered (taken : List Char) (params : List (String × Option Json)) :
    Sessioned (Mount.enter request taken params) (Mount.enter other taken params) := by
  obtain ⟨request⟩ := paired
  have same (ownSession : Bool) : Mount.enter { request with ownSession } taken params =
      { Mount.enter request taken params with ownSession } := by
    unfold Mount.enter
    split <;> rfl
  rw [same true, same false]
  exact .intro _

theorem Sessioned.left {inner again : Request} (within : Sessioned inner again) (taken : List Char) :
    Sessioned (Mount.leaveTo request inner taken) (Mount.leaveTo other again taken) := by
  obtain ⟨request⟩ := paired
  obtain ⟨inner⟩ := within
  have same (ownSession : Bool) : Mount.leaveTo { request with ownSession } { inner with ownSession } taken =
      { Mount.leaveTo request inner taken with ownSession } := by
    unfold Mount.leaveTo
    split <;> rfl
  rw [same true, same false]
  exact .intro _

end

theorem sessioned_lasting : LastingBoth Sessioned where
  method paired := paired.method
  path paired := paired.path
  entered paired := paired.entered
  left paired := paired.left

/-- A stage that does in sessions of the pool what it does in the request's own. -/
abbrev Portable (run : Stage) : Prop := PassesBoth StandsFor Sessioned run

theorem respond_stands (answer : Answer) : StandsFor (Flow.respond answer) (Flow.respond answer) :=
  .itself ⟨trivial, fun _ => trivial⟩

theorem verifier_sessionless (verifier : Verifier) (token : String) (signal : Signal) :
    Asks Sessionless (verifier.verify token signal) := by
  cases verifier with
  | consulted method => exact ⟨trivial, fun _ => trivial⟩
  | _ => exact (verifier_inward (fun _ same => by cases same) token signal).weaken fun _ => Inward.sessionless

theorem watch_sessionless : Asks Sessionless TokenIdentity.watch := by
  refine ⟨trivial, fun _ => ⟨trivial, fun closed => ?_⟩⟩
  match closed with
  | some false => exact ⟨trivial, fun _ => trivial⟩
  | some true | none => trivial

theorem lookup_stands (user organization : String) :
    StandsFor (Membership.lookup .request user organization) (Membership.lookup .pool user organization) := by
  apply StandsFor.query
  intro reply
  cases reply with
  | error failure => exact .done _
  | ok rows =>
    have judged : Asks Sessionless (Membership.ofRows user organization rows) := by
      unfold Membership.ofRows
      split
      · trivial
      · dsimp only
        split
        · trivial
        · exact ⟨trivial, fun _ => trivial⟩
    exact (StandsFor.itself judged).bind fun role => .done _

section
variable {request other : Request} {next again : Next} (paired : Sessioned request other)
  (onwards : OnwardsBoth StandsFor Sessioned next again)
include paired onwards

theorem proceed_stands : StandsFor (Stage.proceed next request) (Stage.proceed again other) :=
  .ask trivial fun _ => onwards none _ _ paired

theorem raise_stands (failure : Failure) :
    StandsFor (Stage.raise next failure request) (Stage.raise again failure other) :=
  .ask trivial fun _ => onwards (some failure) _ _ paired

theorem admitted_stands (auth : AuthState) :
    StandsFor (Stage.attachAuth request auth >>= Stage.proceed next)
      (Stage.attachAuth other auth >>= Stage.proceed again) :=
  .ask trivial fun _ => proceed_stands (paired.identified (some auth)) onwards

theorem judgeClaims_stands (claims : Option Fields) :
    StandsFor (TokenIdentity.judgeClaims request claims next) (TokenIdentity.judgeClaims other claims again) := by
  unfold TokenIdentity.judgeClaims
  split
  · exact respond_stands _
  next claims =>
    have read := (readClaims_inward claims).weaken fun _ => Inward.sessionless
    refine (StandsFor.itself read).bind fun outcome => ?_
    cases outcome with
    | error rejection => exact .request trivial fun _ => respond_stands _
    | ok identity =>
      exact .ask trivial fun _ => .request trivial fun _ => proceed_stands (paired.identified _) onwards

theorem conclude_stands (stage : TokenIdentity) (signal : Signal) (outcome : Outcome) :
    StandsFor (stage.conclude request signal outcome next) (stage.conclude other signal outcome again) := by
  cases outcome with
  | error failure => exact .request trivial fun _ => respond_stands _
  | ok claims =>
    dsimp only [TokenIdentity.conclude]
    split
    · exact .request trivial fun _ => .done none
    · exact judgeClaims_stands paired onwards claims

end

theorem token_portable (stage : TokenIdentity) : Portable stage.run := by
  intro request other next again paired onwards
  unfold TokenIdentity.run Request.header?
  rw [paired.fullPath, paired.headers]
  split
  · exact admitted_stands paired onwards _
  · split
    · exact admitted_stands paired onwards _
    · split
      · exact respond_stands _
      next token _ =>
        refine (StandsFor.itself watch_sessionless).bind fun signal => ?_
        refine (StandsFor.itself (verifier_sessionless stage.verifier token signal)).bind fun outcome => ?_
        refine (conclude_stands paired onwards stage signal outcome).bind fun answer => ?_
        exact .request trivial fun _ => .done answer

theorem gateway_portable (stage : GatewayIdentity) : Portable stage.run := by
  intro request other next again paired onwards
  unfold GatewayIdentity.run GatewayIdentity.identityOf Request.nonemptyHeader? Request.header?
  rw [paired.fullPath, paired.headers]
  split
  · exact admitted_stands paired onwards _
  · split
    · exact respond_stands _
    · exact .ask trivial fun _ => .request trivial fun _ => proceed_stands (paired.identified _) onwards

theorem identity_portable (choice : IdentityChoice) : Portable choice.stage := by
  cases choice with
  | token stage => exact token_portable stage
  | gateway stage => exact gateway_portable stage

theorem isolation_portable (isolation : Isolation) : Portable isolation.run := by
  intro request other next again paired onwards
  unfold Isolation.run
  rw [paired.fullPath, paired.method, paired.auth]
  split
  · exact proceed_stands paired onwards
  · split
    · exact .request trivial fun _ => respond_stands _
    · exact .request trivial fun _ => respond_stands _
    next identity _ =>
      unfold Isolation.resolve
      rw [paired.params, paired.query]
      split
      · exact .request trivial fun _ => respond_stands _
      next resolved _ =>
        unfold Isolation.confirm
        rw [paired.own, paired.lent]
        refine (inSession_stands isolation.lender (lookup_stands _ _)).bind fun outcome => ?_
        match outcome with
        | .error failure => exact raise_stands paired onwards failure
        | .ok none => exact .request trivial fun _ => respond_stands _
        | .ok (some role) =>
          exact .ask trivial fun _ => .request trivial fun _ => proceed_stands (paired.tenanted _) onwards

theorem read_portable (lender : Sql.Lender) {statement : Request → TenantContext → Organizations.Statement}
    (same : ∀ {request other}, Sessioned request other → statement other = statement request)
    (answer : TenantContext → List Fields → Except Failure Answer) :
    Portable (Organizations.read lender statement answer) := by
  intro request other next again paired onwards
  unfold Organizations.read
  rw [paired.tenant, paired.own, paired.lent, same paired]
  split
  · exact respond_stands _
  · refine (inSession_stands lender (.query _ _ fun reply => .done reply)).bind fun outcome => ?_
    split
    · exact raise_stands paired onwards _
    · exact respond_stands _

theorem guard_portable (required : String) : Portable (RoleGuard.run required) := by
  intro request other next again paired onwards
  unfold RoleGuard.run
  rw [paired.tenant, paired.fullPath, paired.method]
  split
  · exact .request trivial fun _ => respond_stands _
  · split
    · exact proceed_stands paired onwards
    · exact .request trivial fun _ => respond_stands _

theorem tell_portable : Portable CallerContext.tell := by
  intro request other next again paired _
  unfold CallerContext.tell CallerContext.ofRequest
  rw [paired.auth, paired.tenant]
  exact respond_stands _

theorem failure_portable (failure : Failure) : Portable (Service.onFailure failure) := by
  intro request other next again paired _
  unfold Service.onFailure FailureAnswer.run FailureAnswer.report
  rw [paired.tenant, paired.method, paired.wholeTarget]
  cases failure <;> exact .request trivial fun _ => respond_stands _

theorem leave_stands : OnwardsBoth StandsFor Sessioned Service.leave Service.leave := by
  intro failure request other paired
  unfold Service.leave NotFoundPage.answer
  rw [paired.method, paired.wholeTarget]
  exact respond_stands _

theorem pipeline_stands (choice : IdentityChoice) (isolation : Isolation) (lender : Sql.Lender) (pattern : Pattern) :
    OnwardsBoth StandsFor Sessioned (Mount.dispatch (pipelineOn choice isolation lender pattern) Service.leave)
      (Mount.dispatch (pipelineOn choice isolation lender pattern) Service.leave) := by
  have identity := identity_portable choice
  have tenancy := isolation_portable isolation
  have context : Portable (Route.router CallerContext.routes) := by
    refine router_both sessioned_lasting respond_stands ?_
    simp only [CallerContext.routes, List.forall_mem_cons, List.not_mem_nil, false_implies, implies_true, and_true]
    exact tell_portable
  have organizations : Portable (Route.router (Organizations.routes lender)) := by
    refine router_both sessioned_lasting respond_stands ?_
    simp only [Organizations.routes, List.forall_mem_cons, List.not_mem_nil, false_implies, implies_true, and_true]
    refine ⟨read_portable lender (fun _ => rfl) _, guard_portable _, read_portable lender (fun paired => ?_) _⟩
    rw [paired.query]
  refine mounts_both sessioned_lasting ?_ leave_stands
  simp only [pipelineOn, contextMounts, List.forall_mem_cons, List.not_mem_nil, false_implies, implies_true, and_true]
  exact ⟨identity, tenancy, organizations, identity, tenancy, context, fun _ _ _ _ _ _ => respond_stands _,
    failure_portable⟩

/-- The statements that were put to the database, with their parameters, settings aside. -/
def statements (history : List Exchanged) : List (String × Option (List Json)) :=
  history.filterMap fun asked => match asked.question with
    | .query _ text parameters => if isSetting text then none else some (text, parameters)
    | _ => none

theorem statements_own (history : List Exchanged) :
    statements (history.filterMap ownExchange) = statements history := by
  unfold statements
  rw [List.filterMap_filterMap]
  congr 1
  funext ⟨question, reply⟩
  cases question with
  | query session text parameters =>
    cases session with
    | pool =>
      cases parameters with
      | none =>
        simp only [ownExchange]
        split
        next => rfl
        next reading => simp only [Option.bind_some, if_neg reading]
      | some parameters => rfl
    | request | direct => rfl
  | _ => rfl

theorem attachedTenant_own (history : List Exchanged) :
    Transcript.attachedTenant? (history.filterMap ownExchange) = Transcript.attachedTenant? history := by
  unfold Transcript.attachedTenant?
  rw [← List.filterMap_reverse, ← List.head?_filterMap, ← List.head?_filterMap, List.filterMap_filterMap]
  congr 2
  funext ⟨question, reply⟩
  cases question with
  | query session text parameters =>
    cases session with
    | pool =>
      cases parameters with
      | none =>
        simp only [ownExchange]
        split <;> rfl
      | some parameters => rfl
    | request | direct => rfl
  | _ => rfl

/-- A request with a session of its own never turns to the pool, and comes to what it comes to in sessions of a pool
that works. -/
structure Interchangeable (own : World σ) (pool : World τ) (state : σ) (other : τ)
    (held lent : Flow (Option Answer)) : Prop where
  unlent : ∀ {ρ : Type} (world : World ρ) (start : ρ), ∀ asked ∈ held.trace world start, OffPool asked.question
  answer : (held.run own state).1 = (lent.run pool other).1
  statements : statements (held.trace own state) = statements (lent.trace pool other)
  tenant : Transcript.attachedTenant? (held.trace own state) = Transcript.attachedTenant? (lent.trace pool other)

section
variable {own : World σ} {pool : World τ} {alike : σ → τ → Prop} (content : SameContent own pool alike) {state : σ}
  {other : τ} (same : alike state other)
include content same

theorem StandsFor.interchangeable {held lent : Flow (Option Answer)} (stands : StandsFor held lent) :
    Interchangeable own pool state other held lent := by
  have beside := stands.sideBySide content same
  constructor
  · intro ρ world start
    exact (trace_runs held world start).within stands.off
  · exact beside.result
  · rw [beside.history, statements_own]
  · rw [beside.history, attachedTenant_own]

/-- A health check borrows its session whoever asks. What no health route answers may bring one along to the whole
service as to what is mounted behind them. -/
theorem service_interchanges (choice : IdentityChoice) (isolation : Isolation) (lender : Sql.Lender) (header : String)
    (request : Request) (unserved : Unserved (Health.routes lender) request) :
    let handled (ownSession : Bool) := (service choice isolation lender header).dispatch none
      { request with ownSession }
    Interchangeable own pool state other (handled true) (handled false) := by
  intro handled
  have behind (ownSession : Bool) : handled ownSession =
      Mount.dispatch (pipelineOn choice isolation lender Service.organizationPattern) Service.leave none
        { request with ownSession } :=
    unserved_behind choice isolation lender header unserved
  rw [behind, behind]
  exact (pipeline_stands choice isolation lender _ none _ _ (.intro request)).interchangeable content same

end

/-- It does not matter whether a request brings its session along. With one of its own it borrows none, whatever
becomes of those who try; otherwise the same is asked and answered in sessions that are lent. -/
theorem sessions_interchange (choice : IdentityChoice) (isolation : Isolation) (lender : Sql.Lender)
    (pattern : Pattern) (request : Request) {own : World σ} {pool : World τ} {alike : σ → τ → Prop}
    (content : SameContent own pool alike) {state : σ} {other : τ} (same : alike state other) :
    let handled (ownSession : Bool) := Mount.dispatch (pipelineOn choice isolation lender pattern) Service.leave none
      { request with ownSession }
    Interchangeable own pool state other (handled true) (handled false) := by
  intro handled
  have stands : StandsFor (handled true) (handled false) :=
    pipeline_stands choice isolation lender pattern none _ _ (.intro request)
  exact stands.interchangeable content same

/-- The same replies, but that no session is lent. -/
def unlending (props : Props) (failure : Failure) : Props := { props with borrow := .error failure }

theorem replied_alike {own : World σ} {pool : World τ} {alike : σ → τ → Prop} {state : σ} {other : τ} {question : Ask}
    (replies : (own.reply question state).1 = (pool.reply question other).1)
    (states : alike (own.reply question state).2 (pool.reply question other).2) :
    ∃ reply after later, own.reply question state = (reply, after) ∧ pool.reply question other = (reply, later) ∧
      alike after later :=
  ⟨_, _, (pool.reply question other).2, rfl, Prod.ext replies.symm rfl, states⟩

/-- Rehearsals over the same replies, of which only the second lends. -/
theorem rehearsed_content {props : Props} (failure : Failure) (lends : props.borrow = .ok ())
    (prepares : ∀ limit, ∃ rows, props.query (Sql.timeoutStatement limit) [] = .ok rows) :
    SameContent (unlending props failure).world props.world ScenesAlike where
  asked := by
    rintro scene other ⟨now, cues, keys⟩ question apart
    cases question with
    | clock => exact replied_alike now ⟨now, cues, keys⟩
    | fetch request =>
      obtain ⟨reply, after, later, kept⟩ := ScenesAlike.fetched ⟨now, cues, keys⟩ request
      exact replied_alike reply ⟨after, later, kept⟩
    | recallKeys => exact replied_alike keys ⟨now, cues, keys⟩
    | storeKeys => exact replied_alike rfl ⟨now, cues, rfl⟩
    | borrow | giveBack | query => exact apart.elim
    | _ => exact replied_alike rfl ⟨now, cues, keys⟩
  queried alike text parameters := ⟨_, _, _, rfl, rfl, alike.now, alike.cues, alike.keys⟩
  borrowed alike := ⟨_, Prod.ext lends rfl, alike.now, alike.cues, alike.keys⟩
  prepared alike limit := by
    obtain ⟨rows, set⟩ := prepares limit
    exact ⟨rows, _, Prod.ext set rfl, alike.now, alike.cues, alike.keys⟩
  returned alike := ⟨_, rfl, alike.now, alike.cues, alike.keys⟩

def listing : Request :=
  Incoming.toRequest ⟨"GET", "/v1/orgs/22222222-2222-2222-2222-222222222222/memberships",
    [("X-User-ID", "11111111-1111-1111-1111-111111111111"), ("X-Email", "ada@example.test")], none⟩

def timed : Sql.Lender := .pooled (.ofInt 5000)

def listed (ownSession : Bool) : Flow (Option Answer) :=
  Mount.dispatch (pipelineOn (.gateway ⟨[]⟩) ⟨timed, true, []⟩ timed Service.organizationPattern) Service.leave none
    { listing with ownSession }

/-- Where no session can be had, a request that brings one is still served, as it would be by a pool that works. -/
theorem sessions_interchange_exhausted :
    let exhausted : World Scene := (unlending owning (.error "Error" "too many clients")).world
    SameContent exhausted owning.world ScenesAlike ∧ ScenesAlike (.begin 0 []) (.begin 0 []) ∧
    Interchangeable exhausted owning.world (.begin 0 []) (.begin 0 []) (listed true) (listed false) ∧
    ((listed true).run exhausted (.begin 0 [])).1.map (·.status) = some 200 ∧
    ((listed false).run exhausted (.begin 0 [])).1.map (·.status) = some 500 := by
  intro exhausted
  have prepares (limit : Number) : ∃ rows, owning.query (Sql.timeoutStatement limit) [] = .ok rows := ⟨_, rfl⟩
  have content : SameContent exhausted owning.world ScenesAlike := rehearsed_content _ rfl prepares
  have begun : ScenesAlike (.begin 0 []) (.begin 0 []) := ⟨rfl, rfl, rfl⟩
  exact ⟨content, begun, sessions_interchange _ _ _ _ listing content begun, by decide +kernel, by decide +kernel⟩

end TenantAccess.Proofs
