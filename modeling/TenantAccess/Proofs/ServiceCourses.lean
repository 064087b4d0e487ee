import TenantAccess.Proofs.MountCourses

/-! Everything that the whole service can do with a request, from its arrival to its
response. What is proved of the courses holds of every run. -/

namespace TenantAccess.Proofs

def endMounts : List Mount :=
  [⟨[], .stage fun _ _ => Flow.respond Service.notFound⟩, ⟨[], .onFailure Service.onFailure⟩]

theorem end_closes {pattern : Pattern} (guarded : Guarded pattern) {arrival : Request}
    (arrived : ∃ path, Target.path? arrival.target = some path) : Closes pattern arrival endMounts := by
  intro post done failure target auth tenant handed counts answered
  obtain ⟨path, found⟩ := handed.rooted guarded arrived
  have known : (Request.at arrival target auth tenant).path = some path := found
  cases failure with
  | none =>
    rw [endMounts, Mount.dispatch]
    simp only [Failure.passed, known, mounted_everywhere]
    exact Comes.respond answered
  | some raised =>
    rw [endMounts, raised_skips (counts raised rfl) known]
    exact raised_answered (counts raised rfl) known answered

section
variable (choice : IdentityChoice) (isolation : Isolation) (lender : Sql.Lender)

/-- What was found under the organizations passes by the caller's context. -/
theorem context_closes {arrival : Request} {path : String} (found : Target.path? arrival.target = some path)
    (under : Service.organizationPattern.mounted path ≠ .no) :
    Closes Service.organizationPattern arrival (contextMounts choice isolation) := by
  intro post done failure target auth tenant handed counts answered
  obtain ⟨other, kept, apart⟩ := handed.elsewhere found under
  have closes := end_closes organization_guarded ⟨path, found⟩ post done failure target auth tenant handed counts
    answered
  have known : (Request.at arrival target auth tenant).path = some other := kept
  cases failure with
  | none =>
    -- However the target was changed on its way, it leads to no context now.
    have astray : Astray Service.contextPattern target none := .unmatched kept apart
    rw [contextMounts, astray.skips, astray.skips, astray.skips]
    exact closes
  | some raised =>
    rw [contextMounts, raised_skips (counts raised rfl) known, raised_skips (counts raised rfl) known,
      raised_skips (counts raised rfl) known]
    exact closes

end

inductive CheckCourse (lender : Sql.Lender) (request : Request) : List Exchanged → Exit → Prop where
  | checked {looked : List Exchanged} {reply : Except Failure (List Fields)}
      (asked : Asked lender false Health.statement [] looked reply) :
      CheckCourse lender request (looked ++ [answering (Health.healthy reply.isOk)])
        (.answered (Health.healthy reply.isOk))

inductive TellCourse (answer : Request → Answer) (request : Request) : List Exchanged → Exit → Prop where
  | told : TellCourse answer request [answering (answer request)] (.answered (answer request))

def pong : Answer := .json 200 (.record [("pong", .boolean true)])

def healthCourse (lender : Sql.Lender) (route : Route) : StageCourse :=
  if route.pattern = [.literal "health"] then CheckCourse lender else TellCourse fun _ => pong

def organizationCourse (lender : Sql.Lender) : StageCourse :=
  ReadCourse lender (fun _ tenant => Organizations.organizationStatement tenant)
    fun tenant rows => Organizations.details rows.head? tenant.role

def membersCourse (lender : Sql.Lender) : StageCourse :=
  GuardCourse Role.admin.toText (ReadCourse lender
    (fun request tenant => Organizations.membersStatement tenant
      (Organizations.limitOf (request.query.get? "limit")))
    fun _ rows => Organizations.members rows)

def organizationsCourse (lender : Sql.Lender) (route : Route) : StageCourse :=
  if route.pattern = [] then organizationCourse lender else membersCourse lender

def contextCourse (_ : Route) : StageCourse :=
  TellCourse fun request => .json 200 (CallerContext.ofRequest request)

theorem check_takes (lender : Sql.Lender) : Takes (Health.check lender) (CheckCourse lender) := by
  intro post done request next all
  refine Comes.bind (inSession_comes lender false id done fun session current =>
    query_comes session Health.statement [] current) ?_
  rintro _ outcome ⟨looked, reply, rfl, asked, rfl⟩
  have answered := all _ _ (.checked asked)
  rw [← List.append_assoc] at answered
  cases reply with
  | ok rows => exact Comes.respond answered
  | error failure => exact Comes.report (Comes.respond answered)

theorem word_matched {word : String} {stages : List Stage} {request : Request}
    (matched : Route.Matches ⟨[.literal word], stages⟩ request) : ∃ path text rest, request.path = some path ∧
      Pattern.nextSegment? path.toList = some (text, rest) ∧ Pattern.sameLetters word.toList text = true := by
  unfold Route.Matches at matched
  cases found : request.path with
  | none => simp [found] at matched
  | some path =>
    simp only [found, Option.map_some, Option.getD_some, Pattern.isRoute] at matched
    split at matched
    next raw front left took =>
      obtain ⟨text, rest, _, opened, same, -, -⟩ := take?_literal took
      exact ⟨path, text, rest, rfl, opened, same⟩
    next => cases matched

theorem bare_matched {stages : List Stage} {request : Request} (matched : Route.Matches ⟨[], stages⟩ request) :
    ∃ path, request.path = some path ∧ (path.toList = [] ∨ path.toList = ['/']) := by
  unfold Route.Matches at matched
  cases found : request.path with
  | none => simp [found] at matched
  | some path => exact ⟨path, rfl, by simpa [found, Pattern.isRoute, Pattern.take?] using matched⟩

theorem words_apart {first second : String} {stages others : List Stage} {request : Request}
    (apart : (second.toList.map Char.toLower == first.toList.map Char.toLower) = false)
    (matched : Route.Matches ⟨[.literal first], stages⟩ request) :
    ¬ Route.Matches ⟨[.literal second], others⟩ request := by
  intro both
  obtain ⟨path, text, rest, found, opened, same⟩ := word_matched matched
  obtain ⟨other, next, more, again, reopened, alike⟩ := word_matched both
  cases found.symm.trans again
  cases opened.symm.trans reopened
  rw [sameLetters_apart same apart] at alike
  cases alike

theorem bare_apart {word : String} (named : Pattern.sameLetters word.toList [] = false) {stages others : List Stage}
    {request : Request} (matched : Route.Matches ⟨[], stages⟩ request) :
    ¬ Route.Matches ⟨[.literal word], others⟩ request := by
  intro both
  obtain ⟨path, found, short⟩ := bare_matched matched
  obtain ⟨other, text, rest, again, opened, same⟩ := word_matched both
  cases found.symm.trans again
  rcases short with empty | slash
  · simp [empty, Pattern.nextSegment?] at opened
  · simp only [slash, Pattern.nextSegment?, List.takeWhile_nil, List.dropWhile_nil, Option.some.injEq,
      Prod.mk.injEq] at opened
    rw [← opened.1, named] at same
    cases same

theorem tell_takes (answer : Request → Answer) :
    Takes (fun request _ => Flow.respond (answer request)) (TellCourse answer) :=
  fun _ _ _ _ all => Comes.respond (all _ _ .told)

theorem healthCourse_answers {lender : Sql.Lender} {route : Route} {request : Request} {more : List Exchanged}
    {exit : Exit} (served : healthCourse lender route request more exit) : ∃ answer, exit = .answered answer := by
  unfold healthCourse at served
  split at served
  · cases served
    exact ⟨_, rfl⟩
  · cases served
    exact ⟨_, rfl⟩

theorem health_takes (lender : Sql.Lender) : Takes (Route.router (Health.routes lender))
    (RoutesCourse (Health.routes lender) (healthCourse lender)) := by
  refine router_takes ?_ ?_ ?_
  · simp only [Health.routes, List.pairwise_cons, List.mem_singleton, forall_eq, List.not_mem_nil, false_imp_iff,
      implies_true, List.Pairwise.nil, and_true]
    exact fun request => words_apart (by decide)
  · intro route member
    simp only [Health.routes, List.mem_cons, List.not_mem_nil, or_false] at member
    rcases member with rfl | rfl
    · exact check_takes lender
    · exact tell_takes fun _ => pong
  · intro route request more failure inner served
    obtain ⟨answer, same⟩ := healthCourse_answers served
    cases same

theorem organizations_take (lender : Sql.Lender) : Takes (Route.router (Organizations.routes lender))
    (RoutesCourse (Organizations.routes lender) (organizationsCourse lender)) := by
  refine router_takes ?_ ?_ ?_
  · simp only [Organizations.routes, List.pairwise_cons, List.mem_singleton, forall_eq, List.not_mem_nil,
      false_imp_iff, implies_true, List.Pairwise.nil, and_true]
    exact fun request => bare_apart (by decide)
  · intro route member
    simp only [Organizations.routes, List.mem_cons, List.not_mem_nil, or_false] at member
    rcases member with rfl | rfl
    · exact read_takes lender _ _
    · exact guard_takes _ (read_takes lender _ _)
  · intro route request more failure inner served
    unfold organizationsCourse at served
    split at served
    · cases served
      rfl
    · cases served with
      | passed _ _ inside =>
        cases inside
        rfl

theorem context_takes :
    Takes (Route.router CallerContext.routes) (RoutesCourse CallerContext.routes contextCourse) := by
  refine router_takes ?_ ?_ ?_
  · simp [CallerContext.routes]
  · intro route member
    obtain rfl := List.mem_singleton.mp member
    exact tell_takes fun request => .json 200 (CallerContext.ofRequest request)
  · intro route request more failure inner served
    cases served

theorem settled_counts {exit : Exit} {failure : Option Failure} {inner : Request}
    (settled : exit.settled = .handed failure inner) : Counts failure := by
  rintro raised rfl
  cases exit with
  | answered => cases settled
  | gone => cases settled
  | handed given request =>
    simp only [Exit.settled] at settled
    cases passed : Failure.passed given with
    | failed other =>
      simp only [passed, Exit.handed.injEq, Option.some.injEq] at settled
      rw [← settled.1, Raised, ← passed_failed passed]
      exact passed
    | leaves => simp [passed] at settled
    | clear => simp [passed] at settled

theorem routes_settled {routes : List Route} {course : Route → StageCourse} (request : Request)
    (more : List Exchanged) (failure : Option Failure) (inner : Request)
    (handed : RoutesCourse routes course request more (.handed failure inner)) : Counts failure := by
  generalize ended : Exit.handed failure inner = exit at handed
  cases handed with
  | served => exact settled_counts ended.symm
  | polled => cases ended
  | passed =>
    cases ended
    exact nofun

/-- No route of these answers the request. -/
def Unserved (routes : List Route) (request : Request) : Prop :=
  ∀ route ∈ routes, Route.Matches route request →
    Route.isReading request.method = false ∧ request.method ≠ "OPTIONS"

theorem Unserved.passes {routes : List Route} {request : Request} (unserved : Unserved routes request) (leave : Next) :
    Route.dispatch routes false leave none request = leave none request := by
  induction routes with
  | nil => rfl
  | cons route rest ih =>
    have later := ih fun other member => unserved other (List.mem_cons_of_mem _ member)
    simp only [Route.dispatch, Failure.passed]
    cases matched : (request.path.map route.pattern.isRoute).getD false with
    | false => simpa using later
    | true =>
      obtain ⟨unread, unpolled⟩ := unserved route List.mem_cons_self matched
      simpa [unread, beq_false_of_ne unpolled] using later

/-- All that a service mounts behind its health routes, with the organizations on a path of one's choice. -/
def pipelineOn (choice : IdentityChoice) (isolation : Isolation) (lender : Sql.Lender) (pattern : Pattern) :
    List Mount :=
  ⟨pattern, .stage choice.stage⟩ :: ⟨pattern, .stage isolation.run⟩ ::
    ⟨pattern, .stage (Route.router (Organizations.routes lender))⟩ :: contextMounts choice isolation

theorem pipelineOn_organizations (choice : IdentityChoice) (isolation : Isolation) (lender : Sql.Lender)
    (header : String) : (service choice isolation lender header).mounts =
      ⟨[], .stage (Route.router (Health.routes lender))⟩ ::
        pipelineOn choice isolation lender Service.organizationPattern := rfl

/-- What no health route answers comes to the stages behind them as it arrived. -/
theorem unserved_behind (choice : IdentityChoice) (isolation : Isolation) (lender : Sql.Lender) (header : String)
    {request : Request} (unserved : Unserved (Health.routes lender) request) :
    (service choice isolation lender header).dispatch none request =
      Mount.dispatch (pipelineOn choice isolation lender Service.organizationPattern) Service.leave none request := by
  rw [Service.dispatch, pipelineOn_organizations, Mount.dispatch]
  cases rooted : request.path with
  | none => simp only [Failure.passed, pipelineOn, Mount.dispatch, rooted]
  | some path =>
    have entered : Unserved (Health.routes lender) (Mount.enter request [] []) := unserved
    simp only [Failure.passed, rooted, mounted_everywhere, Route.router]
    exact entered.passes _

variable (choice : IdentityChoice) (isolation : Isolation) (lender : Sql.Lender)

/-- The course of a request that comes to the mounts, from the health routes on. -/
inductive ServiceCourse (arrival : Request) : List Exchanged → Option Answer → Prop where
  | health {more : List Exchanged} {answer : Answer}
      (served : RoutesCourse (Health.routes lender) (healthCourse lender) arrival more (.answered answer)) :
      ServiceCourse arrival more (some answer)
  | organization {path : String} {more : List Exchanged} {result : Option Answer}
      (unserved : Unserved (Health.routes lender) arrival) (found : Target.path? arrival.target = some path)
      (under : Service.organizationPattern.mounted path ≠ .no)
      (journey : Journey choice isolation Service.organizationPattern
        (RoutesCourse (Organizations.routes lender) (organizationsCourse lender)) arrival more result) :
      ServiceCourse arrival more result
  | context {path : String} {more : List Exchanged} {result : Option Answer}
      (unserved : Unserved (Health.routes lender) arrival) (found : Target.path? arrival.target = some path)
      (apart : Service.organizationPattern.mounted path = .no)
      (under : Service.contextPattern.mounted path ≠ .no)
      (journey : Journey choice isolation Service.contextPattern
        (RoutesCourse CallerContext.routes contextCourse) arrival more result) :
      ServiceCourse arrival more result
  | unknown {path : String} (unserved : Unserved (Health.routes lender) arrival)
      (found : Target.path? arrival.target = some path) (apart : Service.organizationPattern.mounted path = .no)
      (elsewhere : Service.contextPattern.mounted path = .no) :
      ServiceCourse arrival [answering Service.notFound] (some Service.notFound)

section
variable {arrival : Request} {post : List Exchanged → Option Answer → Prop} {done : List Exchanged} {path : String}

theorem contextMounts_come (unserved : Unserved (Health.routes lender) arrival)
    (found : Target.path? arrival.target = some path) (apart : Service.organizationPattern.mounted path = .no)
    (all : ∀ more result, ServiceCourse choice isolation lender arrival more result → post (done ++ more) result) :
    Comes post done (Mount.dispatch (contextMounts choice isolation) Service.leave none
      (Request.at arrival arrival.target none none)) := by
  have closes := end_closes context_guarded ⟨path, found⟩
  by_cases elsewhere : Service.contextPattern.mounted path = .no
  · have astray : Astray Service.contextPattern arrival.target none := .unmatched found elsewhere
    rw [contextMounts, astray.skips, astray.skips, astray.skips]
    exact closes _ _ _ _ _ _ .arrived nofun (all _ _ (.unknown unserved found apart elsewhere))
  · refine journey_comes context_guarded context_takes closes routes_settled ⟨path, found⟩ ?_ ?_
    · intro other same unmatched
      cases found.symm.trans same
      exact absurd unmatched elsewhere
    · exact fun more result journey => all _ _ (.context unserved found apart elsewhere journey)

theorem pipeline_comes (unserved : Unserved (Health.routes lender) arrival)
    (found : Target.path? arrival.target = some path)
    (all : ∀ more result, ServiceCourse choice isolation lender arrival more result → post (done ++ more) result) :
    Comes post done (Mount.dispatch (pipelineOn choice isolation lender Service.organizationPattern) Service.leave none
      (Request.at arrival arrival.target none none)) := by
  by_cases apart : Service.organizationPattern.mounted path = .no
  · have astray : Astray Service.organizationPattern arrival.target none := .unmatched found apart
    rw [pipelineOn, astray.skips, astray.skips, astray.skips]
    exact contextMounts_come choice isolation lender unserved found apart all
  · refine journey_comes organization_guarded (organizations_take lender)
      (context_closes choice isolation found apart) routes_settled ⟨path, found⟩ ?_ ?_
    · intro other same unmatched
      cases found.symm.trans same
      exact absurd unmatched apart
    · exact fun more result journey => all _ _ (.organization unserved found apart journey)

/-- A failure with which a request comes is answered for, and nothing else is done. -/
theorem refused_comes {failure : Failure} (counts : Raised failure) (header : String) {request : Request}
    (rooted : request.path = some path)
    (answered : post (done ++ [answering (FailureAnswer.answer failure)]) (some (FailureAnswer.answer failure))) :
    Comes post done ((service choice isolation lender header).dispatch (some failure) request) := by
  rw [Service.dispatch, pipelineOn_organizations]
  simp only [pipelineOn, contextMounts, raised_skips counts rooted]
  exact raised_answered counts rooted answered

end

theorem dispatch_comes (header : String) (incoming : Incoming) {path : String}
    {post : List Exchanged → Option Answer → Prop} {done : List Exchanged}
    (found : Target.path? incoming.target = some path)
    (all : ∀ more result, ServiceCourse choice isolation lender incoming.toRequest more result →
      post (done ++ more) result) :
    Comes post done ((service choice isolation lender header).dispatch none incoming.toRequest) := by
  have known : incoming.toRequest.path = some path := found
  rw [Service.dispatch, pipelineOn_organizations, Mount.dispatch]
  simp only [Failure.passed, known, mounted_everywhere]
  -- A health route answers or lets the request pass; it never hands on a failure.
  refine health_takes lender post done _ _ fun more exit served => ?_
  have served : RoutesCourse (Health.routes lender) (healthCourse lender) incoming.toRequest more exit := served
  generalize same : exit = ended at served
  cases served with
  | served member matched reading inside =>
    subst same
    obtain ⟨answer, rfl⟩ := healthCourse_answers inside
    exact all _ _ (.health (.served member matched reading inside))
  | polled member matched polled =>
    subst same
    exact all _ _ (.health (.polled member matched polled))
  | passed unserved =>
    subst same
    rw [List.append_nil]
    exact pipeline_comes choice isolation lender unserved found all

/-- Requests that are turned away before they come to any mount, and with which failure. -/
inductive Unready (header : String) (incoming : Incoming) : Failure → Prop where
  | unreadable {problem : Body.Problem}
      (unreadable : Body.check incoming.toRequest incoming.body = .error problem) :
      Unready header incoming problem.failure
  | unnamed (readable : Body.check incoming.toRequest incoming.body = .ok ())
      (unnamed : Header.isName (Header.key header) = false) :
      Unready header incoming (RequestId.unusableHeader (Header.key header))

/-- The course of a request from its arrival to its response. -/
inductive Course (header : String) (incoming : Incoming) : List Exchanged → Option Response → Prop where
  | pathless (pathless : Target.path? incoming.target = none) :
      Course header incoming [answering (NotFoundPage.answer incoming.toRequest)]
        (some (.ofAnswer (NotFoundPage.answer incoming.toRequest) incoming.toRequest []))
  | unready {path : String} {failure : Failure} (found : Target.path? incoming.target = some path)
      (unready : Unready header incoming failure) :
      Course header incoming [answering (FailureAnswer.answer failure)]
        (some (.ofAnswer (FailureAnswer.answer failure) incoming.toRequest []))
  | served {path : String} {more : List Exchanged} {result : Option Answer} (held : List (String × String))
      (found : Target.path? incoming.target = some path)
      (readable : Body.check incoming.toRequest incoming.body = .ok ())
      (named : Header.isName (Header.key header) = true)
      (course : ServiceCourse choice isolation lender incoming.toRequest more result) :
      Course header incoming more (result.map fun answer => .ofAnswer answer incoming.toRequest held)

theorem Unready.raised {header : String} {incoming : Incoming} {failure : Failure}
    (unready : Unready header incoming failure) : Raised failure := by
  cases unready <;> rfl

theorem refuse_comes (header : String) (incoming : Incoming) {path : String} {failure : Failure}
    (found : Target.path? incoming.target = some path) (unready : Unready header incoming failure) :
    Comes (Course choice isolation lender header incoming) []
      ((service choice isolation lender header).refuse failure incoming.toRequest) := by
  have comes : Comes (fun later answer => later = [answering (FailureAnswer.answer failure)] ∧
      answer = some (FailureAnswer.answer failure)) []
      ((service choice isolation lender header).dispatch (some failure) incoming.toRequest) :=
    refused_comes choice isolation lender unready.raised header found ⟨rfl, rfl⟩
  refine comes.bind ?_
  rintro _ _ ⟨rfl, rfl⟩
  exact .unready found unready

theorem serve_comes (header : String) (incoming : Incoming) {path : String}
    (found : Target.path? incoming.target = some path)
    (readable : Body.check incoming.toRequest incoming.body = .ok ())
    (named : Header.isName (Header.key header) = true) :
    Comes (Course choice isolation lender header incoming) []
      ((service choice isolation lender header).serve incoming.toRequest (Header.key header)) := by
  have chosen : Comes (fun later _ => later = []) [] (RequestId.choose incoming.toRequest (Header.key header)) := by
    unfold RequestId.choose
    split
    · rfl
    · exact fun _ => rfl
  refine chosen.bind ?_
  rintro _ id rfl
  have comes : Comes (ServiceCourse choice isolation lender incoming.toRequest) []
      ((service choice isolation lender header).dispatch none incoming.toRequest) :=
    dispatch_comes choice isolation lender header incoming found fun _ _ course => course
  refine comes.bind fun later answer course => ?_
  have sent : Course choice isolation lender header incoming later
      (answer.map fun answer => .ofAnswer answer incoming.toRequest [(Header.key header, id)]) :=
    .served _ found readable named course
  cases answer with
  | none => exact sent
  | some answer => exact fun _ => sent

theorem handle_comes (header : String) (incoming : Incoming) :
    Comes (Course choice isolation lender header incoming) []
      ((service choice isolation lender header).handle incoming) := by
  unfold Service.handle
  simp only
  split
  next rootless =>
    have pathless : Target.path? incoming.target = none := by simpa using! rootless
    exact fun _ => .pathless pathless
  next rooted =>
    obtain ⟨path, found⟩ : ∃ path, Target.path? incoming.target = some path := by
      simpa [Option.isNone_iff_eq_none, Option.ne_none_iff_exists'] using! rooted
    split
    next problem unreadable =>
      exact refuse_comes choice isolation lender header incoming found (.unreadable unreadable)
    next readable =>
      split
      next named => exact serve_comes choice isolation lender header incoming found readable named
      next unnamed =>
        exact refuse_comes choice isolation lender header incoming found (.unnamed readable (by simpa using! unnamed))

/-- Whatever is sent and whatever the world replies, a request takes one of these courses. -/
theorem handle_course (header : String) (incoming : Incoming) (world : World σ) (state : σ) :
    Course choice isolation lender header incoming
      (steps (((service choice isolation lender header).handle incoming).trace world state))
      (((service choice isolation lender header).handle incoming).run world state).1 := by
  simpa using (handle_comes choice isolation lender header incoming).holds world state

end TenantAccess.Proofs
