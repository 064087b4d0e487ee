import TenantAccess.Proofs.TenantRoutes

/-! The way of a request through everything that is mounted: the health routes, the
organizations, the caller's context, and what answers when nothing else did. The answer
then goes out as a response. -/

namespace TenantAccess.Proofs

section
variable {pattern : Pattern} {arrival request : Request} {past : List Exchanged} {failure : Option Failure}

structure Placed (pattern : Pattern) (arrival request : Request) : Prop where
  handed : HandedOn pattern arrival.target request.target
  path : request.path = Target.path? request.target
  rooted : ∃ path, request.path = some path

theorem Facts.entered (facts : Facts pattern arrival past failure request) (taken : List Char)
    (params : List (String × Option Json)) :
    Facts pattern arrival past failure (Mount.enter request taken params) := by
  unfold Mount.enter
  split
  · exact ⟨facts.method, facts.query, facts.wholeTarget, facts.identified, facts.granted, facts.failed⟩
  · exact ⟨facts.method, facts.query, facts.wholeTarget, facts.identified, facts.granted, facts.failed⟩

/-- What a stage attached comes along; everything else is as it was outside. -/
theorem Facts.left {inner : Request} {current : List Exchanged} {given : Option Failure}
    (outside : Facts pattern arrival past failure request) (facts : Facts pattern arrival current given inner)
    (taken : List Char) : Facts pattern arrival current given (Mount.leaveTo request inner taken) := by
  unfold Mount.leaveTo
  simp only
  split
  · exact ⟨outside.method, outside.query, outside.wholeTarget, facts.identified, facts.granted, facts.failed⟩
  · exact ⟨outside.method, outside.query, outside.wholeTarget, facts.identified, facts.granted, facts.failed⟩

theorem entered_params (request : Request) (taken : List Char) (params : List (String × Option Json)) :
    (Mount.enter request taken params).params = params := by
  unfold Mount.enter
  split <;> rfl

theorem Placed.left (guarded : Guarded pattern) (placed : Placed pattern arrival request) {inner : Request}
    {path : String} {taken : List Char} {params : List (String × Option Json)}
    (found : request.path = some path) (matched : pattern.mounted path = .yes taken params)
    (arrived : ∃ path, Target.path? arrival.target = some path) :
    Placed pattern arrival (Mount.leaveTo request inner taken) := by
  unfold Mount.leaveTo
  simp only
  split
  · exact ⟨placed.handed, placed.path, placed.rooted⟩
  · have again := placed.handed.again (placed.path.symm.trans found) matched
    have rooted := again.rooted guarded arrived
    constructor
    · exact again
    · simp only [Mount.retarget]
    · simp only [Mount.retarget]
      exact rooted

variable {rest : List Mount} {leave : Next}

/-- A stage is entered by what its pattern matches. Every other request comes to the next
mount, and so does every failure. -/
theorem stage_serves {run : Stage} {mounted : Pattern} {path : String} (rooted : request.path = some path)
    (leaves : ∀ current request, Facts pattern arrival current none request →
      Serves arrival current (leave none request))
    (later : ∀ failure, Facts pattern arrival past failure request →
      Serves arrival past (Mount.dispatch rest leave failure request))
    (enters : ∀ taken params, mounted.mounted path = .yes taken params →
      Facts pattern arrival past none request →
      Serves arrival past (run (Mount.enter request taken params) fun failure inner =>
        Mount.dispatch rest leave failure (Mount.leaveTo request inner taken)))
    (facts : Facts pattern arrival past failure request) :
    Serves arrival past (Mount.dispatch (⟨mounted, .stage run⟩ :: rest) leave failure request) := by
  unfold Mount.dispatch
  cases passed : Failure.passed failure with
  | failed raised =>
    rw [passed_failed passed] at facts
    simp only [rooted]
    exact later _ facts
  | leaves => exact leaves _ _ (facts.cleared fun raised same => by simp [passed] at same)
  | clear =>
    have quiet := facts.cleared fun raised same => by simp [passed] at same
    simp only [rooted]
    cases matched : mounted.mounted path with
    | no => exact later _ quiet
    | undecodable segment => exact later _ (quiet.failing _)
    | yes taken params => exact enters taken params matched quiet

theorem mount_serves (guarded : Guarded pattern) {run : Stage} (keeps : Keeps pattern arrival run)
    (arrived : ∃ path, Target.path? arrival.target = some path)
    (leaves : ∀ current request, Facts pattern arrival current none request →
      Serves arrival current (leave none request))
    (later : ∀ current failure request, Facts pattern arrival current failure request →
      Placed pattern arrival request → Serves arrival current (Mount.dispatch rest leave failure request))
    (facts : Facts pattern arrival past failure request) (placed : Placed pattern arrival request) :
    Serves arrival past (Mount.dispatch (⟨pattern, .stage run⟩ :: rest) leave failure request) := by
  obtain ⟨path, rooted⟩ := placed.rooted
  refine stage_serves rooted leaves (fun _ facts => later _ _ _ facts placed) ?_ facts
  intro taken params matched quiet
  obtain ⟨segment, more, rfl⟩ := guarded.cons
  refine keeps _ _ _ (quiet.entered taken params) ?_ fun current failure inner inside => ?_
  · rw [entered_params]
    exact placed.handed.seen (placed.path.symm.trans rooted) matched
  · exact later _ _ _ (quiet.left inside taken) (placed.left guarded rooted matched arrived)

/-- A mount on another path is passed by. -/
theorem unmatched_serves {run : Stage} {other : Pattern} {path : String} (rooted : request.path = some path)
    (unmatched : other.mounted path = .no)
    (leaves : ∀ current request, Facts pattern arrival current none request →
      Serves arrival current (leave none request))
    (facts : Facts pattern arrival past failure request)
    (later : ∀ failure, Facts pattern arrival past failure request →
      Serves arrival past (Mount.dispatch rest leave failure request)) :
    Serves arrival past (Mount.dispatch (⟨other, .stage run⟩ :: rest) leave failure request) := by
  refine stage_serves rooted leaves later ?_ facts
  intro taken params matched
  rw [unmatched] at matched
  cases matched

/-- A failure that was raised is told and answered for, once. -/
theorem failure_serves {raised : Failure} (counts : Raised raised) {next : Next}
    (facts : Facts pattern arrival past (some raised) request) :
    Serves arrival past (FailureAnswer.run raised false request next) := by
  have only {entry : LogEntry} {met : Failure} (unhandled : Unhandled met)
      (member : met ∈ failures (past ++ [⟨.report entry, ()⟩] ++ [⟨.answer (FailureAnswer.answer raised), ()⟩])) :
      raised = met := by
    have earlier : met ∈ failures past := by
      simpa [failures, databaseFailure?] using member
    exact Option.some.inj ((facts.failed met earlier).resolve_right fun quiet => quiet unhandled.1)
  have told (kind : ∀ message code, raised ≠ .ownership message code)
      (report : FailureAnswer.report raised request =
        Flow.report .error [("error", .failure raised), LogEntry.text "method" request.method,
          LogEntry.text "path" request.wholeTarget] "unhandled request error")
      (answer : FailureAnswer.answer raised = Stage.internalError) :
      Serves arrival past (FailureAnswer.run raised false request next) := by
    rw [answer] at only
    simp only [FailureAnswer.run, Bool.false_eq_true, if_false, report, answer]
    rw [facts.method, facts.wholeTarget]
    refine Safe.report (.unhandled ⟨counts, kind⟩) ⟨.plain trivial, fun _ => .error (by decide) ?_⟩
    intro _ met member unhandled
    obtain rfl := only unhandled member
    exact ⟨rfl, past, [], by rw [List.append_assoc]; rfl⟩
  cases raised with
  | error =>
    refine told (fun message code same => ?_) rfl rfl
    cases same
  | bare =>
    refine told (fun message code same => ?_) rfl rfl
    cases same
  | ownership message code =>
    simp only [FailureAnswer.run, Bool.false_eq_true, if_false, FailureAnswer.report]
    have plain (fields : List (String × LogValue)) : Plain (.report ⟨.warn, fields, message⟩) := by
      rintro ⟨severity, -⟩
      cases severity
    refine Safe.report (.plain (plain _)) ⟨.plain trivial, fun _ => .error (by decide) ?_⟩
    intro _ met member unhandled
    exact absurd (only unhandled member).symm (unhandled.2 message code)

theorem leave_serves (facts : Facts pattern arrival past none request) :
    Serves arrival past (Service.leave none request) :=
  respond_serves facts (fun _ same => nomatch same) fun _ _ success => nomatch success

theorem end_serves (rooted : ∃ path, request.path = some path)
    (facts : Facts pattern arrival past failure request) :
    Serves arrival past (Mount.dispatch [⟨[], .stage fun _ _ => Flow.respond Service.notFound⟩,
      ⟨[], .onFailure Service.onFailure⟩] Service.leave failure request) := by
  obtain ⟨path, rooted⟩ := rooted
  refine stage_serves rooted (fun _ _ => leave_serves) (fun failure facts => ?_)
    (fun _ _ _ quiet => respond_error_serves quiet _ (by decide)) facts
  unfold Mount.dispatch
  cases passed : Failure.passed failure with
  | failed raised =>
    have counts : Raised raised := by rw [Raised, ← passed_failed passed, passed]
    rw [passed_failed passed] at facts
    simp only [rooted]
    exact failure_serves counts (facts.entered [] [])
  | leaves => exact leave_serves (facts.cleared fun raised same => by simp [passed] at same)
  | clear =>
    simp only [rooted]
    exact leave_serves (facts.cleared fun raised same => by simp [passed] at same)

/-- Paths with neither an organization nor the caller's context behind them. -/
def Elsewhere (arrival : Request) : Prop := ¬ UnderOrganizations arrival ∧ ¬ LeadsToGuarded arrival

theorem route_elsewhere {word path : String} (found : Target.path? arrival.target = some path)
    (matched : Pattern.isRoute [.literal word] path = true)
    (apart : ("v1".toList.map Char.toLower == word.toList.map Char.toLower) = false) : Elsewhere arrival := by
  have off (pattern : Pattern) : Pattern.mounted (.literal "v1" :: pattern) path = .no := by
    apply mounted_no
    unfold Pattern.isRoute at matched
    split at matched
    next raw taken left took =>
      obtain ⟨text, rest, _, opened, same, -, -⟩ := take?_literal took
      simp only [Pattern.take?, opened]
      rw [sameLetters_apart same apart]
      rfl
    next => cases matched
  constructor
  · rintro ⟨other, same, under⟩
    cases found.symm.trans same
    exact under (off _)
  · rintro ⟨other, same, organization | context⟩
    · cases found.symm.trans same
      exact organization (off _)
    · cases found.symm.trans same
      exact context (off _)

theorem elsewhere_serves (elsewhere : Elsewhere arrival) {answer : Answer} (untold : Untold answer) :
    Serves arrival past (Flow.respond answer) := by
  refine ⟨.plain trivial, fun _ => ⟨fun under => absurd under elsewhere.1, ?_, ?_⟩⟩
  · intro given fields tenant same content told
    cases same
    rw [untold fields content] at told
    cases told
  · exact fun guarded => absurd guarded elsewhere.2

theorem healthy_untold (ok : Bool) : Untold (Health.healthy ok) := by
  intro fields content
  cases content
  rfl

/-- Whatever the database refuses to a health check, the check itself answers. -/
theorem check_serves (elsewhere : Elsewhere arrival) (lender : Sql.Lender) (request : Request) (next : Next) :
    Serves arrival past (Health.check lender request next) := by
  unfold Health.check
  refine Safe.bind (withSession_met lender past fun current _ =>
    query_met .pool Health.statement [] (.housekeeping (.inr (.inr rfl)))) ?_
  intro current outcome _ _
  cases outcome with
  | ok rows => exact elsewhere_serves elsewhere (healthy_untold true)
  | error failure =>
    exact Safe.report (.plain (plain_report (by decide))) (elsewhere_serves elsewhere (healthy_untold false))

/-- A request that no route answers goes on as it came. -/
theorem routes_pass {routes : List Route} (facts : Facts pattern arrival past none request)
    (answered : ∀ route ∈ routes, (request.path.map route.pattern.isRoute).getD false = true →
      ∀ leave, Serves arrival past (Route.chain route.stages leave none request))
    {asked : Bool} (polite : asked = true → Route.isReading arrival.method = false) {leave : Next}
    (resume : Serves arrival past (leave none request)) :
    Serves arrival past (Route.dispatch routes asked leave none request) := by
  induction routes generalizing asked with
  | nil =>
    simp only [Route.dispatch, Failure.passed]
    split
    next polled => exact allowed_serves facts (polite polled)
    next => exact resume
  | cons route rest ih =>
    have others : ∀ other ∈ rest, (request.path.map other.pattern.isRoute).getD false = true →
        ∀ leave, Serves arrival past (Route.chain other.stages leave none request) :=
      fun other member => answered other (List.mem_cons_of_mem _ member)
    simp only [Route.dispatch, Failure.passed]
    split
    · exact ih others polite
    next unmatched =>
      split
      · exact answered route List.mem_cons_self (by simpa using unmatched) _
      next unread =>
        refine ih others fun _ => ?_
        rw [← facts.method]
        simpa using unread

theorem health_serves (lender : Sql.Lender) (reached : request.path = Target.path? arrival.target)
    {path : String} (rooted : request.path = some path)
    (leaves : ∀ current request, Facts pattern arrival current none request →
      Serves arrival current (leave none request))
    (later : ∀ failure, Facts pattern arrival past failure request →
      Serves arrival past (Mount.dispatch rest leave failure request))
    (facts : Facts pattern arrival past failure request) :
    Serves arrival past
      (Mount.dispatch (⟨[], .stage (Route.router (Health.routes lender))⟩ :: rest) leave failure request) := by
  refine stage_serves rooted leaves later ?_ facts
  intro taken params matched quiet
  obtain ⟨rfl, rfl⟩ : taken = [] ∧ params = [] := by simpa [mounted_everywhere, eq_comm] using matched
  refine routes_pass (quiet.entered [] []) ?_ ?_ (later none quiet)
  · intro route member matched next
    have reads : route.pattern.isRoute path = true := by
      simpa [show (Mount.enter request [] []).path = some path from rooted] using matched
    simp only [Health.routes, List.mem_cons, List.not_mem_nil, or_false] at member
    rcases member with rfl | rfl
    · exact check_serves (route_elsewhere (reached.symm.trans rooted) reads (by decide)) lender request next
    · refine elsewhere_serves (route_elsewhere (reached.symm.trans rooted) reads (by decide)) ?_
      intro fields content
      cases content
      rfl
  · intro asked
    cases asked

theorem guarded_serves (guarded : Guarded pattern) (choice : IdentityChoice) (isolation : Isolation)
    {routes : List Route} (keeps : Keeps pattern arrival (Route.router routes))
    (arrived : ∃ path, Target.path? arrival.target = some path)
    (leaves : ∀ current request, Facts pattern arrival current none request →
      Serves arrival current (leave none request))
    (later : ∀ current failure request, Facts pattern arrival current failure request →
      Placed pattern arrival request → Serves arrival current (Mount.dispatch rest leave failure request))
    (facts : Facts pattern arrival past failure request) (placed : Placed pattern arrival request) :
    Serves arrival past (Mount.dispatch (⟨pattern, .stage choice.stage⟩ :: ⟨pattern, .stage isolation.run⟩ ::
      ⟨pattern, .stage (Route.router routes)⟩ :: rest) leave failure request) := by
  refine mount_serves guarded (identity_keeps pattern arrival choice) arrived leaves ?_ facts placed
  intro past failure request facts placed
  refine mount_serves guarded (isolation_keeps pattern arrival isolation) arrived leaves ?_ facts placed
  intro past failure request facts placed
  exact mount_serves guarded keeps arrived leaves later facts placed

/-- A target that the organizations never matched is still the one that arrived, and nothing
was granted under it. -/
theorem Placed.untouched {path : String} (found : Target.path? arrival.target = some path)
    (unmatched : Service.organizationPattern.mounted path = .no)
    (placed : Placed Service.organizationPattern arrival request) : request.target = arrival.target := by
  have apart {target : String} (handed : HandedOn Service.organizationPattern arrival.target target)
      {other : String} {taken : List Char} {params : List (String × Option Json)}
      (same : Target.path? target = some other)
      (matched : Service.organizationPattern.mounted other = .yes taken params) : False := by
    obtain ⟨first, front, given, equal, entered⟩ := handed.entered same matched
    cases found.symm.trans equal
    rw [unmatched] at entered
    cases entered
  have handed := placed.handed
  generalize request.target = target at handed ⊢
  cases handed with
  | arrived => rfl
  | again earlier same matched => exact (apart earlier same matched).elim

theorem Facts.ungranted {path : String} (found : Target.path? arrival.target = some path)
    (unmatched : Service.organizationPattern.mounted path = .no)
    (facts : Facts Service.organizationPattern arrival past failure request) :
    Facts pattern arrival past failure request := by
  refine ⟨facts.method, facts.query, facts.wholeTarget, facts.identified, fun tenant attached => ?_, facts.failed⟩
  obtain ⟨grant, granted, -⟩ := facts.granted tenant attached
  obtain ⟨params, seen, -⟩ := granted.resolved
  obtain ⟨other, taken, given, same, matched⟩ := seen.entered
  cases found.symm.trans same
  rw [unmatched] at matched
  cases matched

variable (choice : IdentityChoice) (isolation : Isolation)

def contextMounts : List Mount :=
  [⟨Service.contextPattern, .stage choice.stage⟩, ⟨Service.contextPattern, .stage isolation.run⟩,
    ⟨Service.contextPattern, .stage (Route.router CallerContext.routes)⟩,
    ⟨[], .stage fun _ _ => Flow.respond Service.notFound⟩, ⟨[], .onFailure Service.onFailure⟩]

theorem context_serves (arrived : ∃ path, Target.path? arrival.target = some path)
    (facts : Facts Service.organizationPattern arrival past failure request)
    (placed : Placed Service.organizationPattern arrival request) :
    Serves arrival past (Mount.dispatch (contextMounts choice isolation) Service.leave failure request) := by
  have leaves {pattern : Pattern} : ∀ current request, Facts pattern arrival current none request →
      Serves arrival current (Service.leave none request) := fun _ _ => leave_serves
  obtain ⟨path, found⟩ := arrived
  by_cases unmatched : Service.organizationPattern.mounted path = .no
  · have target := placed.untouched found unmatched
    have placed : Placed Service.contextPattern arrival request :=
      ⟨by rw [target]; exact .arrived, placed.path, placed.rooted⟩
    exact guarded_serves context_guarded choice isolation (context_keeps arrival) ⟨path, found⟩ leaves
      (fun _ _ _ facts placed => end_serves placed.rooted facts) (facts.ungranted found unmatched) placed
  · obtain ⟨other, kept, apart⟩ := placed.handed.elsewhere found unmatched
    have rooted : request.path = some other := placed.path.trans kept
    refine unmatched_serves rooted apart leaves facts fun failure facts => ?_
    refine unmatched_serves rooted apart leaves facts fun failure facts => ?_
    refine unmatched_serves rooted apart leaves facts fun failure facts => ?_
    exact end_serves placed.rooted facts

def service (lender : Sql.Lender) (header : String) : Service :=
  ⟨lender, choice.stage, isolation, header⟩

def gatewayService : Service :=
  service (.gateway ⟨standardPublicPaths⟩) ⟨.plain, true, standardPublicPaths⟩ .plain RequestId.standardHeader

theorem arriving (pattern : Pattern) (incoming : Incoming) (raised : Option Failure) :
    Facts pattern incoming.toRequest [] raised incoming.toRequest :=
  ⟨rfl, rfl, rfl, nofun, nofun, nofun⟩

theorem dispatch_serves (lender : Sql.Lender) (header : String) (incoming : Incoming) {past : List Exchanged}
    (facts : Facts Service.organizationPattern incoming.toRequest past failure incoming.toRequest)
    (rooted : ∃ path, Target.path? incoming.target = some path) :
    Serves incoming.toRequest past
      ((service choice isolation lender header).dispatch failure incoming.toRequest) := by
  have leaves : ∀ current request, Facts Service.organizationPattern incoming.toRequest current none request →
      Serves incoming.toRequest current (Service.leave none request) := fun _ _ => leave_serves
  obtain ⟨path, found⟩ := rooted
  have placed : Placed Service.organizationPattern incoming.toRequest incoming.toRequest :=
    ⟨.arrived, rfl, path, found⟩
  refine health_serves lender rfl found leaves (fun failure facts => ?_) facts
  exact guarded_serves organization_guarded choice isolation
    (organizations_keep incoming.toRequest lender) ⟨path, found⟩ leaves
    (fun _ _ _ facts placed => context_serves choice isolation ⟨path, found⟩ facts placed) facts placed

end

/-- What is known of a response: an answer that is known of went out as it, or there is none. -/
def Responded (arrival : Request) (past : List Exchanged) (response : Option Response) : Prop :=
  ∃ answer held, Answered arrival past answer ∧
    response = answer.map fun answer => .ofAnswer answer arrival held

theorem refuse_responds (choice : IdentityChoice) (isolation : Isolation) (lender : Sql.Lender) (header : String)
    (incoming : Incoming) (raised : Failure) (rooted : ∃ path, Target.path? incoming.target = some path) :
    Safe (Allowed incoming.toRequest) (Responded incoming.toRequest) []
      ((service choice isolation lender header).refuse raised incoming.toRequest) := by
  refine Safe.bind (dispatch_serves choice isolation lender header incoming (arriving _ incoming _) rooted) ?_
  intro current answer _ answered
  exact ⟨answer, [], answered, rfl⟩

theorem reportAnswered_plain (request : Request) (id : String) (status : Nat) :
    Asks Plain (Service.reportAnswered request id status) := by
  refine ⟨plain_report ?_, fun _ => trivial⟩
  split <;> decide

theorem serve_responds (choice : IdentityChoice) (isolation : Isolation) (lender : Sql.Lender) (header : String)
    (incoming : Incoming) (rooted : ∃ path, Target.path? incoming.target = some path) (name : String) :
    Safe (Allowed incoming.toRequest) (Responded incoming.toRequest) []
      ((service choice isolation lender header).serve incoming.toRequest name) := by
  have chosen : Asks Plain (RequestId.choose incoming.toRequest name) := by
    unfold RequestId.choose
    split
    · trivial
    · exact ⟨trivial, fun _ => trivial⟩
  unfold Service.serve
  refine Safe.bind (chosen.safe (fun _ _ => Allowed.plain) []) ?_
  rintro _ id - ⟨current, rfl, within⟩
  have facts := (arriving Service.organizationPattern incoming none).later (by
    rw [plain_failures within]
    exact nofun)
  refine Safe.bind (dispatch_serves choice isolation lender header incoming facts rooted) ?_
  intro current answer _ answered
  cases answer with
  | none => exact ⟨none, [], answered, rfl⟩
  | some answer =>
    have logged := reportAnswered_plain incoming.toRequest id
      (Response.ofAnswer answer incoming.toRequest [(name, id)]).status
    exact ⟨.plain logged.1, fun _ => ⟨some answer, [(name, id)], answered.asked _ _ logged.1, rfl⟩⟩

theorem handle_responds (choice : IdentityChoice) (isolation : Isolation) (lender : Sql.Lender) (header : String)
    (incoming : Incoming) :
    Safe (Allowed incoming.toRequest) (Responded incoming.toRequest) []
      ((service choice isolation lender header).handle incoming) := by
  unfold Service.handle
  simp only
  split
  next rootless =>
    refine Safe.bind (leave_serves (arriving Service.organizationPattern incoming none)) ?_
    intro current answer _ answered
    exact ⟨answer, [], answered, rfl⟩
  next rooted =>
    have rooted : ∃ path, Target.path? incoming.target = some path := by
      simpa [Option.isNone_iff_eq_none, Option.ne_none_iff_exists'] using! rooted
    split
    · exact refuse_responds choice isolation lender header incoming _ rooted
    · split
      · exact serve_responds choice isolation lender header incoming rooted _
      · exact refuse_responds choice isolation lender header incoming _ rooted

theorem sent_cases (answer : Answer) (request : Request) (held : List (String × String)) (type text : String) :
    let sent := Response.sent answer request held type text
    sent.status = 304 ∧ 200 ≤ answer.status ∧ answer.status < 300 ∧ sent.content = none ∨
      sent.status = answer.status ∧ sent.content = some answer.content := by
  unfold Response.sent
  simp only
  split
  next fresh =>
    simp only [Bool.and_eq_true, decide_eq_true_eq] at fresh
    exact .inl ⟨rfl, fresh.1.1.2, fresh.1.2, rfl⟩
  next => exact .inr ⟨rfl, rfl⟩

/-- A response has the status and the content of its answer, unless its caller holds the
content already. A caller who only asked about the content gets none. -/
theorem ofAnswer_cases (answer : Answer) (request : Request) (held : List (String × String)) :
    let response := Response.ofAnswer answer request held
    response.status = 304 ∧ 200 ≤ answer.status ∧ answer.status < 300 ∧ response.content = none ∨
      response.status = answer.status ∧
        response.content = if request.method = "HEAD" then none else some answer.content := by
  have written (type text : String) := sent_cases answer request held type text
  have paged (text : String) : (Response.page answer held text).status = answer.status ∧
      (Response.page answer held text).content = some answer.content := ⟨rfl, rfl⟩
  unfold Response.ofAnswer
  simp only
  split <;> split
  all_goals grind

theorem ofAnswer_success {answer : Answer} {request : Request} {held : List (String × String)}
    (success : (Response.ofAnswer answer request held).status = 200) : answer.status = 200 := by
  rcases ofAnswer_cases answer request held with ⟨fresh, -⟩ | ⟨kept, -⟩
  · rw [success] at fresh
    cases fresh
  · exact kept.symm.trans success

theorem ofAnswer_content {answer : Answer} {request : Request} {held : List (String × String)}
    {content : Content} (shown : (Response.ofAnswer answer request held).content = some content) :
    answer.content = content := by
  rcases ofAnswer_cases answer request held with ⟨-, -, -, none⟩ | ⟨-, kept⟩
  · rw [shown] at none
    cases none
  · rw [shown] at kept
    split at kept
    · cases kept
    · exact (Option.some.inj kept).symm

end TenantAccess.Proofs
