import TenantAccess.Proofs.ServiceCourses
import TenantAccess.Proofs.TenantIsolation

/-! The stages of a guarded path decide in a fixed order, and the first that fails decides
alone: what comes after it is neither asked nor attached. -/

namespace TenantAccess.Proofs

structure Requests (behind pattern : Pattern) (request : Request) : Prop where
  organization : pattern = Service.organizationPattern
  reading : Route.isReading request.method = true
  path : (request.path.map behind.isRoute).getD false = true

def membersPath : Pattern := [.literal "memberships"]

/-- What is decided behind a confirmed membership: by the role, which only the list of the
members asks for, by the rows that are read, or by a route that reads none. -/
inductive Behind (lender : Sql.Lender) (pattern : Pattern) (request : Request) (grant : Grant) :
    List Exchanged → Answer → Prop where
  | insufficient (asks : Requests membersPath pattern request) (unmet : grant.role = .member) :
      Behind lender pattern request grant [answering RoleGuard.insufficient] RoleGuard.insufficient
  | row {statement : Organizations.Statement} {read : List Exchanged} {reply : Except Failure (List Fields)}
      {answer : Answer}
      (own : statement = Organizations.organizationStatement grant.tenant ∧ Requests [] pattern request ∨
        (∃ limit, statement = Organizations.membersStatement grant.tenant limit) ∧
          Requests membersPath pattern request ∧ (grant.role = .owner ∨ grant.role = .admin))
      (asked : Asked lender false statement.text statement.parameters read reply)
      (failed : ∀ name message, reply = .error (.error name message) → answer = Stage.internalError)
      (missing : statement = Organizations.organizationStatement grant.tenant → reply = .ok [] →
        answer = Organizations.notFound) :
      Behind lender pattern request grant (read ++ [answering answer]) answer
  | unread {answer : Answer} (other : ¬ Requests [] pattern request ∧ ¬ Requests membersPath pattern request)
      (status : answer.status = 200 ∨ answer.status = 404) :
      Behind lender pattern request grant [answering answer] answer

structure Entered (pattern : Pattern) (arrival request : Request) : Prop where
  entered : ∃ taken params, Meets pattern arrival.target taken params ∧
    request = Mount.enter (Request.at arrival arrival.target none none) taken params

/-- The request as the routes behind a guarded path can see it. -/
structure Delivered (pattern : Pattern) (arrival request : Request) : Prop where
  delivered : ∃ target auth tenant taken params, HandedOn pattern arrival.target target ∧
    Meets pattern target taken params ∧ request = Mount.enter (Request.at arrival target auth tenant) taken params

structure Identified (choice : IdentityChoice) (pattern : Pattern) (arrival : Request) (marks : List Exchanged)
    (auth : AuthState) : Prop where
  attached : ∃ request outcome, Entered pattern arrival request ∧ Verified choice marks outcome ∧
    Attaches choice request outcome auth

/-- The membership of the caller was looked up in the organization that the request resolves to. -/
structure Inquired (lender : Sql.Lender) (pattern : Pattern) (arrival : Request) (identity : Identity)
    (resolved : ResolvedTenant) (looked : List Exchanged) (reply : Except Failure (List Fields)) : Prop where
  resolves : ∃ params, Seen pattern arrival params ∧
    ResolvedTenant.resolve identity params arrival.query = .ok resolved
  asked : Asked lender false Membership.statement [.text identity.subject, .text resolved.organization] looked reply

variable (choice : IdentityChoice) (lender : Sql.Lender) (pattern : Pattern) (arrival : Request)

/-- Where a request on a guarded path was decided, with every step that it took until then. -/
inductive Decided : List Exchanged → Option Answer → Prop where
  | unidentified {request : Request} {marks : List Exchanged} {outcome : Option Outcome} {answer : Answer}
      (entered : Entered pattern arrival request) (verified : Verified choice marks outcome)
      (refuses : Refuses choice request outcome answer)
      (status : answer.status = 401 ∨ answer.status = 400 ∧ ∃ stage, choice = .gateway stage) :
      Decided (marks ++ [answering answer]) (some answer)
  | gone {marks : List Exchanged} {claims : Option Fields}
      (verified : Verified choice marks (some (.ok claims))) : Decided marks none
  | strayed {marks : List Exchanged} {auth : AuthState} {failure : Option Failure}
      (identified : Identified choice pattern arrival marks auth)
      (astray : Astray pattern (onward pattern arrival.target) failure) :
      Decided (marks ++ [⟨.attachAuth auth, ()⟩, answering (closing failure)]) (some (closing failure))
  | anonymous {marks : List Exchanged} {method : AuthMethod}
      (identified : Identified choice pattern arrival marks ⟨method, none⟩) :
      Decided (marks ++ [⟨.attachAuth ⟨method, none⟩, ()⟩, answering Isolation.unauthenticated])
        (some Isolation.unauthenticated)
  | unresolved {marks : List Exchanged} {method : AuthMethod} {identity : Identity}
      {params : List (String × Option Json)} {failure : ResolutionFailure}
      (identified : Identified choice pattern arrival marks ⟨method, some identity⟩)
      (seen : Seen pattern arrival params)
      (unresolved : ResolvedTenant.resolve identity params arrival.query = .error failure)
      (status : failure.status = 400 ∨ failure.status = 403) :
      Decided (marks ++ [⟨.attachAuth ⟨method, some identity⟩, ()⟩,
        answering (.error failure.status failure.message)]) (some (.error failure.status failure.message))
  | unconfirmed {marks looked : List Exchanged} {method : AuthMethod} {identity : Identity}
      {resolved : ResolvedTenant} {failure : Failure} {answer : Answer}
      (identified : Identified choice pattern arrival marks ⟨method, some identity⟩)
      (inquired : Inquired lender pattern arrival identity resolved looked (.error failure))
      (failed : ∀ name message, failure = .error name message → answer = Stage.internalError) :
      Decided (marks ++ ⟨.attachAuth ⟨method, some identity⟩, ()⟩ :: (looked ++ [answering answer])) (some answer)
  | stranger {marks looked : List Exchanged} {method : AuthMethod} {identity : Identity}
      {resolved : ResolvedTenant} {rows : List Fields}
      (identified : Identified choice pattern arrival marks ⟨method, some identity⟩)
      (inquired : Inquired lender pattern arrival identity resolved looked (.ok rows))
      (roleless : roleOf rows = none) :
      Decided (marks ++ ⟨.attachAuth ⟨method, some identity⟩, ()⟩ :: (looked ++ [answering Isolation.notMember]))
        (some Isolation.notMember)
  | mislaid {marks looked : List Exchanged} {method : AuthMethod} {grant : Grant} {rows : List Fields}
      {failure : Option Failure} (identified : Identified choice pattern arrival marks ⟨method, some grant.identity⟩)
      (inquired : Inquired lender pattern arrival grant.identity grant.resolved looked (.ok rows))
      (ranked : roleOf rows = some grant.role)
      (astray : Astray pattern (onward pattern (onward pattern arrival.target)) failure) :
      Decided (marks ++ ⟨.attachAuth ⟨method, some grant.identity⟩, ()⟩ ::
        (looked ++ [⟨.attachTenant grant.tenant, ()⟩, answering (closing failure)])) (some (closing failure))
  | member {marks looked more : List Exchanged} {method : AuthMethod} {grant : Grant} {rows : List Fields}
      {request : Request} {answer : Answer}
      (identified : Identified choice pattern arrival marks ⟨method, some grant.identity⟩)
      (inquired : Inquired lender pattern arrival grant.identity grant.resolved looked (.ok rows))
      (ranked : roleOf rows = some grant.role) (delivered : Delivered pattern arrival request)
      (behind : Behind lender pattern request grant more answer) :
      Decided (marks ++ ⟨.attachAuth ⟨method, some grant.identity⟩, ()⟩ ::
        (looked ++ ⟨.attachTenant grant.tenant, ()⟩ :: more)) (some answer)

/-- What the routes of a guarded path do with a request that has a tenant, and with one that
has none. -/
structure Behaves (router : StageCourse) : Prop where
  tenantless : ∀ request more exit, request.tenant = none → router request more exit →
    ∃ answer, more ++ exit.closing = [answering answer] ∧ exit.result = some answer
  tenanted : ∀ request grant more exit, request.ownSession = false → request.tenant = some grant.tenant →
    router request more exit → ∃ answer, Behind lender pattern request grant (more ++ exit.closing) answer ∧
      exit.result = some answer

variable {choice lender pattern arrival}

theorem Refuses.status {outcome : Option Outcome} {request : Request} {answer : Answer}
    (refuses : Refuses choice request outcome answer) :
    answer.status = 401 ∨ answer.status = 400 ∧ ∃ stage, choice = .gateway stage := by
  cases refuses with
  | @rejected stage request rejection unidentified =>
    cases rejection with
    | missingHeaders => exact .inl rfl
    | malformedUser => exact .inr ⟨rfl, stage, rfl⟩
    | malformedOrganization => exact .inr ⟨rfl, stage, rfl⟩
  | missing => exact .inl rfl
  | unverified => exact .inl rfl
  | unusable => exact .inl rfl

theorem resolution_status (failure : ResolutionFailure) : failure.status = 400 ∨ failure.status = 403 := by
  cases failure with
  | malformedPath => exact .inl rfl
  | malformedQuery => exact .inl rfl
  | notProvided => exact .inr rfl

theorem failure_unsuccessful (failure : Failure) : (FailureAnswer.answer failure).status ≠ 200 := by
  cases failure <;> exact nofun

theorem settled_answer (failure : Failure) (request : Request) (read : List Exchanged) :
    ∃ answer, read ++ (Exit.handed (some failure) request).settled.closing = read ++ [answering answer] ∧
      (Exit.handed (some failure) request).settled.result = some answer ∧ answer.status ≠ 200 ∧
      ∀ name message, failure = .error name message → answer = Stage.internalError := by
  simp only [Exit.settled]
  cases passed : Failure.passed (some failure) with
  | failed raised =>
    obtain rfl := Option.some.inj (passed_failed passed)
    refine ⟨FailureAnswer.answer failure, rfl, rfl, failure_unsuccessful failure, ?_⟩
    rintro name message rfl
    rfl
  | leaves =>
    refine ⟨Service.notFound, rfl, rfl, by decide, ?_⟩
    rintro name message rfl
    cases passed
  | clear =>
    refine ⟨Service.notFound, rfl, rfl, by decide, ?_⟩
    rintro name message rfl
    cases passed

theorem read_behind {statement : Request → TenantContext → Organizations.Statement}
    {answer : TenantContext → List Fields → Except Failure Answer} {request : Request} {grant : Grant}
    {more : List Exchanged} {exit : Exit} (alone : request.ownSession = false)
    (attached : request.tenant = some grant.tenant)
    (own : statement request grant.tenant = Organizations.organizationStatement grant.tenant ∧
        Requests [] pattern request ∨
      (∃ limit, statement request grant.tenant = Organizations.membersStatement grant.tenant limit) ∧
        Requests membersPath pattern request ∧ (grant.role = .owner ∨ grant.role = .admin))
    (missing : statement request grant.tenant = Organizations.organizationStatement grant.tenant →
      answer grant.tenant [] = .ok Organizations.notFound)
    (read : ReadCourse lender statement answer request more exit) :
    ∃ given, Behind lender pattern request grant (more ++ exit.settled.closing) given ∧
      exit.settled.result = some given := by
  cases read with
  | tenantless tenantless =>
    rw [attached] at tenantless
    cases tenantless
  | @failed tenant read reply failure held asked failed =>
    cases attached.symm.trans held
    rw [alone] at asked
    obtain ⟨given, closes, result, -, raised⟩ := settled_answer failure request more
    rw [closes]
    refine ⟨given, .row own asked ?_ ?_, result⟩
    · rintro name message rfl
      exact raised name message (Except.error.inj failed).symm
    · rintro reads rfl
      simp [Except.bind, missing reads] at failed
  | @answered tenant read rows given held asked made =>
    cases attached.symm.trans held
    rw [alone] at asked
    refine ⟨given, ?_, rfl⟩
    simp only [Exit.settled, Exit.closing, List.append_nil]
    refine .row own asked (fun name message impossible => ?_) fun reads empty => ?_
    · cases impossible
    · cases empty
      rw [missing reads] at made
      exact (Except.ok.inj made).symm

theorem organizations_behave (lender : Sql.Lender) :
    Behaves lender Service.organizationPattern
      (RoutesCourse (Organizations.routes lender) (organizationsCourse lender)) where
  tenantless request more exit tenantless routed := by
    cases routed with
    | @served route more exit member matched reading served =>
      unfold organizationsCourse at served
      split at served
      · cases served with
        | tenantless => exact ⟨_, rfl, rfl⟩
        | failed attached => simp [tenantless] at attached
        | answered attached => simp [tenantless] at attached
      · cases served with
        | tenantless => exact ⟨_, rfl, rfl⟩
        | insufficient attached => simp [tenantless] at attached
        | passed attached => simp [tenantless] at attached
    | polled => exact ⟨_, rfl, rfl⟩
    | passed => exact ⟨_, rfl, rfl⟩
  tenanted request grant more exit alone attached routed := by
    cases routed with
    | @served route more exit member matched reading served =>
      simp only [Organizations.routes, List.mem_cons, List.not_mem_nil, or_false] at member
      rcases member with rfl | rfl
      · exact read_behind alone attached (.inl ⟨rfl, rfl, reading, matched⟩) (fun _ => rfl) served
      · have asks : Requests membersPath Service.organizationPattern request := ⟨rfl, reading, matched⟩
        cases served with
        | tenantless tenantless => simp [attached] at tenantless
        | insufficient held unmet =>
          cases attached.symm.trans held
          exact ⟨_, .insufficient asks (administers_not unmet), rfl⟩
        | passed held met inside =>
          cases attached.symm.trans held
          -- The two statements differ, so a missing organization is no matter here.
          refine read_behind alone attached (.inr ⟨⟨_, rfl⟩, asks, administers met⟩) (fun reads => ?_) inside
          have texts := congrArg Organizations.Statement.text reads
          exact absurd ⟨_, _, rfl⟩ (organization_notMembers ⟨grant.tenant, texts⟩)
    | polled _ _ polled =>
      have unread : Route.isReading request.method = false := by
        rw [polled]
        rfl
      have other (behind : Pattern) : ¬ Requests behind Service.organizationPattern request := by
        rintro ⟨-, reading, -⟩
        rw [unread] at reading
        cases reading
      exact ⟨_, .unread ⟨other _, other _⟩ (.inl rfl), rfl⟩
    | passed unserved =>
      have other {behind : Pattern} {stages : List Stage} (member : ⟨behind, stages⟩ ∈ Organizations.routes lender) :
          ¬ Requests behind Service.organizationPattern request := by
        rintro ⟨-, reading, path⟩
        rw [(unserved _ member path).1] at reading
        cases reading
      exact ⟨_, .unread ⟨other List.mem_cons_self, other (List.mem_cons_of_mem _ List.mem_cons_self)⟩ (.inr rfl), rfl⟩

theorem context_behaves (lender : Sql.Lender) :
    Behaves lender Service.contextPattern (RoutesCourse CallerContext.routes contextCourse) where
  tenantless request more exit _ routed := by
    cases routed with
    | served _ _ _ served =>
      cases served
      exact ⟨_, rfl, rfl⟩
    | polled => exact ⟨_, rfl, rfl⟩
    | passed => exact ⟨_, rfl, rfl⟩
  tenanted request grant more exit _ _ routed := by
    have other (behind : Pattern) : ¬ Requests behind Service.contextPattern request := by
      rintro ⟨same, -, -⟩
      exact absurd same (by decide)
    cases routed with
    | served _ _ _ served =>
      cases served
      exact ⟨_, .unread ⟨other _, other _⟩ (.inl rfl), rfl⟩
    | polled => exact ⟨_, .unread ⟨other _, other _⟩ (.inl rfl), rfl⟩
    | passed => exact ⟨_, .unread ⟨other _, other _⟩ (.inr rfl), rfl⟩

section
variable {router : StageCourse} {target : String} {auth : AuthState}

theorem Astray.status {failure : Option Failure} (astray : Astray pattern target failure) :
    (closing failure).status = 404 ∨ (closing failure).status = 500 := by
  cases astray with
  | unmatched => exact .inl rfl
  | garbled => exact .inr rfl

theorem routerLeg_tenantless (behaves : Behaves lender pattern router) {more : List Exchanged}
    {result : Option Answer} (leg : RouterLeg pattern router arrival target auth none more result) :
    ∃ answer, more = [answering answer] ∧ result = some answer := by
  cases leg with
  | astray => exact ⟨_, rfl, rfl⟩
  | routed met routed => exact behaves.tenantless _ _ _ (by simp [Request.at]) routed

theorem routerLeg_behind (behaves : Behaves lender pattern router) (alone : arrival.ownSession = false)
    (handed : HandedOn pattern arrival.target target) {grant : Grant} {more : List Exchanged}
    {result : Option Answer} (leg : RouterLeg pattern router arrival target auth (some grant.tenant) more result) :
    ∃ answer, result = some answer ∧
      ((∃ failure, Astray pattern target failure ∧ answer = closing failure) ∧ more = [answering answer] ∨
        ∃ request, Delivered pattern arrival request ∧ Behind lender pattern request grant more answer) := by
  cases leg with
  | astray astray => exact ⟨_, rfl, .inl ⟨⟨_, astray, rfl⟩, rfl⟩⟩
  | routed met routed =>
    obtain ⟨answer, behind, same⟩ :=
      behaves.tenanted _ grant _ _ (by simpa [Request.at] using alone) (by simp [Request.at]) routed
    exact ⟨answer, same, .inr ⟨_, ⟨_, _, _, _, _, handed, met, rfl⟩, behind⟩⟩

theorem Meets.seen (guarded : Guarded pattern) (handed : HandedOn pattern arrival.target target)
    {taken : List Char} {params : List (String × Option Json)} (met : Meets pattern target taken params) :
    Seen pattern arrival params := by
  obtain ⟨segment, rest, rfl⟩ := guarded.cons
  obtain ⟨path, found, matched⟩ := met.met
  exact handed.seen found matched

def enforcing (lender : Sql.Lender) : Isolation := ⟨lender, true, standardPublicPaths⟩

theorem Guarded.enforced (guarded : Guarded pattern) {taken : List Char} {params : List (String × Option Json)}
    (met : Meets pattern target taken params) {request : Request} (bare : request.baseUrl = "") :
    ¬ Bypasses (enforcing lender) (Mount.enter request taken params) := by
  rintro (off | isPublic)
  · cases off
  · rw [enforcing, guarded.private met bare] at isPublic
    cases isPublic

theorem LooksUp.found (alone : arrival.ownSession = false) (guarded : Guarded pattern)
    (handed : HandedOn pattern arrival.target target) {taken : List Char} {params : List (String × Option Json)}
    (met : Meets pattern target taken params) {identity : Identity} {resolved : ResolvedTenant}
    {looked : List Exchanged} {reply : Except Failure (List Fields)}
    (looksUp : LooksUp (enforcing lender) (Mount.enter (Request.at arrival target (some auth) none) taken params)
      identity resolved looked reply) :
    (∃ method, auth = ⟨method, some identity⟩) ∧
      Inquired lender pattern arrival identity resolved looked reply := by
  obtain ⟨⟨method, identified⟩, resolves, asked⟩ := looksUp
  rw [enter_auth] at identified
  rw [entered_params, enter_query] at resolves
  rw [enter_ownSession] at asked
  have alone : (Request.at arrival target (some auth) none).ownSession = false := alone
  rw [alone] at asked
  exact ⟨⟨method, Option.some.inj identified⟩, ⟨params, met.seen guarded handed, resolves⟩, asked⟩

theorem tenantLeg_decided (guarded : Guarded pattern) (behaves : Behaves lender pattern router)
    (alone : arrival.ownSession = false) (bare : arrival.baseUrl = "")
    (handed : HandedOn pattern arrival.target (onward pattern arrival.target)) {marks more : List Exchanged}
    {result : Option Answer} (identified : Identified choice pattern arrival marks auth)
    (leg : TenantLeg (enforcing lender) pattern router arrival (onward pattern arrival.target) auth more result) :
    Decided choice lender pattern arrival (marks ++ ⟨.attachAuth auth, ()⟩ :: more) result := by
  cases leg with
  | astray astray => exact .strayed identified astray
  | stopped met stopped =>
    cases stopped with
    | unattached unattached => simp [Request.at] at unattached
    | anonymous anonymous =>
      obtain rfl : auth = ⟨_, none⟩ := Option.some.inj ((enter_auth ..).symm.trans anonymous)
      exact .anonymous identified
    | unresolved attached unresolved =>
      obtain rfl : auth = ⟨_, some _⟩ := Option.some.inj ((enter_auth ..).symm.trans attached)
      rw [entered_params, enter_query] at unresolved
      exact .unresolved identified (met.seen guarded handed) unresolved (resolution_status _)
    | stranger looksUp roleless =>
      obtain ⟨⟨method, rfl⟩, inquired⟩ := looksUp.found alone guarded handed met
      exact .stranger identified inquired roleless
  | raised met raised counts =>
    cases raised with
    | unreachable looksUp =>
      obtain ⟨⟨method, rfl⟩, inquired⟩ := looksUp.found alone guarded handed met
      refine .unconfirmed identified inquired ?_
      rintro name message rfl
      rfl
  | left met left leaves =>
    cases left with
    | bypassed => cases leaves
    | member => cases leaves
    | unreachable looksUp =>
      obtain ⟨⟨method, rfl⟩, inquired⟩ := looksUp.found alone guarded handed met
      refine .unconfirmed identified inquired ?_
      rintro name message rfl
      cases leaves
  | passed met admits later =>
    obtain ⟨failure, inner, course, clear, rfl⟩ := admits.admitted
    cases course with
    | bypassed bypasses => exact absurd bypasses (guarded.enforced met bare)
    | unreachable looksUp =>
      obtain ⟨⟨method, rfl⟩, inquired⟩ := looksUp.found alone guarded handed met
      -- The failure was passed over, so the routes find no tenant and answer at once.
      rw [enter_tenant] at later
      obtain ⟨answer, rfl, rfl⟩ := routerLeg_tenantless behaves later
      refine .unconfirmed identified inquired ?_
      rintro name message rfl
      cases clear
    | member grant looksUp ranked =>
      obtain ⟨⟨method, rfl⟩, inquired⟩ := looksUp.found alone guarded handed met
      obtain ⟨answer, rfl, ⟨⟨failure, astray, rfl⟩, rfl⟩ | ⟨request, delivered, behind⟩⟩ :=
        routerLeg_behind behaves alone (met.again handed) later
      · simpa using! Decided.mislaid identified inquired ranked astray
      · simpa using! Decided.member identified inquired ranked delivered behind

theorem journey_decided (guarded : Guarded pattern) (behaves : Behaves lender pattern router)
    (alone : arrival.ownSession = false) (bare : arrival.baseUrl = "") {more : List Exchanged}
    {result : Option Answer} {taken : List Char} {params : List (String × Option Json)}
    (entered : Meets pattern arrival.target taken params)
    (journey : Journey choice (enforcing lender) pattern router arrival more result) :
    Decided choice lender pattern arrival more result := by
  cases journey with
  | garbled astray =>
    obtain ⟨path, found, matched⟩ := entered.met
    cases astray with
    | garbled same garbled =>
      cases found.symm.trans same
      rw [matched] at garbled
      cases garbled
  | refused met verified refuses => exact .unidentified ⟨_, _, met, rfl⟩ verified refuses refuses.status
  | gone met verified => exact .gone verified
  | passed met verified attaches later =>
    exact tenantLeg_decided guarded behaves alone bare (met.again .arrived)
      ⟨_, _, ⟨_, _, met, rfl⟩, verified, attaches⟩ later

end

def isVerification : Exchanged → Bool
  | ⟨.watchClose, _⟩ => true
  | _ => false

def isConsultation : Exchanged → Bool
  | ⟨.consult _ _, _⟩ => true
  | _ => false

def isLookup : Exchanged → Bool
  | ⟨.query _ text (some _), _⟩ => text == Membership.statement
  | _ => false

/-- A request is verified at most once, and its membership is looked up at most once. -/
structure Once (history : List Exchanged) : Prop where
  verified : history.countP isVerification ≤ 1
  consulted : history.countP isConsultation ≤ 1
  lookedUp : history.countP isLookup ≤ 1

/-- What verifies nothing, and looks up memberships so many times at most. -/
structure Frugal (most : Nat) (history : List Exchanged) : Prop where
  verified : history.countP isVerification = 0
  consulted : history.countP isConsultation = 0
  lookedUp : history.countP isLookup ≤ most

theorem Frugal.mono {less most : Nat} {history : List Exchanged} (frugal : Frugal less history)
    (bound : less ≤ most) : Frugal most history :=
  ⟨frugal.verified, frugal.consulted, Nat.le_trans frugal.lookedUp bound⟩

theorem Frugal.append {first second : Nat} {early later : List Exchanged} (one : Frugal first early)
    (other : Frugal second later) : Frugal (first + second) (early ++ later) where
  verified := by rw [List.countP_append, one.verified, other.verified]
  consulted := by rw [List.countP_append, one.consulted, other.consulted]
  lookedUp := by
    rw [List.countP_append]
    exact Nat.add_le_add one.lookedUp other.lookedUp

theorem Frugal.once {history : List Exchanged} (frugal : Frugal 1 history) : Once history :=
  ⟨frugal.verified ▸ Nat.zero_le 1, frugal.consulted ▸ Nat.zero_le 1, frugal.lookedUp⟩

theorem answering_frugal (most : Nat) (answer : Answer) : Frugal most [answering answer] :=
  ⟨rfl, rfl, Nat.zero_le most⟩

/-- Beside its own statement a session asks nothing that counts. -/
theorem asked_frugal {most : Nat} {lender : Sql.Lender} {ownSession : Bool} {text : String}
    {parameters : List Json} {more : List Exchanged} {reply : Except Failure (List Fields)}
    (bound : text = Membership.statement → 1 ≤ most)
    (asked : Asked lender ownSession text parameters more reply) : Frugal most more := by
  have query (session : SessionKind) : Frugal most [⟨.query session text (some parameters), reply⟩] := by
    refine ⟨rfl, rfl, ?_⟩
    by_cases lookup : text = Membership.statement
    · exact Nat.le_trans List.countP_le_length (bound lookup)
    · simp [isLookup, lookup]
  have opening {opening : List Exchanged} {failure : Option Failure} (opens : Opening lender opening failure) :
      Frugal 0 opening := by
    cases opens <;> exact ⟨rfl, rfl, Nat.le_refl 0⟩
  cases asked with
  | own => exact query .request
  | unopened _ refused => exact (opening refused).mono (Nat.zero_le most)
  | opened _ _ ready =>
    have whole := (opening ready).append (query .pool)
    rwa [Nat.zero_add] at whole

def Sparing (router : StageCourse) : Prop := ∀ request more exit, router request more exit → Frugal 0 more

theorem routes_sparing {routes : List Route} {course : Route → StageCourse}
    (sparing : ∀ route, Sparing (course route)) : Sparing (RoutesCourse routes course) := by
  intro request more exit routed
  cases routed with
  | served _ _ _ served => exact sparing _ _ _ _ served
  | polled => exact answering_frugal _ _
  | passed => exact ⟨rfl, rfl, Nat.le_refl 0⟩

theorem read_sparing {lender : Sql.Lender} {statement : Request → TenantContext → Organizations.Statement}
    {answer : TenantContext → List Fields → Except Failure Answer}
    (other : ∀ request tenant, (statement request tenant).text ≠ Membership.statement) :
    Sparing (ReadCourse lender statement answer) := by
  intro request more exit read
  cases read with
  | tenantless => exact answering_frugal _ _
  | failed _ asked => exact asked_frugal (fun same => absurd same (other _ _)) asked
  | answered _ asked =>
    exact (asked_frugal (fun same => absurd same (other _ _)) asked).append (answering_frugal 0 _)

theorem organizations_sparing (lender : Sql.Lender) :
    Sparing (RoutesCourse (Organizations.routes lender) (organizationsCourse lender)) := by
  have lookup := Housekeeping.reads_none (.inl rfl)
  refine routes_sparing fun route request more exit served => ?_
  unfold organizationsCourse at served
  split at served
  · exact read_sparing (fun _ tenant same => lookup.1 ⟨tenant, same.symm⟩) _ _ _ served
  · cases served with
    | tenantless => exact answering_frugal _ _
    | insufficient => exact answering_frugal _ _
    | passed _ _ inside => exact read_sparing (fun _ tenant same => lookup.2 ⟨tenant, _, same.symm⟩) _ _ _ inside

theorem context_sparing : Sparing (RoutesCourse CallerContext.routes contextCourse) := by
  refine routes_sparing fun route request more exit served => ?_
  cases served
  exact answering_frugal _ _

theorem health_sparing (lender : Sql.Lender) :
    Sparing (RoutesCourse (Health.routes lender) (healthCourse lender)) := by
  refine routes_sparing fun route request more exit served => ?_
  unfold healthCourse at served
  split at served
  · cases served with
    | checked asked =>
      have other : Health.statement ≠ Membership.statement := by decide
      exact (asked_frugal (fun same => absurd same other) asked).append (answering_frugal 0 _)
  · cases served
    exact answering_frugal _ _

theorem tenantCourse_frugal {isolation : Isolation} {request : Request} {more : List Exchanged} {exit : Exit}
    (course : TenantCourse isolation request more exit) : Frugal 1 more := by
  have asked {looked : List Exchanged} {reply : Except Failure (List Fields)} {identity : Identity}
      {resolved : ResolvedTenant} (looksUp : LooksUp isolation request identity resolved looked reply) :
      Frugal 1 looked := asked_frugal (fun _ => Nat.le_refl 1) looksUp.asked
  cases course with
  | bypassed => exact ⟨rfl, rfl, Nat.zero_le 1⟩
  | unattached => exact answering_frugal _ _
  | anonymous => exact answering_frugal _ _
  | unresolved => exact answering_frugal _ _
  | unreachable looksUp => exact asked looksUp
  | stranger looksUp => exact (asked looksUp).append (answering_frugal 0 _)
  | member _ looksUp =>
    have attaching (tenant : TenantContext) : Frugal 0 [⟨.attachTenant tenant, ()⟩] := ⟨rfl, rfl, Nat.le_refl 0⟩
    exact (asked looksUp).append (attaching _)

section
variable {choice : IdentityChoice} {isolation : Isolation} {pattern : Pattern} {router : StageCourse}
  {arrival : Request} {more : List Exchanged} {result : Option Answer}

theorem routerLeg_frugal (sparing : Sparing router) {target : String} {auth : AuthState}
    {tenant : Option TenantContext} (leg : RouterLeg pattern router arrival target auth tenant more result) :
    Frugal 0 more := by
  have closing (exit : Exit) : Frugal 0 exit.closing := by
    cases exit <;> exact ⟨rfl, rfl, Nat.le_refl 0⟩
  cases leg with
  | astray => exact answering_frugal _ _
  | routed met routed => exact (sparing _ _ _ routed).append (closing _)

theorem tenantLeg_frugal (sparing : Sparing router) {target : String} {auth : AuthState}
    (leg : TenantLeg isolation pattern router arrival target auth more result) : Frugal 1 more := by
  cases leg with
  | astray => exact answering_frugal _ _
  | stopped met stopped => exact tenantCourse_frugal stopped
  | raised met raised => exact (tenantCourse_frugal raised).append (answering_frugal 0 _)
  | left met left => exact (tenantCourse_frugal left).append (answering_frugal 0 _)
  | passed met admits later =>
    obtain ⟨failure, inner, course, -, -⟩ := admits.admitted
    exact (tenantCourse_frugal course).append (routerLeg_frugal sparing later)

theorem verified_once {marks rest : List Exchanged} {outcome : Option Outcome}
    (verified : Verified choice marks outcome) (frugal : Frugal 1 rest) : Once (marks ++ rest) := by
  constructor
  · rw [List.countP_append, frugal.verified]
    cases verified with
    | unasked => exact Nat.zero_le 1
    | begun => exact Nat.le_refl 1
    | consulted => exact Nat.le_refl 1
  · rw [List.countP_append, frugal.consulted]
    cases verified with
    | unasked => exact Nat.zero_le 1
    | begun => exact Nat.zero_le 1
    | consulted => exact Nat.le_refl 1
  · have bound := frugal.lookedUp
    rw [List.countP_append]
    cases verified <;> simpa [isLookup] using bound

theorem journey_once (sparing : Sparing router)
    (journey : Journey choice isolation pattern router arrival more result) : Once more := by
  cases journey with
  | garbled => exact (answering_frugal 1 _).once
  | refused _ verified => exact verified_once verified (answering_frugal 1 _)
  | gone _ verified =>
    have alone : Once (more ++ []) := verified_once verified ⟨rfl, rfl, Nat.zero_le 1⟩
    rwa [List.append_nil] at alone
  | passed _ verified _ later =>
    have frugal := tenantLeg_frugal sparing later
    exact verified_once verified ⟨frugal.verified, frugal.consulted, frugal.lookedUp⟩

theorem course_once {lender : Sql.Lender} {header : String} {incoming : Incoming} {response : Option Response}
    (course : Course choice isolation lender header incoming more response) : Once more := by
  cases course with
  | pathless => exact (answering_frugal 1 _).once
  | unready => exact (answering_frugal 1 _).once
  | served _ _ _ _ course =>
    cases course with
    | health served => exact ((health_sparing lender _ _ _ served).mono (Nat.zero_le 1)).once
    | organization _ _ _ journey => exact journey_once (organizations_sparing lender) journey
    | context _ _ _ _ journey => exact journey_once context_sparing journey
    | unknown => exact (answering_frugal 1 _).once

end

/-- What is counted of a history is counted of its steps. -/
theorem countP_steps {counts : Exchanged → Bool}
    (within : ∀ asked, counts asked = true → isStep asked.question = true) (history : List Exchanged) :
    history.countP counts = (steps history).countP counts := by
  rw [steps, List.countP_filter]
  apply List.countP_congr
  intro asked _
  by_cases counted : counts asked = true
  · simp [counted, within asked counted]
  · simp [counted]

theorem counted_step {asked : Exchanged}
    (counted : isVerification asked = true ∨ isConsultation asked = true ∨ isLookup asked = true) :
    isStep asked.question = true := by
  obtain ⟨question, reply⟩ := asked
  cases question <;> first | rfl | simp [isVerification, isConsultation, isLookup] at counted

theorem Once.history {history : List Exchanged} (once : Once (steps history)) : Once history where
  verified := by
    rw [countP_steps fun asked counted => counted_step (.inl counted)]
    exact once.verified
  consulted := by
    rw [countP_steps fun asked counted => counted_step (.inr (.inl counted))]
    exact once.consulted
  lookedUp := by
    rw [countP_steps fun asked counted => counted_step (.inr (.inr counted))]
    exact once.lookedUp

structure Reaches (pattern : Pattern) (header : String) (incoming : Incoming) : Prop where
  guarded : pattern = Service.organizationPattern ∨ pattern = Service.contextPattern
  readable : Body.check incoming.toRequest incoming.body = .ok ()
  named : Header.isName (Header.key header) = true
  entered : ∃ taken params, Meets pattern incoming.target taken params

inductive Guards (lender : Sql.Lender) : Pattern → StageCourse → Prop where
  | organization : Guards lender Service.organizationPattern
      (RoutesCourse (Organizations.routes lender) (organizationsCourse lender))
  | context : Guards lender Service.contextPattern (RoutesCourse CallerContext.routes contextCourse)

section
variable {choice : IdentityChoice} {isolation : Isolation} {lender : Sql.Lender} {pattern : Pattern}
  {header : String} {incoming : Incoming} {more : List Exchanged} {result : Option Answer}

theorem Guards.behaves {router : StageCourse} (guards : Guards lender pattern router) :
    Behaves lender pattern router := by
  cases guards with
  | organization => exact organizations_behave lender
  | context => exact context_behaves lender

theorem Guards.guarded {router : StageCourse} (guards : Guards lender pattern router) : Guarded pattern := by
  cases guards with
  | organization => exact organization_guarded
  | context => exact context_guarded

/-- What is found on a guarded path is not one of the health routes. -/
theorem health_elsewhere {arrival : Request} {path : String} (same : arrival.path = Target.path? arrival.target)
    (found : Target.path? arrival.target = some path) {answer : Answer}
    (served : RoutesCourse (Health.routes lender) (healthCourse lender) arrival more (.answered answer)) :
    Elsewhere arrival := by
  have elsewhere {route : Route} (member : route ∈ Health.routes lender) (matched : Route.Matches route arrival) :
      Elsewhere arrival := by
    have known : arrival.path = some path := same.trans found
    simp only [Health.routes, List.mem_cons, List.not_mem_nil, or_false] at member
    rcases member with rfl | rfl
    · exact route_elsewhere found (by simpa [Route.Matches, known] using matched) (by decide)
    · exact route_elsewhere found (by simpa [Route.Matches, known] using matched) (by decide)
  generalize ended : Exit.answered answer = exit at served
  cases served with
  | served member matched => exact elsewhere member matched
  | polled member matched => exact elsewhere member matched
  | passed => cases ended

theorem Reaches.journey (reaches : Reaches pattern header incoming)
    (course : ServiceCourse choice isolation lender incoming.toRequest more result) :
    ∃ router, Guards lender pattern router ∧
      Journey choice isolation pattern router incoming.toRequest more result := by
  obtain ⟨guarded, -, -, taken, params, path, found, matched⟩ := reaches
  have apart (under : Service.organizationPattern.mounted path ≠ .no) :
      Service.contextPattern.mounted path = .no := by
    have handed : HandedOn Service.organizationPattern incoming.target incoming.target := .arrived
    obtain ⟨other, same, apart⟩ := handed.elsewhere found under
    rw [found] at same
    rw [Option.some.inj same]
    exact apart
  have met {other : Pattern} (same : pattern = other) : other.mounted path ≠ .no := by
    rw [← same, matched]
    exact nofun
  cases course with
  | health served =>
    -- The health routes stand in front, but none of them matches a guarded path.
    have known : incoming.toRequest.path = Target.path? incoming.toRequest.target := rfl
    have elsewhere := health_elsewhere known found served
    refine absurd ⟨path, found, ?_⟩ elsewhere.2
    exact guarded.imp met met
  | @organization other _ _ _ same under journey =>
    cases found.symm.trans same
    rcases guarded with rfl | rfl
    · exact ⟨_, .organization, journey⟩
    · exact absurd (apart under) (met rfl)
  | @context other _ _ _ same outside _ journey =>
    cases found.symm.trans same
    rcases guarded with rfl | rfl
    · exact absurd outside (met rfl)
    · exact ⟨_, .context, journey⟩
  | @unknown other _ same outside elsewhere =>
    cases found.symm.trans same
    rcases guarded with rfl | rfl
    · exact absurd outside (met rfl)
    · exact absurd elsewhere (met rfl)

theorem Reaches.decided (reaches : Reaches pattern header incoming) {response : Option Response}
    (course : Course choice (enforcing lender) lender header incoming more response) :
    ∃ answer held, Decided choice lender pattern incoming.toRequest more answer ∧
      response = answer.map fun answer => .ofAnswer answer incoming.toRequest held := by
  obtain ⟨taken, params, met⟩ := reaches.entered
  obtain ⟨path, found, -⟩ := met.met
  cases course with
  | pathless pathless =>
    rw [found] at pathless
    cases pathless
  | unready _ unready =>
    cases unready with
    | unreadable unreadable =>
      rw [reaches.readable] at unreadable
      cases unreadable
    | unnamed _ unnamed =>
      rw [reaches.named] at unnamed
      cases unnamed
  | served held _ _ _ course =>
    obtain ⟨router, guards, journey⟩ := reaches.journey course
    exact ⟨_, held, journey_decided guards.guarded guards.behaves rfl rfl met journey, rfl⟩

end

/-- On a guarded path the first stage that fails decides, and nothing comes after it. Wherever
a request ends, it was verified once at most and looked up once at most. -/
theorem stages_fail_closed (choice : IdentityChoice) (lender : Sql.Lender) (header : String) (incoming : Incoming)
    (world : World σ) (state : σ) :
    (∀ pattern, Reaches pattern header incoming → ∃ answer held,
      Decided choice lender pattern incoming.toRequest
        (steps (((service choice (enforcing lender) lender header).handle incoming).trace world state)) answer ∧
      (((service choice (enforcing lender) lender header).handle incoming).run world state).1 =
        answer.map fun answer => .ofAnswer answer incoming.toRequest held) ∧
    Once (((service choice (enforcing lender) lender header).handle incoming).trace world state) := by
  have course := handle_course choice (enforcing lender) lender header incoming world state
  exact ⟨fun pattern reaches => reaches.decided course, (course_once course).history⟩

end TenantAccess.Proofs
