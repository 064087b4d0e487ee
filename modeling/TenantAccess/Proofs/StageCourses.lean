import TenantAccess.Proofs.FlowCourses
import TenantAccess.Proofs.TenantRoutes

/-! Everything that a single stage can do with a request, and what each route behind the
stages can come to. Each stage is looked at once here; all else is said of its courses. -/

namespace TenantAccess.Proofs

variable {post : List Exchanged → Option Answer → Prop} {done : List Exchanged} {next : Next}

abbrev Outcome := Except Failure (Option Fields)

/-- The steps of a verification and what it came to. It begins at most once, and one verifier
at most is consulted. -/
inductive Verified : IdentityChoice → List Exchanged → Option Outcome → Prop where
  | unasked (choice : IdentityChoice) : Verified choice [] none
  | begun (stage : TokenIdentity) (outcome : Outcome) :
      Verified (.token stage) [⟨.watchClose, ()⟩] (some outcome)
  | consulted (stage : TokenIdentity) (token : String) (signal : Signal) (outcome : Outcome) :
      Verified (.token stage) [⟨.watchClose, ()⟩, ⟨.consult token signal, outcome⟩] (some outcome)

/-- Whom an identity stage turns away, and with which answer. -/
inductive Refuses : IdentityChoice → Request → Option Outcome → Answer → Prop where
  | rejected {stage : GatewayIdentity} {request : Request} {rejection : GatewayIdentity.Rejection}
      (unidentified : GatewayIdentity.identityOf request = .error rejection) :
      Refuses (.gateway stage) request none rejection.answer
  | missing {stage : TokenIdentity} {request : Request}
      (tokenless : (request.header? "authorization").bind Bearer.token? = none) :
      Refuses (.token stage) request none TokenIdentity.missingToken
  | unverified {stage : TokenIdentity} {request : Request} {outcome : Outcome}
      (unverified : ∀ claims, outcome ≠ .ok (some claims)) :
      Refuses (.token stage) request (some outcome) TokenIdentity.refusedToken
  | unusable {stage : TokenIdentity} {request : Request} {claims : Fields} {rejection : ClaimsRejection}
      (unusable : Identity.ofClaims claims = .error rejection) :
      Refuses (.token stage) request (some (.ok (some claims))) TokenIdentity.refusedClaims

def IdentityChoice.publicPaths : IdentityChoice → List String
  | .token stage => stage.publicPaths
  | .gateway stage => stage.publicPaths

/-- What an identity stage attaches to those it lets pass. -/
inductive Attaches : IdentityChoice → Request → Option Outcome → AuthState → Prop where
  | disabled {stage : TokenIdentity} {request : Request} (providerless : stage.provider = .none) :
      Attaches (.token stage) request none ⟨.disabled, none⟩
  | publicPath {choice : IdentityChoice} {request : Request}
      (isPublic : isPublicPath request.fullPath choice.publicPaths = true) :
      Attaches choice request none ⟨.publicPath, none⟩
  | forwarded {stage : GatewayIdentity} {request : Request} {identity : Identity}
      (identified : GatewayIdentity.identityOf request = .ok identity) :
      Attaches (.gateway stage) request none ⟨.headers, some identity⟩
  | bearer {stage : TokenIdentity} {request : Request} {claims : Fields} {mapped : MappedClaims}
      (usable : Identity.ofClaims claims = .ok mapped) :
      Attaches (.token stage) request (some (.ok (some claims))) ⟨.bearer, some mapped.identity⟩

inductive IdentityCourse (choice : IdentityChoice) (request : Request) : List Exchanged → Exit → Prop where
  | refused {marks : List Exchanged} {outcome : Option Outcome} {answer : Answer}
      (verified : Verified choice marks outcome) (refuses : Refuses choice request outcome answer) :
      IdentityCourse choice request (marks ++ [answering answer]) (.answered answer)
  | gone {marks : List Exchanged} {claims : Option Fields} (verified : Verified choice marks (some (.ok claims))) :
      IdentityCourse choice request marks .gone
  | attached {marks : List Exchanged} {outcome : Option Outcome} {auth : AuthState}
      (verified : Verified choice marks outcome) (attaches : Attaches choice request outcome auth) :
      IdentityCourse choice request (marks ++ [⟨.attachAuth auth, ()⟩])
        (.handed none { request with auth := some auth })

theorem gateway_takes (stage : GatewayIdentity) : Takes stage.run (IdentityCourse (.gateway stage)) := by
  intro post done request next all
  unfold GatewayIdentity.run
  split
  next isPublic => exact fun _ _ => all _ _ (.attached (.unasked _) (.publicPath isPublic))
  · split
    next rejection unidentified => exact Comes.respond (all _ _ (.refused (.unasked _) (.rejected unidentified)))
    next identity identified => exact fun _ _ _ => all _ _ (.attached (.unasked _) (.forwarded identified))

theorem verify_comes (stage : TokenIdentity) (token : String) (signal : Signal) (done : List Exchanged) :
    Comes (fun later outcome => ∃ marks, later = done ++ marks ∧ Verified (.token stage) marks (some outcome))
      (done ++ [⟨.watchClose, ()⟩]) (stage.verifier.verify token signal) := by
  have unseen (own : ∀ method, stage.verifier ≠ .consulted method) :
      Comes (fun later outcome => ∃ marks, later = done ++ marks ∧ Verified (.token stage) marks (some outcome))
        (done ++ [⟨.watchClose, ()⟩]) (stage.verifier.verify token signal) := by
    refine (Comes.quiet (verifier_inward own token signal) Inward.silent _).weaken ?_
    rintro later outcome rfl
    exact ⟨_, rfl, .begun stage outcome⟩
  cases kind : stage.verifier with
  | consulted method =>
    intro outcome
    exact ⟨[⟨.watchClose, ()⟩, ⟨.consult token signal, outcome⟩], by simp [taken, isStep],
      .consulted stage token signal outcome⟩
  | _ => exact kind ▸ unseen fun method same => by rw [kind] at same; cases same

theorem readClaims_comes (claims : Fields) (done : List Exchanged) :
    Comes (fun later outcome => later = done ∧ outcome = (Identity.ofClaims claims).map (·.identity)) done
      (Identity.readClaims claims) := by
  unfold Identity.readClaims
  split
  next rejection unusable => exact ⟨rfl, by rw [unusable]; rfl⟩
  next mapped usable =>
    have read : (Identity.ofClaims claims).map (·.identity) = .ok mapped.identity := by rw [usable]; rfl
    split
    · exact fun _ => ⟨rfl, read.symm⟩
    · exact ⟨rfl, read.symm⟩

theorem judgeClaims_comes (stage : TokenIdentity) (request : Request) {claims : Option Fields}
    {marks : List Exchanged} (verified : Verified (.token stage) marks (some (.ok claims)))
    (all : ∀ more exit, IdentityCourse (.token stage) request more exit → exit.Leads post (done ++ more) next) :
    Comes post (done ++ marks) (TokenIdentity.judgeClaims request claims next) := by
  have refused {answer : Answer} (refuses : Refuses (.token stage) request (some (.ok claims)) answer) :
      Comes post (done ++ marks) (Flow.respond answer) := by
    refine Comes.respond ?_
    rw [List.append_assoc]
    exact all _ _ (.refused verified refuses)
  unfold TokenIdentity.judgeClaims
  split
  · exact refused (.unverified nofun)
  next claims =>
    refine Comes.bind (readClaims_comes claims _) ?_
    rintro _ outcome ⟨rfl, rfl⟩
    cases read : Identity.ofClaims claims with
    | error rejection => exact Comes.report (refused (.unusable read))
    | ok mapped =>
      intro _ _ _
      have leads := all _ _ (.attached verified (.bearer read))
      rw [← List.append_assoc] at leads
      exact leads

theorem conclude_comes (stage : TokenIdentity) (request : Request) (signal : Signal) {outcome : Outcome}
    {marks : List Exchanged} (verified : Verified (.token stage) marks (some outcome))
    (all : ∀ more exit, IdentityCourse (.token stage) request more exit → exit.Leads post (done ++ more) next) :
    Comes post (done ++ marks) (stage.conclude request signal outcome next) := by
  unfold TokenIdentity.conclude
  split
  · refine Comes.report (Comes.respond ?_)
    rw [List.append_assoc]
    exact all _ _ (.refused verified (.unverified nofun))
  · split
    · exact Comes.report (all _ _ (.gone verified))
    · exact judgeClaims_comes stage request verified all

theorem token_takes (stage : TokenIdentity) : Takes stage.run (IdentityCourse (.token stage)) := by
  intro post done request next all
  have watched : Comes (fun later _ => later = done ++ [⟨.watchClose, ()⟩]) done TokenIdentity.watch := by
    intro _ closed
    dsimp only [Flow.bind, bind, Flow.request]
    split
    · exact fun _ => rfl
    · rfl
  unfold TokenIdentity.run
  split
  next providerless => exact fun _ _ => all _ _ (.attached (.unasked _) (.disabled providerless))
  · split
    next isPublic => exact fun _ _ => all _ _ (.attached (.unasked _) (.publicPath isPublic))
    · split
      next tokenless => exact Comes.respond (all _ _ (.refused (.unasked _) (.missing tokenless)))
      next token _ =>
        refine Comes.bind watched ?_
        rintro _ signal rfl
        refine Comes.bind (verify_comes stage token signal done) ?_
        rintro _ outcome ⟨marks, rfl, verified⟩
        refine Comes.bind (conclude_comes stage request signal verified all) ?_
        exact fun _ _ held _ => held

theorem identity_takes (choice : IdentityChoice) : Takes choice.stage (IdentityCourse choice) := by
  cases choice with
  | token stage => exact token_takes stage
  | gateway stage => exact gateway_takes stage

def roleOf (rows : List Fields) : Option Role :=
  (rows.head?.bind fun row => row.get? "role").bind Role.ofJson?

theorem ofRows_comes (user organization : String) (rows : List Fields) (done : List Exchanged) :
    Comes (fun later found => later = done ∧ found = roleOf rows) done
      (Membership.ofRows user organization rows) := by
  cases rows with
  | nil => exact ⟨rfl, rfl⟩
  | cons row rest =>
    simp only [Membership.ofRows]
    split
    next role found => exact ⟨rfl, found.symm⟩
    next unknown => exact fun _ => ⟨rfl, unknown.symm⟩

theorem lookup_comes (session : SessionKind) (user organization : String) (done : List Exchanged) :
    Comes (fun later outcome => ∃ reply, later = done ++ [⟨.query session Membership.statement
      (some [.text user, .text organization]), reply⟩] ∧ outcome = reply.map roleOf) done
      (Membership.lookup session user organization) := by
  intro reply
  cases reply with
  | error failure => exact ⟨.error failure, rfl, rfl⟩
  | ok rows =>
    refine (ofRows_comes user organization rows (taken done _ _)).bind ?_
    rintro _ found ⟨rfl, rfl⟩
    exact ⟨.ok rows, rfl, rfl⟩

/-- What the tenant stage looks up: the membership of the caller in the organization that
the request resolves to. -/
structure LooksUp (isolation : Isolation) (request : Request) (identity : Identity) (resolved : ResolvedTenant)
    (looked : List Exchanged) (reply : Except Failure (List Fields)) : Prop where
  identified : ∃ method, request.auth = some ⟨method, some identity⟩
  resolves : ResolvedTenant.resolve identity request.params request.query = .ok resolved
  asked : Asked isolation.lender request.ownSession Membership.statement
    [.text identity.subject, .text resolved.organization] looked reply

def Bypasses (isolation : Isolation) (request : Request) : Prop :=
  isolation.enforce = false ∨ isPublicPath request.fullPath isolation.publicPaths = true

inductive TenantCourse (isolation : Isolation) (request : Request) : List Exchanged → Exit → Prop where
  | bypassed (bypasses : Bypasses isolation request) : TenantCourse isolation request [] (.handed none request)
  | unattached (unattached : request.auth = none) :
      TenantCourse isolation request [answering Stage.internalError] (.answered Stage.internalError)
  | anonymous {method : AuthMethod} (anonymous : request.auth = some ⟨method, none⟩) :
      TenantCourse isolation request [answering Isolation.unauthenticated] (.answered Isolation.unauthenticated)
  | unresolved {method : AuthMethod} {identity : Identity} {failure : ResolutionFailure}
      (identified : request.auth = some ⟨method, some identity⟩)
      (unresolved : ResolvedTenant.resolve identity request.params request.query = .error failure) :
      TenantCourse isolation request [answering (.error failure.status failure.message)]
        (.answered (.error failure.status failure.message))
  | unreachable {identity : Identity} {resolved : ResolvedTenant} {looked : List Exchanged} {failure : Failure}
      (looksUp : LooksUp isolation request identity resolved looked (.error failure)) :
      TenantCourse isolation request looked (.handed (some failure) request)
  | stranger {identity : Identity} {resolved : ResolvedTenant} {looked : List Exchanged} {rows : List Fields}
      (looksUp : LooksUp isolation request identity resolved looked (.ok rows)) (roleless : roleOf rows = none) :
      TenantCourse isolation request (looked ++ [answering Isolation.notMember]) (.answered Isolation.notMember)
  | member (grant : Grant) {looked : List Exchanged} {rows : List Fields}
      (looksUp : LooksUp isolation request grant.identity grant.resolved looked (.ok rows))
      (ranked : roleOf rows = some grant.role) :
      TenantCourse isolation request (looked ++ [⟨.attachTenant grant.tenant, ()⟩])
        (.handed none { request with tenant := some grant.tenant })

theorem isolation_takes (isolation : Isolation) : Takes isolation.run (TenantCourse isolation) := by
  intro post done request next all
  unfold Isolation.run
  split
  next bypasses =>
    have bypasses : Bypasses isolation request := by simpa [Bypasses] using bypasses
    intro _
    simpa using! all _ _ (.bypassed bypasses)
  · split
    next unattached => exact Comes.report (Comes.respond (all _ _ (.unattached unattached)))
    next anonymous => exact Comes.report (Comes.respond (all _ _ (.anonymous anonymous)))
    next method identity identified =>
      unfold Isolation.resolve
      split
      next failure unresolved => exact Comes.report (Comes.respond (all _ _ (.unresolved identified unresolved)))
      next resolved resolves =>
        refine Comes.bind (inSession_comes isolation.lender request.ownSession roleOf done fun session current =>
          lookup_comes session identity.subject resolved.organization current) ?_
        rintro _ outcome ⟨looked, reply, rfl, asked, rfl⟩
        have looksUp : LooksUp isolation request identity resolved looked reply :=
          ⟨⟨method, identified⟩, resolves, asked⟩
        cases reply with
        | error failure => exact fun _ => all _ _ (.unreachable looksUp)
        | ok rows =>
          simp only [Except.map]
          split
          next unreached => cases unreached
          next roleless =>
            refine Comes.report (Comes.respond ?_)
            rw [List.append_assoc]
            exact all _ _ (.stranger looksUp (Except.ok.inj roleless))
          next role ranked =>
            intro _ _ _
            have leads := all _ _ (.member ⟨identity, resolved, role⟩ looksUp (Except.ok.inj ranked))
            rw [← List.append_assoc] at leads
            exact leads

inductive ReadCourse (lender : Sql.Lender) (statement : Request → TenantContext → Organizations.Statement)
    (answer : TenantContext → List Fields → Except Failure Answer) (request : Request) :
    List Exchanged → Exit → Prop where
  | tenantless (tenantless : request.tenant = none) : ReadCourse lender statement answer request
      [answering Stage.internalError] (.answered Stage.internalError)
  | failed {tenant : TenantContext} {read : List Exchanged} {reply : Except Failure (List Fields)}
      {failure : Failure} (attached : request.tenant = some tenant)
      (asked : Asked lender request.ownSession (statement request tenant).text
        (statement request tenant).parameters read reply)
      (failed : reply.bind (answer tenant) = .error failure) :
      ReadCourse lender statement answer request read (.handed (some failure) request)
  | answered {tenant : TenantContext} {read : List Exchanged} {rows : List Fields} {given : Answer}
      (attached : request.tenant = some tenant)
      (asked : Asked lender request.ownSession (statement request tenant).text
        (statement request tenant).parameters read (.ok rows))
      (made : answer tenant rows = .ok given) :
      ReadCourse lender statement answer request (read ++ [answering given]) (.answered given)

theorem read_takes (lender : Sql.Lender) (statement : Request → TenantContext → Organizations.Statement)
    (answer : TenantContext → List Fields → Except Failure Answer) :
    Takes (Organizations.read lender statement answer) (ReadCourse lender statement answer) := by
  intro post done request next all
  unfold Organizations.read
  split
  next tenantless => exact Comes.respond (all _ _ (.tenantless tenantless))
  next tenant attached =>
    refine Comes.bind (inSession_comes lender request.ownSession id done fun session current =>
      query_comes session _ _ current) ?_
    rintro _ outcome ⟨read, reply, rfl, asked, rfl⟩
    have same : reply.map id = reply := by cases reply <;> rfl
    rw [same]
    split
    next failure failed => exact fun _ => all _ _ (.failed attached asked failed)
    next given made =>
      cases reply with
      | error failure => cases made
      | ok rows =>
        refine Comes.respond ?_
        rw [List.append_assoc]
        exact all _ _ (.answered attached asked made)

inductive GuardCourse (required : String) (inner : StageCourse) (request : Request) :
    List Exchanged → Exit → Prop where
  | tenantless (tenantless : request.tenant = none) : GuardCourse required inner request
      [answering Stage.internalError] (.answered Stage.internalError)
  | insufficient {tenant : TenantContext} (attached : request.tenant = some tenant)
      (unmet : Role.nameMeets tenant.role required = false) : GuardCourse required inner request
      [answering RoleGuard.insufficient] (.answered RoleGuard.insufficient)
  | passed {tenant : TenantContext} {more : List Exchanged} {exit : Exit}
      (attached : request.tenant = some tenant) (met : Role.nameMeets tenant.role required = true)
      (inside : inner request more exit) : GuardCourse required inner request more exit

theorem guard_takes (required : String) {run : Stage} {inner : StageCourse} (takes : Takes run inner) :
    Takes (fun request next => Route.chain [RoleGuard.run required, run] next none request)
      (GuardCourse required inner) := by
  intro post done request next all
  change Comes post done (RoleGuard.run required request (Route.chain [run] next))
  unfold RoleGuard.run
  split
  next tenantless => exact Comes.report (Comes.respond (all _ _ (.tenantless tenantless)))
  next tenant attached =>
    split
    next met =>
      intro _
      exact takes post done request next fun more exit inside => all _ _ (.passed attached met inside)
    next unmet => exact Comes.report (Comes.respond (all _ _ (.insufficient attached (by simpa using unmet))))

/-- What a router makes of a failure that one of its routes hands on. -/
def Exit.settled : Exit → Exit
  | .handed failure request => match Failure.passed failure with
    | .failed raised => .handed (some raised) request
    | .clear | .leaves => .handed none request
  | exit => exit

def Route.Matches (route : Route) (request : Request) : Prop :=
  (request.path.map route.pattern.isRoute).getD false = true

/-- A reading request goes through the route of its path. One that asks for the methods of a
route is told them, and all others pass. -/
inductive RoutesCourse (routes : List Route) (course : Route → StageCourse) (request : Request) :
    List Exchanged → Exit → Prop where
  | served {route : Route} {more : List Exchanged} {exit : Exit} (member : route ∈ routes)
      (matched : Route.Matches route request) (reading : Route.isReading request.method = true)
      (served : course route request more exit) : RoutesCourse routes course request more exit.settled
  | polled {route : Route} (member : route ∈ routes) (matched : Route.Matches route request)
      (polled : request.method = "OPTIONS") :
      RoutesCourse routes course request [answering Route.allowed] (.answered Route.allowed)
  | passed (unserved : ∀ route ∈ routes, Route.Matches route request →
      Route.isReading request.method = false ∧ request.method ≠ "OPTIONS") :
      RoutesCourse routes course request [] (.handed none request)

theorem dispatch_unmatched {routes : List Route} {request : Request}
    (unmatched : ∀ route ∈ routes, ¬ Route.Matches route request) (asked : Bool) (leave : Next)
    (failure : Option Failure) : Route.dispatch routes asked leave failure request =
      match Failure.passed failure with
      | .failed raised => leave (some raised) request
      | .leaves => leave none request
      | .clear => if asked then Flow.respond Route.allowed else leave none request := by
  induction routes generalizing failure with
  | nil => rfl
  | cons route rest ih =>
    have missed : (request.path.map route.pattern.isRoute).getD false = false := by
      simpa [Route.Matches] using unmatched route List.mem_cons_self
    have later := ih fun other member => unmatched other (List.mem_cons_of_mem _ member)
    rw [dispatch_passed]
    cases Failure.passed failure with
    | failed raised => rfl
    | leaves => rfl
    | clear =>
      simp only [Route.dispatch, Failure.passed, missed, Bool.not_false, if_true]
      rw [later]
      rfl

/-- Routes of which no path has two, and whose stages take courses of their own, make a
router that takes the course of the one route. -/
theorem router_takes {routes : List Route} {course : Route → StageCourse}
    (exclusive : routes.Pairwise fun first second => ∀ request, Route.Matches first request →
      ¬ Route.Matches second request)
    (takes : ∀ route ∈ routes,
      Takes (fun request next => Route.chain route.stages next none request) (course route))
    (unchanged : ∀ route request more failure inner, course route request more (.handed failure inner) →
      inner = request) :
    Takes (Route.router routes) (RoutesCourse routes course) := by
  intro post done request next all
  unfold Route.router
  induction routes with
  | nil =>
    have passes := all _ _ (.passed fun route member => absurd member List.not_mem_nil)
    simpa [Route.dispatch, Failure.passed] using! passes
  | cons route rest ih =>
    obtain ⟨apart, exclusive⟩ := List.pairwise_cons.mp exclusive
    by_cases matched : Route.Matches route request
    · have alone : ∀ other ∈ rest, ¬ Route.Matches other request :=
        fun other member => apart other member request matched
      have found : (request.path.map route.pattern.isRoute).getD false = true := matched
      simp only [Route.dispatch, Failure.passed, found, Bool.not_true, Bool.false_eq_true, if_false,
        Bool.false_or]
      split
      next reading =>
        refine takes route List.mem_cons_self post done request _ fun more exit served => ?_
        have settled := all _ _ (.served List.mem_cons_self matched reading served)
        -- The routes behind it do not match, so they make of a failure what any router does.
        cases exit with
        | answered answer => exact settled
        | gone => exact settled
        | handed failure inner =>
          obtain rfl := unchanged _ _ _ _ _ served
          have left := dispatch_unmatched alone false next failure
          simp only [Exit.Leads, left]
          simp only [Exit.settled] at settled
          cases passed : Failure.passed failure with
          | failed raised => simpa [passed] using! settled
          | leaves => simpa [passed] using! settled
          | clear => simpa [passed] using! settled
      next unread =>
        rw [dispatch_unmatched alone]
        simp only [Failure.passed]
        split
        next polled =>
          exact Comes.respond (all _ _ (.polled List.mem_cons_self matched (by simpa using polled)))
        next unpolled =>
          have passes := all _ _ (.passed fun other _ _ => ⟨by simpa using unread, by simpa using unpolled⟩)
          simpa using! passes
    · have missed : (request.path.map route.pattern.isRoute).getD false = false := by
        simpa [Route.Matches] using matched
      simp only [Route.dispatch, Failure.passed, missed, Bool.not_false, if_true]
      refine ih exclusive (fun other member => takes other (List.mem_cons_of_mem _ member)) fun more exit inside => ?_
      cases inside with
      | served member matched reading served =>
        exact all _ _ (.served (List.mem_cons_of_mem _ member) matched reading served)
      | polled member matched polled =>
        exact all _ _ (.polled (List.mem_cons_of_mem _ member) matched polled)
      | passed unserved =>
        refine all _ _ (.passed fun other member found => ?_)
        rcases List.mem_cons.mp member with rfl | later
        · exact absurd found matched
        · exact unserved other later found

end TenantAccess.Proofs
