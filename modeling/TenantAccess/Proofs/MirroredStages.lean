import TenantAccess.Proofs.MirroredVerifiers
import TenantAccess.Proofs.PairedWalks
import TenantAccess.Proofs.ServiceRuns

/-! Two requests whose callers are told apart by private things alone, on their way through everything that is
mounted. Each stage, each route and each mount does with the one what it does with the other. -/

namespace TenantAccess.Proofs

def shownHeaders (headers : List (String × String)) : Fields :=
  headers.map fun (name, value) => (name, shownHeader name value)

def presentedToken (headers : List (String × String)) : Option String :=
  (headers.lookup "authorization").bind Bearer.token?

/-- Neither request presents a token, or one presents the one and the other the other. -/
inductive PresentedAlike (one two : String) : Option String → Option String → Prop where
  | none : PresentedAlike one two none none
  | some : PresentedAlike one two (some one) (some two)

/-- Headers that differ in a token and an address alone. -/
structure HeadersAlike (one two : String) (headers others : List (String × String)) : Prop where
  shown : shownHeaders headers = shownHeaders others
  addressed : ((headers.lookup "x-email").filter (· ≠ "")).isSome = ((others.lookup "x-email").filter (· ≠ "")).isSome
  presented : PresentedAlike one two (presentedToken headers) (presentedToken others)

def coveredNames : List String := ["authorization", "x-email"]

theorem shown_lookup {headers others : List (String × String)} (shown : shownHeaders headers = shownHeaders others)
    {name : String} (bare : name ∉ coveredNames) : headers.lookup name = others.lookup name := by
  induction headers generalizing others with
  | nil =>
    cases others with
    | nil => rfl
    | cons => cases shown
  | cons header rest ih =>
    cases others with
    | nil => cases shown
    | cons other more =>
      obtain ⟨first, value⟩ := header
      obtain ⟨second, held⟩ := other
      simp only [shownHeaders, List.map_cons, List.cons.injEq, Prod.mk.injEq] at shown
      obtain ⟨⟨rfl, same⟩, later⟩ := shown
      rw [List.lookup_cons, List.lookup_cons, ih later]
      split
      next found =>
        cases eq_of_beq found
        simp only [coveredNames, List.mem_cons, List.not_mem_nil, or_false] at bare
        simp only [shownHeader, if_neg bare, Json.text.injEq] at same
        rw [same]
      · rfl

/-- Two requests that are told apart by private things alone. -/
inductive RequestsAlike (one two : String) (request : Request) : Request → Prop where
  | intro {headers : List (String × String)} {auth : Option AuthState}
      (headersAlike : HeadersAlike one two request.headers headers)
      (authsAlike : Option.Rel AuthsAlike request.auth auth) :
      RequestsAlike one two request { request with headers := headers, auth := auth }

variable {one two : String}

section
variable {request other : Request} (alike : RequestsAlike one two request other)
include alike

theorem RequestsAlike.method : other.method = request.method := by cases alike; rfl
theorem RequestsAlike.path : other.path = request.path := by cases alike; rfl
theorem RequestsAlike.fullPath : other.fullPath = request.fullPath := by cases alike; rfl
theorem RequestsAlike.wholeTarget : other.wholeTarget = request.wholeTarget := by cases alike; rfl
theorem RequestsAlike.params : other.params = request.params := by cases alike; rfl
theorem RequestsAlike.query : other.query = request.query := by cases alike; rfl
theorem RequestsAlike.tenant : other.tenant = request.tenant := by cases alike; rfl
theorem RequestsAlike.ownSession : other.ownSession = request.ownSession := by cases alike; rfl

theorem RequestsAlike.auth : Option.Rel AuthsAlike request.auth other.auth := by
  cases alike with
  | intro _ authsAlike => exact authsAlike

theorem RequestsAlike.headers : HeadersAlike one two request.headers other.headers := by
  cases alike with
  | intro headersAlike _ => exact headersAlike

theorem RequestsAlike.attached {auth again : AuthState} (authsAlike : AuthsAlike auth again) :
    RequestsAlike one two { request with auth := some auth } { other with auth := some again } := by
  cases alike with
  | intro headersAlike _ =>
    exact @RequestsAlike.intro _ _ { request with auth := some auth } _ _ headersAlike (.some authsAlike)

theorem RequestsAlike.tenanted (tenant : Option TenantContext) :
    RequestsAlike one two { request with tenant := tenant } { other with tenant := tenant } := by
  cases alike with
  | intro headersAlike authsAlike =>
    exact @RequestsAlike.intro _ _ { request with tenant := tenant } _ _ headersAlike authsAlike

theorem RequestsAlike.entered (taken : List Char) (params : List (String × Option Json)) :
    RequestsAlike one two (Mount.enter request taken params) (Mount.enter other taken params) := by
  cases alike with
  | @intro headers auth headersAlike authsAlike =>
    have same : Mount.enter { request with headers := headers, auth := auth } taken params =
        { Mount.enter request taken params with headers := headers, auth := auth } := by
      unfold Mount.enter
      split <;> rfl
    rw [same]
    refine .intro ?_ ?_
    · rwa [enter_headers]
    · rwa [enter_auth]

theorem RequestsAlike.left {inner again : Request} (within : RequestsAlike one two inner again) (taken : List Char) :
    RequestsAlike one two (Mount.leaveTo request inner taken) (Mount.leaveTo other again taken) := by
  cases alike with
  | @intro headers _ headersAlike _ =>
    cases within with
    | @intro _ auth _ authsAlike =>
      have same : ∀ outer kept, Mount.leaveTo { request with headers := headers, auth := outer }
          { inner with headers := kept, auth := auth } taken =
            { Mount.leaveTo request inner taken with headers := headers, auth := auth } := by
        intro outer kept
        unfold Mount.leaveTo
        split <;> rfl
      rw [same]
      refine .intro ?_ ?_
      · rwa [leaveTo_headers]
      · exact authsAlike

end

abbrev ResultsAlike : Option Answer → Option Answer → Prop := Option.Rel AnswersAlike

/-- Whoever comes next does alike with requests that are alike. -/
abbrev NextsAlike (one two : String) (next again : Next) : Prop :=
  ∀ failure request other, RequestsAlike one two request other →
    Mirrors one two ResultsAlike (next failure request) (again failure other)

/-- A stage does alike with requests that are alike, when whoever comes next does. -/
def Reflects (one two : String) (run : Stage) : Prop :=
  ∀ request other next again, RequestsAlike one two request other → NextsAlike one two next again →
    Mirrors one two ResultsAlike (run request next) (run other again)

theorem answered_mirrors {answer other : Answer} (alike : AnswersAlike answer other) :
    Mirrors one two ResultsAlike (Flow.respond answer) (Flow.respond other) :=
  .ask ⟨(), (), .answered alike⟩ fun _ _ _ => .done (.some alike)

theorem respond_mirrors (answer : Answer) : Mirrors one two ResultsAlike (Flow.respond answer) (Flow.respond answer) :=
  answered_mirrors (.same answer)

section
variable {alike : α → β → Prop} {next : Request → Flow α} {again : Request → Flow β} {request other : Request}

theorem attach_mirrors {auth kept : AuthState} (authsAlike : AuthsAlike auth kept)
    (requestsAlike : RequestsAlike one two request other)
    (rest : ∀ request other, RequestsAlike one two request other → Mirrors one two alike (next request) (again other)) :
    Mirrors one two alike (Stage.attachAuth request auth >>= next) (Stage.attachAuth other kept >>= again) :=
  .ask ⟨(), (), .attached authsAlike⟩ fun _ _ _ => rest _ _ (requestsAlike.attached authsAlike)

end

section
variable {request other : Request} {next again : Next} (requestsAlike : RequestsAlike one two request other)
  (nextsAlike : NextsAlike one two next again)
include requestsAlike nextsAlike

theorem proceed_mirrors : Mirrors one two ResultsAlike (Stage.proceed next request) (Stage.proceed again other) :=
  .plain trivial fun _ => nextsAlike none _ _ requestsAlike

theorem raise_mirrors (failure : Failure) :
    Mirrors one two ResultsAlike (Stage.raise next failure request) (Stage.raise again failure other) :=
  .plain trivial fun _ => nextsAlike (some failure) _ _ requestsAlike

theorem admitPublic_mirrors :
    Mirrors one two ResultsAlike (Stage.admitPublic request next) (Stage.admitPublic other again) :=
  attach_mirrors ⟨rfl, .none⟩ requestsAlike fun _ _ alike => proceed_mirrors alike nextsAlike

end

inductive MappedAlike : Except ClaimsRejection MappedClaims → Except ClaimsRejection MappedClaims → Prop where
  | rejected (rejection : ClaimsRejection) : MappedAlike (.error rejection) (.error rejection)
  | mapped {identity other : Identity} (alike : IdentitiesAlike identity other) (ignored : Bool) :
      MappedAlike (.ok ⟨identity, ignored⟩) (.ok ⟨other, ignored⟩)

theorem unaddressed_rejected {claims : Fields} (unaddressed : ¬ Addressed claims) {name : Json} {subject : String}
    (named : Identity.claim? claims "sub" = some name) (read : Uuid.ofJson? name = some subject) :
    Identity.ofClaims claims = .error .missingEmail := by
  simp only [Identity.ofClaims, named, read]
  split
  next email given => exact absurd ⟨email, given⟩ unaddressed
  · rfl

theorem claims_mapped {claims others : Fields} (alike : ClaimsAlike claims others) :
    MappedAlike (Identity.ofClaims claims) (Identity.ofClaims others) := by
  have same (name : String) (common : name ∈ commonClaims) :
      Identity.claim? claims name = Identity.claim? others name := by
    unfold Identity.claim?
    rw [alike.common name common]
  have organization : Identity.firstClaim? claims ["org_id", "organization_id"] =
      Identity.firstClaim? others ["org_id", "organization_id"] := by
    simp only [Identity.firstClaim?, List.findSome?_cons, List.findSome?_nil,
      same "org_id" (by decide), same "organization_id" (by decide)]
  cases named : Identity.claim? others "sub" with
  | none =>
    simp only [Identity.ofClaims, same "sub" (by decide), named]
    exact .rejected _
  | some name =>
    cases read : Uuid.ofJson? name with
    | none =>
      simp only [Identity.ofClaims, same "sub" (by decide), named, read]
      exact .rejected _
    | some subject =>
      by_cases addressed : Addressed claims
      · obtain ⟨email, given⟩ := addressed
        obtain ⟨other, told⟩ := alike.addressed.mp ⟨email, given⟩
        simp only [Identity.ofClaims, same "sub" (by decide), named, read, given, told, organization]
        refine .mapped ?_ _
        exact ⟨rfl, rfl⟩
      · rw [unaddressed_rejected addressed ((same "sub" (by decide)).trans named) read,
          unaddressed_rejected (mt alike.addressed.mpr addressed) named read]
        exact .rejected _

inductive ReadAlike : Except ClaimsRejection Identity → Except ClaimsRejection Identity → Prop where
  | rejected (rejection : ClaimsRejection) : ReadAlike (.error rejection) (.error rejection)
  | read {identity other : Identity} (alike : IdentitiesAlike identity other) : ReadAlike (.ok identity) (.ok other)

theorem readClaims_mirrors {claims others : Fields} (alike : ClaimsAlike claims others) :
    Mirrors one two ReadAlike (Identity.readClaims claims) (Identity.readClaims others) := by
  have mapped := claims_mapped alike
  unfold Identity.readClaims
  generalize Identity.ofClaims claims = outcome at mapped
  generalize Identity.ofClaims others = other at mapped
  cases mapped with
  | rejected rejection => exact .done (.rejected rejection)
  | mapped alike ignored =>
    cases ignored with
    | false => exact .done (.read alike)
    | true =>
      simp only [alike.subject]
      exact .request trivial fun _ => .done (.read alike)

section
variable {request other : Request} {next again : Next} (requestsAlike : RequestsAlike one two request other)
  (nextsAlike : NextsAlike one two next again)
include requestsAlike nextsAlike

theorem judgeClaims_mirrors {found mirror : Option Fields} (alike : FoundAlike found mirror) :
    Mirrors one two ResultsAlike (TokenIdentity.judgeClaims request found next)
      (TokenIdentity.judgeClaims other mirror again) := by
  cases alike with
  | none => exact respond_mirrors _
  | some alike =>
    refine (readClaims_mirrors alike).bind fun outcome answer same => ?_
    cases same with
    | rejected rejection => exact .request trivial fun _ => respond_mirrors _
    | read alike =>
      refine attach_mirrors ⟨rfl, .some alike⟩ requestsAlike fun request other attached => ?_
      simp only [alike.subject, alike.organization]
      exact .request trivial fun _ => proceed_mirrors attached nextsAlike

theorem conclude_stage_mirrors (stage : TokenIdentity) (signal : Signal) {outcome answer : Outcome}
    (alike : OutcomesAlike outcome answer) :
    Mirrors one two ResultsAlike (stage.conclude request signal outcome next)
      (stage.conclude other signal answer again) := by
  cases alike with
  | failed failure => exact .request trivial fun _ => respond_mirrors _
  | found alike =>
    dsimp only [TokenIdentity.conclude]
    split
    · exact .request trivial fun _ => .done .none
    · exact judgeClaims_mirrors requestsAlike nextsAlike alike

end

theorem watch_mirrors : Mirrors one two (· = ·) TokenIdentity.watch TokenIdentity.watch := by
  refine Mirrors.itself ⟨trivial, fun _ => ⟨trivial, fun closing => ?_⟩⟩
  match closing with
  | some false => exact ⟨trivial, fun _ => trivial⟩
  | some true | none => trivial

theorem token_reflects (alike : TokensAlike one two) {stage : TokenIdentity}
    (impartial : HoldsImpartial one two stage.verifier) : Reflects one two stage.run := by
  intro request other next again requestsAlike nextsAlike
  unfold TokenIdentity.run
  split
  · exact attach_mirrors ⟨rfl, .none⟩ requestsAlike fun _ _ attached => proceed_mirrors attached nextsAlike
  · rw [requestsAlike.fullPath]
    split
    · exact admitPublic_mirrors requestsAlike nextsAlike
    · have presented : PresentedAlike one two ((request.header? "authorization").bind Bearer.token?)
        ((other.header? "authorization").bind Bearer.token?) := requestsAlike.headers.presented
      generalize (request.header? "authorization").bind Bearer.token? = token at presented
      generalize (other.header? "authorization").bind Bearer.token? = mirror at presented
      cases presented with
      | none => exact respond_mirrors _
      | some =>
        refine watch_mirrors.bind ?_
        rintro signal _ rfl
        refine (verifier_mirrors alike impartial signal).bind fun outcome answer same => ?_
        refine (conclude_stage_mirrors requestsAlike nextsAlike stage signal same).bind fun result kept ended => ?_
        exact .request trivial fun _ => .done ended

inductive ForwardedAlike :
    Except GatewayIdentity.Rejection Identity → Except GatewayIdentity.Rejection Identity → Prop where
  | rejected (rejection : GatewayIdentity.Rejection) : ForwardedAlike (.error rejection) (.error rejection)
  | identified {identity other : Identity} (alike : IdentitiesAlike identity other) :
      ForwardedAlike (.ok identity) (.ok other)

theorem forwarded_alike (user selected : Option String) {email other : Option String}
    (addressed : email.isSome = other.isSome) :
    ForwardedAlike (GatewayIdentity.ofHeaders user email selected) (GatewayIdentity.ofHeaders user other selected) := by
  cases user with
  | none => exact .rejected _
  | some user =>
    match email, other with
    | none, none => exact .rejected _
    | some email, some other =>
      simp only [GatewayIdentity.ofHeaders]
      split
      · exact .rejected _
      · split
        · exact .rejected _
        · refine .identified ?_
          exact ⟨rfl, rfl⟩

theorem HeadersAlike.forwarded {request other : Request} (alike : HeadersAlike one two request.headers other.headers) :
    ForwardedAlike (GatewayIdentity.identityOf request) (GatewayIdentity.identityOf other) := by
  have same (name : String) (bare : name ∉ coveredNames) :
      other.nonemptyHeader? name = request.nonemptyHeader? name := by
    unfold Request.nonemptyHeader? Request.header?
    rw [shown_lookup alike.shown bare]
  unfold GatewayIdentity.identityOf
  rw [same "x-user-id" (by decide), same "x-selected-org" (by decide)]
  exact forwarded_alike _ _ alike.addressed

theorem gateway_reflects (stage : GatewayIdentity) : Reflects one two stage.run := by
  intro request other next again requestsAlike nextsAlike
  have forwarded := requestsAlike.headers.forwarded
  unfold GatewayIdentity.run
  rw [requestsAlike.fullPath]
  split
  · exact admitPublic_mirrors requestsAlike nextsAlike
  · generalize GatewayIdentity.identityOf request = outcome at forwarded
    generalize GatewayIdentity.identityOf other = mirror at forwarded
    cases forwarded with
    | rejected rejection => exact respond_mirrors _
    | identified alike =>
      refine attach_mirrors ⟨rfl, .some alike⟩ requestsAlike fun request other attached => ?_
      simp only [alike.subject, alike.organization]
      exact .request trivial fun _ => proceed_mirrors attached nextsAlike

def ChoiceImpartial (one two : String) : IdentityChoice → Prop
  | .token stage => HoldsImpartial one two stage.verifier
  | .gateway _ => True

theorem identity_reflects (alike : TokensAlike one two) {choice : IdentityChoice}
    (impartial : ChoiceImpartial one two choice) : Reflects one two choice.stage := by
  cases choice with
  | token stage => exact token_reflects alike impartial
  | gateway stage => exact gateway_reflects stage

/-- Nothing that a lender asks is private. -/
theorem Lending.plainly (question : Ask) (lending : Lending question) : Plainly question := by
  cases question <;> first | exact lending.elim | trivial

theorem isolation_reflects (isolation : Isolation) : Reflects one two isolation.run := by
  intro request other next again requestsAlike nextsAlike
  have auths := requestsAlike.auth
  unfold Isolation.run
  rw [requestsAlike.fullPath, requestsAlike.method]
  split
  · exact proceed_mirrors requestsAlike nextsAlike
  generalize request.auth = auth at auths
  generalize other.auth = kept at auths
  cases auths with
  | none => exact .request trivial fun _ => respond_mirrors _
  | @some auth kept alike =>
    obtain ⟨method, identity⟩ := auth
    obtain ⟨_, mirror⟩ := kept
    obtain ⟨-, identities⟩ := alike
    dsimp only at identities ⊢
    cases identities with
    | none => exact .request trivial fun _ => respond_mirrors _
    | @some identity mirror alike =>
      have resolved : ResolvedTenant.resolve mirror other.params other.query =
          ResolvedTenant.resolve identity request.params request.query := by
        unfold ResolvedTenant.resolve
        rw [alike.organization, requestsAlike.params, requestsAlike.query]
      simp only [Isolation.resolve, resolved, alike.subject]
      split
      · exact .request trivial fun _ => respond_mirrors _
      next resolved _ =>
        have validated : Asks Plainly (Membership.validate isolation.lender request.ownSession mirror.subject
            resolved.organization) :=
          inSession_asks Lending.plainly _ _ fun session =>
            lookup_asks session _ _ (fun _ _ => trivial) fun _ => trivial
        unfold Isolation.confirm
        rw [requestsAlike.ownSession]
        refine (Mirrors.itself validated).bind ?_
        rintro outcome _ rfl
        match outcome with
        | .error failure => exact raise_mirrors requestsAlike nextsAlike failure
        | .ok none => exact .request trivial fun _ => respond_mirrors _
        | .ok (some role) =>
          exact .request trivial fun _ => .request trivial fun _ =>
            proceed_mirrors (requestsAlike.tenanted _) nextsAlike

theorem read_reflects (lender : Sql.Lender) {statement : Request → TenantContext → Organizations.Statement}
    (same : ∀ request other tenant, RequestsAlike one two request other →
      statement other tenant = statement request tenant)
    (answer : TenantContext → List Fields → Except Failure Answer) :
    Reflects one two (Organizations.read lender statement answer) := by
  intro request other next again requestsAlike nextsAlike
  unfold Organizations.read
  rw [requestsAlike.tenant, requestsAlike.ownSession]
  split
  · exact respond_mirrors _
  next tenant _ =>
    rw [same request other tenant requestsAlike]
    refine (Mirrors.itself (inSession_asks Lending.plainly _ _ ?_)).bind ?_
    · exact fun _ => ⟨trivial, fun _ => trivial⟩
    rintro outcome _ rfl
    split
    · exact raise_mirrors requestsAlike nextsAlike _
    · exact respond_mirrors _

theorem guard_reflects (required : String) : Reflects one two (RoleGuard.run required) := by
  intro request other next again requestsAlike nextsAlike
  unfold RoleGuard.run
  rw [requestsAlike.tenant, requestsAlike.fullPath, requestsAlike.method]
  split
  · exact .request trivial fun _ => respond_mirrors _
  · split
    · exact proceed_mirrors requestsAlike nextsAlike
    · exact .request trivial fun _ => respond_mirrors _

theorem check_reflects (lender : Sql.Lender) : Reflects one two (Health.check lender) := by
  intro request other next again requestsAlike nextsAlike
  refine (Mirrors.itself (withSession_asks Lending.plainly lender ?_)).bind ?_
  · exact ⟨trivial, fun _ => trivial⟩
  rintro outcome _ rfl
  cases outcome with
  | ok rows => exact respond_mirrors _
  | error failure => exact .request trivial fun _ => respond_mirrors _

theorem respond_reflects (answer : Answer) : Reflects one two fun _ _ => Flow.respond answer :=
  fun _ _ _ _ _ _ => respond_mirrors answer

theorem tell_reflects : Reflects one two CallerContext.tell :=
  fun request other _ _ _ _ => answered_mirrors (.told request other)

theorem failure_reflects (failure : Failure) : Reflects one two (Service.onFailure failure) := by
  intro request other next again requestsAlike nextsAlike
  unfold Service.onFailure FailureAnswer.run FailureAnswer.report
  rw [requestsAlike.tenant, requestsAlike.method, requestsAlike.wholeTarget]
  cases failure <;> exact .request trivial fun _ => respond_mirrors _

theorem requests_lasting : LastingBoth (RequestsAlike one two) where
  method alike := alike.method
  path alike := alike.path
  entered alike := alike.entered
  left alike := alike.left

theorem router_reflects {routes : List Route}
    (reflect : ∀ route ∈ routes, ∀ stage ∈ route.stages, Reflects one two stage) :
    Reflects one two (Route.router routes) :=
  router_both requests_lasting respond_mirrors reflect

def MountReflects (one two : String) : Mounted → Prop
  | .stage run => Reflects one two run
  | .onFailure run => ∀ failure, Reflects one two (run failure)

theorem MountReflects.passes {mounted : Mounted} (reflects : MountReflects one two mounted) :
    MountPassesBoth (Mirrors one two ResultsAlike) (RequestsAlike one two) mounted := by
  cases mounted <;> exact reflects

theorem mounts_mirror {mounts : List Mount} {leave mirror : Next}
    (reflect : ∀ mount ∈ mounts, MountReflects one two mount.handler) (leaves : NextsAlike one two leave mirror) :
    NextsAlike one two (Mount.dispatch mounts leave) (Mount.dispatch mounts mirror) :=
  mounts_both requests_lasting (fun mount member => (reflect mount member).passes) leaves

theorem leave_mirrors : NextsAlike one two Service.leave Service.leave := by
  intro failure request other alike
  unfold Service.leave NotFoundPage.answer
  rw [alike.method, alike.wholeTarget]
  exact respond_mirrors _

/-- The whole service does alike with requests that are alike. -/
theorem dispatch_mirrors (alike : TokensAlike one two) {choice : IdentityChoice}
    (impartial : ChoiceImpartial one two choice) (isolation : Isolation) (lender : Sql.Lender) (header : String) :
    NextsAlike one two (service choice isolation lender header).dispatch
      (service choice isolation lender header).dispatch := by
  have guarded (pattern : Pattern) (routes : List Route)
      (reflect : ∀ route ∈ routes, ∀ stage ∈ route.stages, Reflects one two stage) :
      ∀ mount ∈ (service choice isolation lender header).guarded pattern routes,
        MountReflects one two mount.handler := by
    simp only [Service.guarded, List.forall_mem_cons, List.not_mem_nil, false_implies, implies_true, and_true]
    exact ⟨identity_reflects alike impartial, isolation_reflects isolation, router_reflects reflect⟩
  refine mounts_mirror ?_ leave_mirrors
  simp only [Service.mounts, List.cons_append, List.append_assoc, List.forall_mem_cons, List.forall_mem_append,
    List.not_mem_nil, false_implies, implies_true, and_true]
  refine ⟨router_reflects ?_, guarded _ _ ?_, guarded _ _ ?_, respond_reflects Service.notFound, failure_reflects⟩
  · simp only [Health.routes, List.forall_mem_cons, List.not_mem_nil, false_implies, implies_true, and_true]
    exact ⟨check_reflects lender, respond_reflects _⟩
  · have asked : ∀ request other tenant, RequestsAlike one two request other →
        Organizations.membersStatement tenant (Organizations.limitOf (other.query.get? "limit")) =
          Organizations.membersStatement tenant (Organizations.limitOf (request.query.get? "limit")) := by
      intro request other tenant alike
      rw [alike.query]
    simp only [Organizations.routes, List.forall_mem_cons, List.not_mem_nil, false_implies, implies_true, and_true]
    exact ⟨read_reflects lender (fun _ _ _ _ => rfl) _, guard_reflects _, read_reflects lender asked _⟩
  · simp only [CallerContext.routes, List.forall_mem_cons, List.not_mem_nil, false_implies, implies_true, and_true]
    exact tell_reflects

end TenantAccess.Proofs
