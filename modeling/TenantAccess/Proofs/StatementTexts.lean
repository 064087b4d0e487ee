import TenantAccess.Proofs.ClosedStages
import TenantAccess.Proofs.MemberLimits

/-! The texts of the statements that reach the database. Which texts they are follows from
the route and from one number; everything else that a caller sends is bound to places. -/

namespace TenantAccess.Proofs

def selectOrganization : String :=
  "SELECT \"id\", \"name\"\n      FROM \"organization\"\n      WHERE \"id\" = $1\n      LIMIT 1"

def selectMembers : String :=
  "SELECT \"user_id\", \"role\"\n      FROM \"membership\"\n      WHERE \"organization_id\" = $1\n      " ++
    "ORDER BY \"user_id\" ASC\n      LIMIT "

def texts (history : List Exchanged) : List String :=
  history.filterMap fun
    | ⟨.query _ text _, _⟩ => some text
    | _ => none

/-- The four ways in which a request can need the database. -/
inductive Endpoint where
  | health
  | organization
  | members
  | other
  deriving DecidableEq, Repr

def borrowing (timeout : Number) (text : String) : List String := [Sql.timeoutStatement timeout, text]

def reads (timeout : Number) (limit : Int) : Endpoint → List String
  | .organization => borrowing timeout selectOrganization
  | .members => borrowing timeout (selectMembers ++ toString limit)
  | .health | .other => []

def script (timeout : Number) (limit : Int) : Endpoint → List String
  | .health => borrowing timeout Health.statement
  | endpoint => borrowing timeout Membership.statement ++ reads timeout limit endpoint

def pathBehind (pattern : Pattern) (target : String) : Option String :=
  match (Target.path? target).map pattern.mounted with
  | some (.yes taken _) => Target.path? (String.ofList (Target.without target.toList taken))
  | _ => none

/-- The endpoint of a method and of the path that is left behind the mounts of an organization. -/
def Endpoint.ofPath (method : String) (path : Option String) : Endpoint :=
  if !Route.isReading method then .other
  else if (path.map (Pattern.isRoute [])).getD false then .organization
  else if (path.map (Pattern.isRoute [.literal "memberships"])).getD false then .members
  else .other

/-- The endpoint of a method and a target. The routes of an organization stand behind two other
mounts on the same pattern. -/
def endpoint (method target : String) : Endpoint :=
  if Route.isReading method && ((Target.path? target).map (Pattern.isRoute [.literal "health"])).getD false then
    .health
  else
    let again := onward Service.organizationPattern (onward Service.organizationPattern target)
    Endpoint.ofPath method (pathBehind Service.organizationPattern again)

@[simp] theorem texts_append (first second : List Exchanged) :
    texts (first ++ second) = texts first ++ texts second := List.filterMap_append

/-- The condition of a tenant's rows holds the column and the place of a value, but no value. -/
theorem ownRows_clause (tenant : TenantContext) (column : String) :
    (Organizations.ownRows tenant column).clause = "WHERE " ++ (Sql.quoteName column ++ " = $1") := by
  have predicates : (Organizations.ownRows tenant column).predicates =
      [Sql.quoteName column ++ " = $" ++ toString 1] := rfl
  have place : " = $" ++ toString 1 = " = $1" := by decide
  simp only [Sql.Conditions.clause, predicates, List.isEmpty_cons, Bool.false_eq_true, if_false,
    String.intercalate_singleton, String.append_assoc, place]

theorem organization_text (tenant : TenantContext) :
    (Organizations.organizationStatement tenant).text = selectOrganization := by
  have parts : (Organizations.organizationStatement tenant).text =
      "SELECT \"id\", \"name\"\n      FROM \"organization\"\n      " ++
        (Organizations.ownRows tenant "id").clause ++ "\n      LIMIT 1" := rfl
  have quoted : Sql.quoteName "id" = "\"id\"" := by decide
  rw [parts, ownRows_clause, quoted, selectOrganization]
  simp only [String.reduceAppend]

theorem members_text (tenant : TenantContext) (limit : Int) :
    (Organizations.membersStatement tenant limit).text = selectMembers ++ toString limit := by
  have parts : (Organizations.membersStatement tenant limit).text =
      "SELECT \"user_id\", \"role\"\n      FROM \"membership\"\n      " ++
        (Organizations.ownRows tenant Sql.Conditions.tenantColumn).clause ++
        "\n      ORDER BY \"user_id\" ASC\n      LIMIT " ++ toString limit := rfl
  have quoted : Sql.quoteName Sql.Conditions.tenantColumn = "\"organization_id\"" := by decide
  have fixed : "SELECT \"user_id\", \"role\"\n      FROM \"membership\"\n      " ++
      ("WHERE " ++ ("\"organization_id\"" ++ " = $1")) ++ "\n      ORDER BY \"user_id\" ASC\n      LIMIT " =
        selectMembers := by decide +kernel
  rw [parts, ownRows_clause, quoted, fixed]

/-- What goes to the database is among the steps. -/
theorem texts_steps (history : List Exchanged) : texts (steps history) = texts history := by
  unfold texts steps
  rw [List.filterMap_filter]
  refine List.filterMap_congr fun asked _ => ?_
  obtain ⟨question, reply⟩ := asked
  cases question <;> rfl

@[simp] theorem texts_answering (answer : Answer) : texts [answering answer] = [] := rfl

@[simp] theorem texts_closing (exit : Exit) : texts exit.closing = [] := by cases exit <;> rfl

section
variable {timeout : Number} {text : String} {parameters : List Json} {more : List Exchanged}
  {reply : Except Failure (List Fields)}

/-- A pool prepares its session before the statement, and a refusal ends what is asked. -/
theorem asked_texts (asked : Asked (.pooled timeout) false text parameters more reply) :
    texts more <+: borrowing timeout text ∧ ∀ rows, reply = .ok rows → texts more = borrowing timeout text := by
  cases asked with
  | own _ own => cases own
  | unopened _ refused =>
    refine ⟨?_, nofun⟩
    cases refused with
    | unlent => exact List.nil_prefix
    | unlimited => exact ⟨[text], rfl⟩
  | opened _ _ ready =>
    cases ready
    exact ⟨List.prefix_refl _, fun _ _ => rfl⟩

theorem read_texts {statement : Request → TenantContext → Organizations.Statement}
    {answer : TenantContext → List Fields → Except Failure Answer} {request : Request} {exit : Exit}
    (borrows : request.ownSession = false) (fixed : ∀ tenant, (statement request tenant).text = text)
    (read : ReadCourse (.pooled timeout) statement answer request more exit) :
    texts more <+: borrowing timeout text := by
  cases read with
  | tenantless => exact List.nil_prefix
  | failed _ asked =>
    rw [borrows, fixed] at asked
    exact (asked_texts asked).1
  | answered _ asked =>
    rw [borrows, fixed] at asked
    simpa using (asked_texts asked).1

end

section
variable {timeout : Number} {enforce : Bool} {publicPaths : List String} {request : Request}
  {looked : List Exchanged}

/-- The tenant stage asks for the membership, if anything. -/
theorem tenantCourse_texts {exit : Exit} (borrows : request.ownSession = false)
    (course : TenantCourse ⟨.pooled timeout, enforce, publicPaths⟩ request looked exit) :
    texts looked <+: borrowing timeout Membership.statement := by
  have lookup {identity : Identity} {resolved : ResolvedTenant} {looked : List Exchanged}
      {reply : Except Failure (List Fields)}
      (looksUp : LooksUp ⟨.pooled timeout, enforce, publicPaths⟩ request identity resolved looked reply) :
      texts looked <+: borrowing timeout Membership.statement := by
    have asked := looksUp.asked
    rw [borrows] at asked
    exact (asked_texts asked).1
  cases course with
  | bypassed => exact List.nil_prefix
  | unattached => exact List.nil_prefix
  | anonymous => exact List.nil_prefix
  | unresolved => exact List.nil_prefix
  | unreachable looksUp => exact lookup looksUp
  | stranger looksUp => simpa using lookup looksUp
  | member _ looksUp => simpa [texts] using! lookup looksUp

theorem Admits.texts {tenant : Option TenantContext} (borrows : request.ownSession = false)
    (untenanted : request.tenant = none)
    (admits : Admits ⟨.pooled timeout, enforce, publicPaths⟩ request looked tenant) :
    texts looked <+: borrowing timeout Membership.statement ∧
      (tenant = none ∨ texts looked = borrowing timeout Membership.statement) := by
  obtain ⟨failure, inner, course, -, rfl⟩ := admits.admitted
  refine ⟨tenantCourse_texts borrows course, ?_⟩
  cases course with
  | bypassed => exact .inl untenanted
  | unreachable => exact .inl untenanted
  | member _ looksUp =>
    have asked := looksUp.asked
    rw [borrows] at asked
    right
    rw [texts_append, (asked_texts asked).2 _ rfl]
    rfl

end

section
variable {choice : IdentityChoice} {timeout : Number} {enforce : Bool} {publicPaths : List String}
  {arrival : Request} {pattern : Pattern} {router : StageCourse} {more : List Exchanged}
  {result : Option Answer} {limit : Int}

/-- The endpoint of a request is the one of the route that serves it. -/
theorem ofPath_served {lender : Sql.Lender} {request : Request} {route : Route}
    (member : route ∈ Organizations.routes lender) (matched : Route.Matches route request)
    (reading : Route.isReading request.method = true) :
    route = ⟨[], [Organizations.readOrganization lender]⟩ ∧
        Endpoint.ofPath request.method request.path = .organization ∨
      route = ⟨[.literal "memberships"], [RoleGuard.run Role.admin.toText, Organizations.readMembers lender]⟩ ∧
        Endpoint.ofPath request.method request.path = .members := by
  simp only [Organizations.routes, List.mem_cons, List.not_mem_nil, or_false] at member
  rcases member with rfl | rfl
  · have found : (request.path.map (Pattern.isRoute [])).getD false = true := matched
    exact .inl ⟨rfl, by simp [Endpoint.ofPath, reading, found]⟩
  -- The endpoint asks for the bare path first, which the path of the members never is.
  · have other : (request.path.map (Pattern.isRoute [])).getD false = false := by
      have apart : ¬ Route.Matches ⟨[], []⟩ request := fun bare => bare_apart (by decide) bare matched
      simpa [Route.Matches] using apart
    have found : (request.path.map (Pattern.isRoute [.literal "memberships"])).getD false = true := matched
    exact .inr ⟨rfl, by simp [Endpoint.ofPath, reading, other, found]⟩

theorem organizations_texts {request : Request} {exit : Exit} (borrows : request.ownSession = false)
    (routed : RoutesCourse (Organizations.routes (.pooled timeout)) (organizationsCourse (.pooled timeout))
      request more exit) :
    texts more <+: reads timeout (Organizations.limitOf (request.query.get? "limit"))
      (Endpoint.ofPath request.method request.path) := by
  cases routed with
  | @served route more exit member matched reading served =>
    rcases ofPath_served member matched reading with ⟨rfl, here⟩ | ⟨rfl, here⟩
    · rw [here]
      exact read_texts borrows organization_text served
    · rw [here]
      cases served with
      | tenantless => exact List.nil_prefix
      | insufficient => exact List.nil_prefix
      | passed _ _ read => exact read_texts borrows (fun tenant => members_text tenant _) read
  | polled => exact List.nil_prefix
  | passed => exact List.nil_prefix

theorem context_texts {request : Request} {exit : Exit}
    (routed : RoutesCourse CallerContext.routes contextCourse request more exit) : texts more = [] := by
  cases routed with
  | served _ _ _ served =>
    cases served
    rfl
  | polled => rfl
  | passed => rfl

/-- The path that the routes see is the one behind the last mount. -/
theorem entered_path (guarded : Guarded pattern) {target : String} {taken : List Char}
    {params : List (String × Option Json)} (met : Meets pattern target taken params) (auth : Option AuthState)
    (tenant : Option TenantContext) :
    (Mount.enter (Request.at arrival target auth tenant) taken params).path = pathBehind pattern target := by
  obtain ⟨c, rest, rfl, -, -⟩ := guarded.taken met
  obtain ⟨path, found, matched⟩ := met.met
  simp [pathBehind, found, matched, Mount.enter, Mount.retarget, Request.at]

/-- What a router adds is read behind the lookup, and it reads nothing without a tenant. -/
theorem tenantLeg_texts {lender : Sql.Lender} (borrows : arrival.ownSession = false)
    (behaves : Behaves lender pattern router)
    {target : String} {auth : AuthState} {last : List String}
    (routed : ∀ taken params tenant more exit, Meets pattern (onward pattern target) taken params →
      router (Mount.enter (Request.at arrival (onward pattern target) (some auth) tenant) taken params) more exit →
      texts more <+: last)
    (leg : TenantLeg ⟨.pooled timeout, enforce, publicPaths⟩ pattern router arrival target auth more result) :
    texts more <+: borrowing timeout Membership.statement ++ last := by
  have early {looked : List Exchanged} {exit : Exit} {taken : List Char} {params : List (String × Option Json)}
      (course : TenantCourse ⟨.pooled timeout, enforce, publicPaths⟩
        (Mount.enter (Request.at arrival target (some auth) none) taken params) looked exit) :
      texts looked <+: borrowing timeout Membership.statement ++ last := by
    have prefixes := tenantCourse_texts (by simpa [Request.at] using borrows) course
    exact prefixes.trans (List.prefix_append _ _)
  cases leg with
  | astray => exact List.nil_prefix
  | stopped _ stopped => exact early stopped
  | raised _ raised => simpa using early raised
  | left _ left => simpa using early left
  | passed met admits later =>
    obtain ⟨prefixes, looked⟩ := admits.texts (by simpa [Request.at] using borrows) (by simp [Request.at])
    -- Without a tenant the routes read nothing. With one the lookup was asked to its end, and
    -- what they read stands behind it.
    rcases looked with rfl | whole
    · obtain ⟨answer, rfl, -⟩ := routerLeg_tenantless behaves later
      simpa using prefixes.trans (List.prefix_append _ last)
    · rw [texts_append, whole, List.prefix_append_right_inj]
      cases later with
      | astray => exact List.nil_prefix
      | routed met reached => simpa using routed _ _ _ _ _ met reached

theorem verified_texts {marks : List Exchanged} {outcome : Option Outcome}
    (verified : Verified choice marks outcome) : texts marks = [] := by cases verified <;> rfl

theorem attached_texts {marks : List Exchanged} {outcome : Option Outcome} {auth : AuthState}
    (verified : Verified choice marks outcome) : texts (marks ++ ⟨.attachAuth auth, ()⟩ :: more) = texts more := by
  rw [texts_append, verified_texts verified]
  rfl

theorem journey_texts {lender : Sql.Lender} (borrows : arrival.ownSession = false)
    (behaves : Behaves lender pattern router)
    {last : List String}
    (routed : ∀ taken params auth tenant more exit,
      Meets pattern (onward pattern (onward pattern arrival.target)) taken params →
      router (Mount.enter (Request.at arrival (onward pattern (onward pattern arrival.target)) (some auth) tenant)
        taken params) more exit → texts more <+: last)
    (journey : Journey choice ⟨.pooled timeout, enforce, publicPaths⟩ pattern router arrival more result) :
    texts more <+: borrowing timeout Membership.statement ++ last := by
  cases journey with
  | garbled => exact List.nil_prefix
  | refused _ verified => simp [verified_texts verified]
  | gone _ verified => simp [verified_texts verified]
  | @passed _ _ marks more _ auth _ _ verified _ later =>
    have leg := tenantLeg_texts borrows behaves (fun taken params tenant => routed taken params auth tenant) later
    rwa [attached_texts verified]

theorem endpoint_health (known : arrival.path = Target.path? arrival.target) {stages : List Stage}
    (matched : Route.Matches ⟨[.literal "health"], stages⟩ arrival)
    (reading : Route.isReading arrival.method = true) :
    endpoint arrival.method arrival.target = .health := by
  have found : ((Target.path? arrival.target).map (Pattern.isRoute [.literal "health"])).getD false = true := by
    rw [← known]
    exact matched
  simp [endpoint, reading, found]

theorem health_texts {exit : Exit} (known : arrival.path = Target.path? arrival.target)
    (routed : RoutesCourse (Health.routes (.pooled timeout)) (healthCourse (.pooled timeout)) arrival more exit) :
    texts more <+: script timeout limit (endpoint arrival.method arrival.target) := by
  cases routed with
  | @served route more exit member matched reading served =>
    simp only [Health.routes, List.mem_cons, List.not_mem_nil, or_false] at member
    rcases member with rfl | rfl
    · rw [endpoint_health known matched reading]
      cases served with
      | checked asked => simpa [script] using (asked_texts asked).1
    · cases served
      exact List.nil_prefix
  | polled => exact List.nil_prefix
  | passed => exact List.nil_prefix

theorem unserved_unhealthy {lender : Sql.Lender} (known : arrival.path = Target.path? arrival.target)
    (unserved : Unserved (Health.routes lender) arrival) :
    (Route.isReading arrival.method &&
      ((Target.path? arrival.target).map (Pattern.isRoute [.literal "health"])).getD false) = false := by
  by_contra served
  rw [Bool.not_eq_false, Bool.and_eq_true, ← known] at served
  have passes := unserved _ List.mem_cons_self served.2
  rw [served.1] at passes
  cases passes.1

/-- What no health route answers has its script behind the mounts. -/
theorem unserved_script {lender : Sql.Lender} (known : arrival.path = Target.path? arrival.target)
    (unserved : Unserved (Health.routes lender) arrival) :
    script timeout limit (endpoint arrival.method arrival.target) =
      borrowing timeout Membership.statement ++ reads timeout limit (endpoint arrival.method arrival.target) := by
  have other : endpoint arrival.method arrival.target ≠ .health := by
    unfold endpoint
    rw [unserved_unhealthy known unserved]
    simp only [Bool.false_eq_true, if_false]
    unfold Endpoint.ofPath
    split
    · decide
    · split
      · decide
      · split <;> decide
  unfold script
  split
  next health => exact absurd health other
  next => rfl

theorem unserved_endpoint {lender : Sql.Lender} (known : arrival.path = Target.path? arrival.target)
    (unserved : Unserved (Health.routes lender) arrival) :
    endpoint arrival.method arrival.target = Endpoint.ofPath arrival.method
      (pathBehind Service.organizationPattern
        (onward Service.organizationPattern (onward Service.organizationPattern arrival.target))) := by
  unfold endpoint
  rw [unserved_unhealthy known unserved]
  rfl

theorem service_texts (borrows : arrival.ownSession = false) (known : arrival.path = Target.path? arrival.target)
    (course : ServiceCourse choice ⟨.pooled timeout, enforce, publicPaths⟩ (.pooled timeout) arrival more result) :
    texts more <+: script timeout (Organizations.limitOf (arrival.query.get? "limit"))
      (endpoint arrival.method arrival.target) := by
  cases course with
  | health served => exact health_texts known served
  | organization unserved found under journey =>
    rw [unserved_script known unserved, unserved_endpoint known unserved]
    refine journey_texts borrows (organizations_behave (.pooled timeout)) ?_ journey
    intro taken params auth tenant more exit met routed
    have read := organizations_texts (by simpa [Request.at] using borrows) routed
    rw [entered_path organization_guarded met] at read
    simpa [Request.at] using read
  | context unserved found apart under journey =>
    rw [unserved_script known unserved]
    refine journey_texts borrows (context_behaves (.pooled timeout)) ?_ journey
    intro taken params auth tenant more exit met routed
    rw [context_texts routed]
    exact List.nil_prefix
  | unknown => exact List.nil_prefix

theorem course_texts {header : String} {incoming : Incoming} {response : Option Response}
    (course : Course choice ⟨.pooled timeout, enforce, publicPaths⟩ (.pooled timeout) header incoming more response) :
    texts more <+: script timeout (Organizations.limitOf (incoming.toRequest.query.get? "limit"))
      (endpoint incoming.method incoming.target) := by
  cases course with
  | pathless => exact List.nil_prefix
  | unready => exact List.nil_prefix
  | served _ _ _ _ course => exact service_texts rfl rfl course

end

/-! Success is only told at the end of the script. -/

section
variable {choice : IdentityChoice} {timeout : Number} {enforce : Bool} {publicPaths : List String}
  {arrival : Request} {pattern : Pattern} {router : StageCourse} {more : List Exchanged} {answer : Answer}
  {limit : Int}

theorem read_success {statement : Request → TenantContext → Organizations.Statement}
    {made : TenantContext → List Fields → Except Failure Answer} {request : Request} {exit : Exit} {text : String}
    (borrows : request.ownSession = false) (fixed : ∀ tenant, (statement request tenant).text = text)
    (read : ReadCourse (.pooled timeout) statement made request more exit)
    (told : exit.settled.result = some answer) (success : answer.status = 200) :
    request.tenant ≠ none ∧ texts more = borrowing timeout text := by
  cases read with
  | tenantless =>
    cases told
    cases success
  | @failed _ _ _ failure =>
    obtain ⟨given, -, same, unsuccessful, -⟩ := settled_answer failure request more
    cases told.symm.trans same
    exact absurd success unsuccessful
  | answered attached asked =>
    rw [borrows, fixed] at asked
    refine ⟨by simp [attached], ?_⟩
    rw [texts_append, (asked_texts asked).2 _ rfl, texts_answering, List.append_nil]

theorem organizations_success {request : Request} {exit : Exit} (borrows : request.ownSession = false)
    (known : Endpoint.ofPath request.method request.path ≠ .other)
    (routed : RoutesCourse (Organizations.routes (.pooled timeout)) (organizationsCourse (.pooled timeout))
      request more exit) (told : exit.result = some answer) (success : answer.status = 200) :
    request.tenant ≠ none ∧ texts more = reads timeout (Organizations.limitOf (request.query.get? "limit"))
      (Endpoint.ofPath request.method request.path) := by
  cases routed with
  | @served route more exit member matched reading served =>
    rcases ofPath_served member matched reading with ⟨rfl, here⟩ | ⟨rfl, here⟩
    · rw [here]
      exact read_success borrows organization_text served told success
    · rw [here]
      cases served with
      | tenantless =>
        cases told
        cases success
      | insufficient =>
        cases told
        cases success
      | passed _ _ read => exact read_success borrows (fun tenant => members_text tenant _) read told success
  | polled _ _ polled =>
    rw [polled] at known
    exact absurd rfl known
  | passed =>
    cases told
    cases success

theorem stopped_unsuccessful {isolation : Isolation} {request : Request}
    (stopped : TenantCourse isolation request more (.answered answer)) : answer.status ≠ 200 := by
  cases stopped with
  | unattached => exact nofun
  | anonymous => exact nofun
  | @unresolved _ _ failure =>
    change failure.status ≠ 200
    rcases resolution_status failure with status | status
    · simp [status]
    · simp [status]
  | stranger => exact nofun

theorem Astray.unsuccessful {target : String} {failure : Option Failure} (astray : Astray pattern target failure) :
    (closing failure).status ≠ 200 := by
  rcases astray.status with status | status
  · simp [status]
  · simp [status]

theorem tenantLeg_success (borrows : arrival.ownSession = false) {target : String} {auth : AuthState}
    {last : List String}
    (routed : ∀ taken params tenant more exit, Meets pattern (onward pattern target) taken params →
      router (Mount.enter (Request.at arrival (onward pattern target) (some auth) tenant) taken params) more exit →
      exit.result = some answer → tenant ≠ none ∧ texts more = last)
    (leg : TenantLeg ⟨.pooled timeout, enforce, publicPaths⟩ pattern router arrival target auth more (some answer))
    (success : answer.status = 200) : texts more = borrowing timeout Membership.statement ++ last := by
  cases leg with
  | astray astray => exact absurd success astray.unsuccessful
  | stopped _ stopped => exact absurd success (stopped_unsuccessful stopped)
  | raised => exact absurd success (failure_unsuccessful _)
  | left => cases success
  | passed met admits later =>
    obtain ⟨-, looked⟩ := admits.texts (by simpa [Request.at] using borrows) (by simp [Request.at])
    generalize same : some answer = result at later
    cases later with
    | astray astray =>
      cases same
      exact absurd success astray.unsuccessful
    | routed met reached =>
      obtain ⟨tenanted, read⟩ := routed _ _ _ _ _ met reached same.symm
      rw [texts_append, looked.resolve_left tenanted, texts_append, read, texts_closing, List.append_nil]

theorem journey_success (borrows : arrival.ownSession = false) {last : List String}
    (routed : ∀ taken params auth tenant more exit,
      Meets pattern (onward pattern (onward pattern arrival.target)) taken params →
      router (Mount.enter (Request.at arrival (onward pattern (onward pattern arrival.target)) (some auth) tenant)
        taken params) more exit → exit.result = some answer → tenant ≠ none ∧ texts more = last)
    (journey : Journey choice ⟨.pooled timeout, enforce, publicPaths⟩ pattern router arrival more (some answer))
    (success : answer.status = 200) : texts more = borrowing timeout Membership.statement ++ last := by
  cases journey with
  | garbled => exact absurd success (failure_unsuccessful _)
  | refused _ _ refuses =>
    rcases refuses.status with status | ⟨status, -⟩
    · simp [status] at success
    · simp [status] at success
  | @passed _ _ marks more _ auth _ _ verified _ later =>
    have leg := tenantLeg_success borrows (fun taken params tenant => routed taken params auth tenant) later success
    rwa [attached_texts verified]

/-- Off the organizations only the health check is more than the lookup. -/
theorem endpoint_other {method target path : String} (found : Target.path? target = some path)
    (apart : Service.organizationPattern.mounted path = .no)
    (unhealthy : (Route.isReading method &&
      ((Target.path? target).map (Pattern.isRoute [.literal "health"])).getD false) = false) :
    endpoint method target = .other := by
  have kept : onward Service.organizationPattern target = target := by simp [onward, found, apart]
  have nothing : pathBehind Service.organizationPattern target = none := by simp [pathBehind, found, apart]
  unfold endpoint
  rw [unhealthy, kept, kept]
  simp only [Bool.false_eq_true, if_false]
  rw [nothing]
  simp [Endpoint.ofPath]

theorem health_success (known : arrival.path = Target.path? arrival.target) {path : String}
    (found : Target.path? arrival.target = some path) (ends : endpoint arrival.method arrival.target ≠ .other)
    (served : RoutesCourse (Health.routes (.pooled timeout)) (healthCourse (.pooled timeout)) arrival more
      (.answered answer)) (success : answer.status = 200) :
    texts more = script timeout limit (endpoint arrival.method arrival.target) := by
  have apart : Service.organizationPattern.mounted path = .no :=
    Classical.byContradiction fun under => (health_elsewhere known found served).2 ⟨path, found, .inl under⟩
  generalize ended : Exit.answered answer = exit at served
  cases served with
  | @served route more exit member matched reading inside =>
    simp only [Health.routes, List.mem_cons, List.not_mem_nil, or_false] at member
    rcases member with rfl | rfl
    · rw [endpoint_health known matched reading]
      cases inside with
      | @checked looked reply asked =>
        cases ended
        cases reply with
        | error => cases success
        | ok rows => simpa [script] using (asked_texts asked).2 rows rfl
    · have off : ¬ Route.Matches ⟨[.literal "health"], []⟩ arrival := words_apart (by decide) matched
      have unhealthy :
          ((Target.path? arrival.target).map (Pattern.isRoute [.literal "health"])).getD false = false := by
        rw [← known]
        simpa [Route.Matches] using off
      exact absurd (endpoint_other found apart (by rw [unhealthy, Bool.and_false])) ends
  | polled member matched polled =>
    have unread : Route.isReading arrival.method = false := by
      rw [polled]
      rfl
    exact absurd (endpoint_other found apart (by rw [unread, Bool.false_and])) ends
  | passed => cases ended

theorem service_success (borrows : arrival.ownSession = false) (known : arrival.path = Target.path? arrival.target)
    {path : String} (found : Target.path? arrival.target = some path)
    (ends : endpoint arrival.method arrival.target ≠ .other)
    (course : ServiceCourse choice ⟨.pooled timeout, enforce, publicPaths⟩ (.pooled timeout) arrival more
      (some answer)) (success : answer.status = 200) :
    texts more = script timeout (Organizations.limitOf (arrival.query.get? "limit"))
      (endpoint arrival.method arrival.target) := by
  cases course with
  | health served => exact health_success known found ends served success
  | organization unserved _ under journey =>
    rw [unserved_script known unserved]
    refine journey_success borrows ?_ journey success
    intro taken params auth tenant more exit met routed told
    rw [unserved_endpoint known unserved] at ends ⊢
    have read := organizations_success (by simpa [Request.at] using borrows)
      (by rw [entered_path organization_guarded met]; simpa [Request.at] using ends) routed told success
    rw [entered_path organization_guarded met] at read
    simpa [Request.at] using read
  | context unserved same apart =>
    cases found.symm.trans same
    exact absurd (endpoint_other found apart (unserved_unhealthy known unserved)) ends
  | unknown unserved same apart =>
    cases found.symm.trans same
    exact absurd (endpoint_other found apart (unserved_unhealthy known unserved)) ends

theorem course_success {header : String} {incoming : Incoming} {given : Response}
    (ends : endpoint incoming.method incoming.target ≠ .other)
    (course : Course choice ⟨.pooled timeout, enforce, publicPaths⟩ (.pooled timeout) header incoming more
      (some given)) (success : given.status = 200) :
    texts more = script timeout (Organizations.limitOf (incoming.toRequest.query.get? "limit"))
      (endpoint incoming.method incoming.target) := by
  generalize same : some given = response at course
  cases course with
  | pathless =>
    cases same
    cases ofAnswer_success success
  | @unready _ failure _ unready =>
    cases same
    exact absurd (ofAnswer_success success) (failure_unsuccessful failure)
  | @served path more result held found readable named course =>
    cases result with
    | none => cases same
    | some answer =>
      cases same
      exact service_success rfl rfl found ends course (ofAnswer_success success)

end

/-- The texts that can go to the database under a limit. -/
inductive Sent (timeout : Number) (limit : Nat) : String → Prop where
  | prepared : Sent timeout limit ("SET statement_timeout = " ++ timeout.toText)
  | checked : Sent timeout limit "SELECT 1"
  | lookedUp : Sent timeout limit "SELECT role FROM membership WHERE user_id = $1 AND organization_id = $2 LIMIT 1"
  | organization : Sent timeout limit selectOrganization
  | members (plain : ∀ c ∈ limit.repr.toList, c.isDigit = true) : Sent timeout limit (selectMembers ++ limit.repr)

theorem script_sent (timeout : Number) (limit : Nat) (endpoint : Endpoint) :
    ∀ text ∈ script timeout limit endpoint, Sent timeout limit text := by
  have plain : ∀ c ∈ limit.repr.toList, c.isDigit = true := by
    intro c member
    rw [Nat.toList_repr] at member
    exact Nat.isDigit_of_mem_toDigits (by decide) (by decide) member
  have borrowed {statement : String} (sent : Sent timeout limit statement) :
      ∀ text ∈ borrowing timeout statement, Sent timeout limit text := by
    simp only [borrowing, List.mem_cons, List.not_mem_nil, or_false]
    rintro text (rfl | rfl)
    · exact .prepared
    · exact sent
  have behind : ∀ text ∈ reads timeout limit endpoint, Sent timeout limit text := by
    cases endpoint with
    | organization => exact borrowed .organization
    | members => exact borrowed (.members plain)
    | health => exact nofun
    | other => exact nofun
  cases endpoint with
  | health => exact borrowed .checked
  | _ => exact fun text member => (List.mem_append.mp member).elim (borrowed .lookedUp text) (behind text)

structure Pooled where
  choice : IdentityChoice
  timeout : Number
  enforce : Bool
  publicPaths : List String
  header : String

def Pooled.running (app : Pooled) : Service :=
  service app.choice ⟨.pooled app.timeout, app.enforce, app.publicPaths⟩ (.pooled app.timeout) app.header

def Pooled.sent (app : Pooled) (incoming : Incoming) (world : World σ) (state : σ) : List String :=
  texts ((app.running.handle incoming).trace world state)

def Pooled.script (app : Pooled) (incoming : Incoming) (limit : Nat) : List String :=
  Proofs.script app.timeout limit (endpoint incoming.method incoming.target)

section
variable (app : Pooled) (incoming : Incoming) (world : World σ) (state : σ) {limit : Nat}

theorem Pooled.course : Course app.choice ⟨.pooled app.timeout, app.enforce, app.publicPaths⟩ (.pooled app.timeout)
    app.header incoming (steps ((app.running.handle incoming).trace world state))
    ((app.running.handle incoming).run world state).1 :=
  handle_course _ _ _ _ _ _ _

variable (limited : Limit (incoming.toRequest.query.get? "limit") limit)
include limited

theorem Pooled.scripted : app.sent incoming world state <+: app.script incoming limit := by
  obtain ⟨n, same, found, -, -⟩ := limitOf_limit (incoming.toRequest.query.get? "limit")
  have scripted := course_texts (app.course incoming world state)
  rwa [texts_steps, same, found.unique limited] at scripted

theorem Pooled.whole (ends : endpoint incoming.method incoming.target ≠ .other) {given : Response}
    (told : ((app.running.handle incoming).run world state).1 = some given) (success : given.status = 200) :
    app.sent incoming world state = app.script incoming limit := by
  obtain ⟨n, same, found, -, -⟩ := limitOf_limit (incoming.toRequest.query.get? "limit")
  have course := app.course incoming world state
  rw [told] at course
  have whole := course_success ends course success
  rwa [texts_steps, same, found.unique limited] at whole

end

/-- Nothing that a caller sends reaches the text of a statement but a limit, and that only
within its bounds. So the endpoint and the limit settle between them which texts are sent, and
only a caller for whom all of them were sent is told of success. -/
theorem texts_settled (app : Pooled) (incoming : Incoming) (world : World σ) (state : σ) :
    ∃ limit : Nat, Limit (incoming.toRequest.query.get? "limit") limit ∧ 1 ≤ limit ∧ limit ≤ 500 ∧
      app.sent incoming world state <+: app.script incoming limit ∧
      (endpoint incoming.method incoming.target ≠ .other → ∀ given,
        ((app.running.handle incoming).run world state).1 = some given → given.status = 200 →
        app.sent incoming world state = app.script incoming limit) ∧
      (∀ text ∈ app.sent incoming world state, Sent app.timeout limit text) ∧
      ∀ (other : Pooled) (again : Incoming) (τ : Type) (elsewhere : World τ) (start : τ),
        other.timeout = app.timeout →
        endpoint again.method again.target = endpoint incoming.method incoming.target →
        Limit (again.toRequest.query.get? "limit") limit →
        app.sent incoming world state <+: other.sent again elsewhere start ∨
          other.sent again elsewhere start <+: app.sent incoming world state := by
  obtain ⟨limit, -, limited, least, greatest⟩ := limitOf_limit (incoming.toRequest.query.get? "limit")
  have scripted := app.scripted incoming world state limited
  refine ⟨limit, limited, least, greatest, scripted,
    fun ends given told success => app.whole incoming world state limited ends told success,
    fun text member => script_sent _ _ _ text (scripted.subset member), ?_⟩
  intro other again τ elsewhere start timeout route alike
  have rescripted := other.scripted again elsewhere start alike
  rw [Pooled.script, timeout, route] at rescripted
  exact List.prefix_or_prefix_of_prefix scripted rescripted

example : endpoint "GET" "/v1/orgs/acme/memberships?limit=5;" = .members := by
  decide +kernel

end TenantAccess.Proofs
