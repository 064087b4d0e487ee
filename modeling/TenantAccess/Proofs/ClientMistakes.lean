import TenantAccess.Proofs.ClosedStages
import TenantAccess.Rehearsal.World

/-! Which requests are answered as failures of the service although nothing failed: those whose
body or whose path cannot be read. What is refused in reading them is raised, and whatever is
raised is answered alike. -/

namespace TenantAccess.Proofs

def isObliging : Exchanged → Bool
  | ⟨.borrow, reply⟩ => reply.isOk
  | ⟨.query _ _ _, .ok rows⟩ => rows.all fun row => row.all fun column => column.2.text?.isSome
  | ⟨.query _ _ _, .error _⟩ => false
  | _ => true

def AllText (row : Fields) : Prop := ∀ column ∈ row, ∃ value, column.2 = .text value

def attachesAuth : Exchanged → Bool
  | ⟨.attachAuth _, _⟩ => true
  | _ => false

def attachesTenant : Exchanged → Bool
  | ⟨.attachTenant _, _⟩ => true
  | _ => false

def Garbled (pattern : Pattern) (target : String) : Prop :=
  ∃ path segment, Target.path? target = some path ∧ pattern.mounted path = .undecodable segment

/-- The targets under which a request comes to the mounts on the pattern. It comes to the
second with an identity, and to the third with a tenant. -/
inductive Visits (pattern : Pattern) (arrival : String) (history : List Exchanged) : String → Prop where
  | arrived : Visits pattern arrival history arrival
  | identified (attached : history.any attachesAuth = true) :
      Visits pattern arrival history (onward pattern arrival)
  | confirmed (attached : history.any attachesTenant = true) :
      Visits pattern arrival history (onward pattern (onward pattern arrival))

def Stumbles (pattern : Pattern) (arrival : String) (history : List Exchanged) : Prop :=
  ∃ target, Visits pattern arrival history target ∧ Garbled pattern target

/-- The requests that are answered as failures: those that nothing can be made of before they
are handled, or under way. -/
inductive Overlooked (header : String) (incoming : Incoming) (history : List Exchanged) : Prop where
  | unready {path : String} {failure : Failure} (found : Target.path? incoming.target = some path)
      (unready : Unready header incoming failure) : Overlooked header incoming history
  | stumbled (stumbles : Stumbles Service.organizationPattern incoming.target history) :
      Overlooked header incoming history

/-- The statuses of answers that blame nobody, or the caller. -/
def ordinary : List Nat := [200, 304, 400, 401, 403, 404]

/-- An answer tells a failure exactly where one was overlooked. -/
inductive Fair (overlooked : Prop) : Option Nat → Prop where
  | failed (mistaken : overlooked) : Fair overlooked (some 500)
  | told {status : Nat} (noticed : ¬ overlooked) (ordinary : status ∈ ordinary) : Fair overlooked (some status)
  | unheard (noticed : ¬ overlooked) : Fair overlooked none

theorem Fair.failed_iff {overlooked : Prop} {status : Option Nat} (fair : Fair overlooked status) :
    status = some 500 ↔ overlooked := by
  cases fair with
  | failed mistaken => exact ⟨fun _ => mistaken, fun _ => rfl⟩
  | told noticed ordinary =>
    refine ⟨?_, fun mistaken => absurd mistaken noticed⟩
    rintro ⟨⟩
    exact absurd ordinary (by decide)
  | unheard noticed => exact ⟨nofun, fun mistaken => absurd mistaken noticed⟩

theorem Fair.status {overlooked : Prop} {status : Nat} (fair : Fair overlooked (some status)) :
    status = 500 ∨ status ∈ ordinary := by
  cases fair with
  | failed => exact .inl rfl
  | told _ ordinary => exact .inr ordinary

theorem Fair.congr {one other : Prop} {status : Option Nat} (fair : Fair one status) (same : one ↔ other) :
    Fair other status := propext same ▸ fair

section
variable {lender : Sql.Lender} {ownSession : Bool} {text : String} {parameters : List Json} {more : List Exchanged}
  {reply : Except Failure (List Fields)}

theorem asked_obliged (asked : Asked lender ownSession text parameters more reply)
    (obliging : more.all isObliging = true) :
    ∃ rows, reply = .ok rows ∧ ∀ row ∈ rows, AllText row := by
  have answered {session : SessionKind} (obliged : isObliging ⟨.query session text (some parameters), reply⟩ = true) :
      ∃ rows, reply = .ok rows ∧ ∀ row ∈ rows, AllText row := by
    cases reply with
    | error failure => cases obliged
    | ok rows =>
      refine ⟨rows, rfl, fun row member column inside => ?_⟩
      have plain := List.all_eq_true.mp (List.all_eq_true.mp obliged row member) column inside
      cases shown : column.2 with
      | text value => exact ⟨value, rfl⟩
      | _ => simp [shown, Json.text?] at plain
  cases asked with
  | own => exact answered (List.all_eq_true.mp obliging _ List.mem_cons_self)
  | unopened _ refused =>
    cases refused with
    | unlent => cases obliging
    | unlimited => simp [isObliging] at obliging
  | opened _ _ ready =>
    rw [List.all_append, Bool.and_eq_true] at obliging
    exact answered (List.all_eq_true.mp obliging.2 _ List.mem_cons_self)

theorem asked_plain (asked : Asked lender ownSession text parameters more reply) :
    more.any attachesTenant = false := by
  cases asked with
  | own => rfl
  | unopened _ refused => cases refused <;> rfl
  | opened _ _ ready => cases ready <;> rfl

end

section
variable {row : Fields} {rows : List Fields}

theorem AllText.column (told : AllText row) (name : String) :
    ∃ value, Organizations.column row name = .ok value := by
  unfold Organizations.column
  split
  · exact ⟨_, rfl⟩
  · exact ⟨_, rfl⟩
  next given _ found =>
    obtain ⟨column, first, rfl⟩ := Option.map_eq_some_iff.mp found
    obtain ⟨value, same⟩ := told column (List.mem_of_find?_eq_some first)
    exact ⟨value, by rw [same]; rfl⟩

theorem details_told (told : ∀ row ∈ rows, AllText row) (role : String) :
    ∃ answer, Organizations.details rows.head? role = .ok answer ∧ answer.status ∈ ordinary := by
  cases rows with
  | nil => exact ⟨Organizations.notFound, rfl, by decide⟩
  | cons row rest =>
    obtain ⟨id, named⟩ := (told row List.mem_cons_self).column "id"
    simp [Organizations.details, Organizations.ofRow, named, Except.map, Answer.json, ordinary]

theorem members_told (told : ∀ row ∈ rows, AllText row) :
    ∃ answer, Organizations.members rows = .ok answer ∧ answer.status ∈ ordinary := by
  have each : ∃ members, rows.mapM Organizations.memberOfRow = .ok members := by
    induction rows with
    | nil => exact ⟨[], rfl⟩
    | cons row rest ih =>
      obtain ⟨members, later⟩ := ih fun other member => told other (List.mem_cons_of_mem _ member)
      obtain ⟨user, named⟩ := (told row List.mem_cons_self).column "user_id"
      obtain ⟨role, ranked⟩ := (told row List.mem_cons_self).column "role"
      obtain ⟨member, first⟩ : ∃ member, Organizations.memberOfRow row = .ok member := by
        simp [Organizations.memberOfRow, named, ranked]
      exact ⟨member :: members, by rw [List.mapM_cons, first, later]; rfl⟩
  obtain ⟨members, each⟩ := each
  simp [Organizations.members, each, Except.map, Answer.json, ordinary]

end

def Courteous (router : StageCourse) : Prop := ∀ request tenant more exit, request.tenant = some tenant →
  more.all isObliging = true → router request more exit →
  ∃ answer, exit.result = some answer ∧ answer.status ∈ ordinary

theorem read_courteous {lender : Sql.Lender} {statement : Request → TenantContext → Organizations.Statement}
    {answer : TenantContext → List Fields → Except Failure Answer}
    (answers : ∀ tenant rows, (∀ row ∈ rows, AllText row) →
      ∃ given, answer tenant rows = .ok given ∧ given.status ∈ ordinary)
    {request : Request} {tenant : TenantContext} {more : List Exchanged} {exit : Exit}
    (attached : request.tenant = some tenant) (obliging : more.all isObliging = true)
    (read : ReadCourse lender statement answer request more exit) :
    ∃ given, exit = .answered given ∧ given.status ∈ ordinary := by
  cases read with
  | tenantless tenantless => simp [attached] at tenantless
  | @failed other _ _ _ _ asked failed =>
    obtain ⟨rows, rfl, told⟩ := asked_obliged asked obliging
    obtain ⟨given, made, -⟩ := answers other rows told
    have impossible : Except.ok given = .error _ := made.symm.trans failed
    cases impossible
  | @answered other _ rows given _ asked made =>
    rw [List.all_append, Bool.and_eq_true] at obliging
    obtain ⟨others, same, told⟩ := asked_obliged asked obliging.1
    cases same
    obtain ⟨answered, again, status⟩ := answers other rows told
    cases made.symm.trans again
    exact ⟨given, rfl, status⟩

theorem organizations_courteous (lender : Sql.Lender) :
    Courteous (RoutesCourse (Organizations.routes lender) (organizationsCourse lender)) := by
  intro request tenant more exit attached obliging routed
  cases routed with
  | served _ _ _ served =>
    unfold organizationsCourse at served
    split at served
    · obtain ⟨given, rfl, status⟩ :=
        read_courteous (fun tenant _ told => details_told told tenant.role) attached obliging served
      exact ⟨given, rfl, status⟩
    · cases served with
      | tenantless tenantless => simp [attached] at tenantless
      | insufficient => exact ⟨_, rfl, by decide⟩
      | passed _ _ inside =>
        obtain ⟨given, rfl, status⟩ := read_courteous (fun _ _ => members_told) attached obliging inside
        exact ⟨given, rfl, status⟩
  | polled => exact ⟨_, rfl, by decide⟩
  | passed => exact ⟨_, rfl, by decide⟩

theorem context_courteous : Courteous (RoutesCourse CallerContext.routes contextCourse) := by
  intro request tenant more exit _ _ routed
  cases routed with
  | served _ _ _ served =>
    cases served
    exact ⟨_, rfl, List.mem_cons_self⟩
  | polled => exact ⟨_, rfl, by decide⟩
  | passed => exact ⟨_, rfl, by decide⟩

theorem health_courteous {lender : Sql.Lender} {request : Request} {more : List Exchanged} {answer : Answer}
    (obliging : more.all isObliging = true)
    (routed : RoutesCourse (Health.routes lender) (healthCourse lender) request more (.answered answer)) :
    answer.status ∈ ordinary := by
  generalize ended : Exit.answered answer = exit at routed
  cases routed with
  | served _ _ _ served =>
    unfold healthCourse at served
    split at served
    · cases served with
      | checked asked =>
        rw [List.all_append, Bool.and_eq_true] at obliging
        obtain ⟨rows, rfl, -⟩ := asked_obliged asked obliging.1
        cases ended
        exact List.mem_cons_self
    · cases served
      cases ended
      decide
  | polled =>
    cases ended
    decide
  | passed => cases ended

section
variable {pattern : Pattern} {arrival target : String} {history : List Exchanged}

theorem Meets.clear {taken : List Char} {params : List (String × Option Json)}
    (met : Meets pattern target taken params) : ¬ Garbled pattern target := by
  rintro ⟨path, segment, found, garbled⟩
  obtain ⟨other, same, matched⟩ := met.met
  cases found.symm.trans same
  rw [matched] at garbled
  cases garbled

/-- A path that is not met is kept, and is no garbled one. -/
theorem Astray.kept (astray : Astray pattern target none) :
    onward pattern target = target ∧ ¬ Garbled pattern target := by
  cases astray with
  | unmatched found unmatched =>
    refine ⟨by simp [onward, found, unmatched], ?_⟩
    rintro ⟨path, segment, same, garbled⟩
    cases found.symm.trans same
    rw [unmatched] at garbled
    cases garbled

theorem Astray.unread {failure : Failure} (astray : Astray pattern target (some failure)) :
    Garbled pattern target := by
  cases astray with
  | garbled found garbled => exact ⟨_, _, found, garbled⟩

theorem stumbles_iff : Stumbles pattern arrival history ↔ Garbled pattern arrival ∨
    history.any attachesAuth = true ∧ Garbled pattern (onward pattern arrival) ∨
    history.any attachesTenant = true ∧ Garbled pattern (onward pattern (onward pattern arrival)) := by
  constructor
  · rintro ⟨target, visits, garbled⟩
    cases visits with
    | arrived => exact .inl garbled
    | identified attached => exact .inr (.inl ⟨attached, garbled⟩)
    | confirmed attached => exact .inr (.inr ⟨attached, garbled⟩)
  · rintro (garbled | ⟨attached, garbled⟩ | ⟨attached, garbled⟩)
    · exact ⟨_, .arrived, garbled⟩
    · exact ⟨_, .identified attached, garbled⟩
    · exact ⟨_, .confirmed attached, garbled⟩

theorem kept_unstumbled (kept : onward pattern arrival = arrival) (clear : ¬ Garbled pattern arrival) :
    ¬ Stumbles pattern arrival history := by
  rw [stumbles_iff, kept, kept]
  simp [clear]

theorem Astray.unstumbled (astray : Astray pattern arrival none) : ¬ Stumbles pattern arrival history :=
  kept_unstumbled astray.kept.1 astray.kept.2

theorem pathless_unstumbled (pathless : Target.path? arrival = none) : ¬ Stumbles pattern arrival history := by
  refine kept_unstumbled (by simp [onward, pathless]) ?_
  rintro ⟨path, segment, found, -⟩
  simp [pathless] at found

end

section
variable {choice : IdentityChoice} {lender : Sql.Lender} {pattern : Pattern} {router : StageCourse}
  {arrival : Request} {more : List Exchanged} {result : Option Answer}

theorem Astray.fair {target : String} {failure : Option Failure} (astray : Astray pattern target failure) :
    Fair (Garbled pattern target) (some (closing failure).status) := by
  cases failure with
  | none => exact .told astray.kept.2 (by decide)
  | some raised =>
    have garbled := astray.unread
    cases astray with
    | garbled => exact .failed garbled

theorem verified_plain {marks : List Exchanged} {outcome : Option Outcome} (verified : Verified choice marks outcome) :
    marks.any attachesAuth = false ∧ marks.any attachesTenant = false := by
  cases verified <;> exact ⟨rfl, rfl⟩

theorem Refuses.ordinary {outcome : Option Outcome} {request : Request} {answer : Answer}
    (refuses : Refuses choice request outcome answer) : answer.status ∈ ordinary := by
  rcases refuses.status with status | ⟨status, -⟩
  · rw [status]
    decide
  · rw [status]
    decide

theorem stopped_ordinary {isolation : Isolation} {request : Request} {answer : Answer}
    (attached : request.auth ≠ none) (course : TenantCourse isolation request more (.answered answer)) :
    answer.status ∈ ordinary ∧ more.any attachesTenant = false := by
  cases course with
  | unattached unattached => exact absurd unattached attached
  | anonymous => exact ⟨by decide, rfl⟩
  | @unresolved _ _ failure =>
    refine ⟨?_, rfl⟩
    change failure.status ∈ ordinary
    rcases resolution_status failure with status | status
    · rw [status]
      decide
    · rw [status]
      decide
  | stranger looksUp =>
    refine ⟨by decide, ?_⟩
    rw [List.any_append, asked_plain looksUp.asked]
    rfl

theorem handed_clear {isolation : Isolation} {request inner : Request} {failure : Option Failure}
    (obliging : more.all isObliging = true) (course : TenantCourse isolation request more (.handed failure inner)) :
    failure = none := by
  cases course with
  | bypassed => rfl
  | unreachable looksUp =>
    obtain ⟨rows, impossible, -⟩ := asked_obliged looksUp.asked obliging
    cases impossible
  | member => rfl

theorem routerLeg_fair (courteous : Courteous router) {target : String} {auth : AuthState} {tenant : TenantContext}
    (obliging : more.all isObliging = true)
    (leg : RouterLeg pattern router arrival target auth (some tenant) more result) :
    Fair (Garbled pattern target) (result.map (·.status)) := by
  cases leg with
  | astray astray => exact astray.fair
  | routed met routed =>
    rw [List.all_append, Bool.and_eq_true] at obliging
    obtain ⟨answer, same, status⟩ := courteous _ tenant _ _ (by simp [Request.at]) obliging.1 routed
    rw [same]
    exact .told met.clear status

theorem tenantLeg_fair (guarded : Guarded pattern) (courteous : Courteous router) (bare : arrival.baseUrl = "")
    {target : String} {auth : AuthState} (obliging : more.all isObliging = true)
    (leg : TenantLeg (enforcing lender) pattern router arrival target auth more result) :
    Fair (Garbled pattern target ∨ more.any attachesTenant = true ∧ Garbled pattern (onward pattern target))
      (result.map (·.status)) := by
  cases leg with
  | astray astray => exact astray.fair.congr (by simp [attachesTenant, answering])
  | stopped met stopped =>
    obtain ⟨status, unattached⟩ := stopped_ordinary (by simp [Request.at]) stopped
    exact .told (by simp [met.clear, unattached]) status
  | raised met raised =>
    rw [List.all_append, Bool.and_eq_true] at obliging
    cases handed_clear obliging.1 raised
  | left met left leaves =>
    rw [List.all_append, Bool.and_eq_true] at obliging
    obtain rfl := handed_clear obliging.1 left
    cases leaves
  | passed met admits later =>
    rw [List.all_append, Bool.and_eq_true] at obliging
    obtain ⟨failure, inner, course, -, rfl⟩ := admits.admitted
    obtain rfl := handed_clear obliging.1 course
    cases course with
    | bypassed bypasses => exact absurd bypasses (guarded.enforced met bare)
    | member grant =>
      -- The second mount let the request in, so only the third can have stumbled.
      have fair := routerLeg_fair courteous obliging.2 later
      exact fair.congr (by simp [met.clear, attachesTenant])

theorem journey_fair (guarded : Guarded pattern) (courteous : Courteous router) (bare : arrival.baseUrl = "")
    (obliging : more.all isObliging = true)
    (journey : Journey choice (enforcing lender) pattern router arrival more result) :
    Fair (Stumbles pattern arrival.target more) (result.map (·.status)) := by
  cases journey with
  | garbled astray =>
    have fair := astray.fair
    exact fair.congr (by simp [stumbles_iff, astray.unread])
  | @refused _ _ marks _ answer met verified refuses =>
    have plain := verified_plain verified
    exact .told (by simp [stumbles_iff, met.clear, plain, attachesAuth, attachesTenant, answering]) refuses.ordinary
  | gone met verified =>
    have plain := verified_plain verified
    exact .unheard (by simp [stumbles_iff, met.clear, plain])
  | @passed _ _ marks more _ auth _ met verified _ later =>
    have plain := verified_plain verified
    rw [List.all_append, List.all_cons, Bool.and_eq_true, Bool.and_eq_true] at obliging
    have fair := tenantLeg_fair guarded courteous bare obliging.2.2 later
    refine fair.congr ?_
    simp [stumbles_iff, met.clear, plain, attachesAuth, attachesTenant]

end

section
variable {choice : IdentityChoice} {lender : Sql.Lender} {arrival : Request} {more : List Exchanged}
  {result : Option Answer}

theorem context_clear (target : String) : ¬ Garbled Service.contextPattern target := by
  rintro ⟨path, segment, -, garbled⟩
  simp only [Pattern.mounted, Service.contextPattern, List.isEmpty_cons, Bool.false_eq_true, if_false] at garbled
  split at garbled
  · cases garbled
  next raw front left took =>
    obtain ⟨one, two, rest, after, -, last, -⟩ := take?_opens took
    cases last
    cases garbled

theorem service_fair (bare : arrival.baseUrl = "") (known : arrival.path = Target.path? arrival.target)
    {path : String} (found : Target.path? arrival.target = some path) (obliging : more.all isObliging = true)
    (course : ServiceCourse choice (enforcing lender) lender arrival more result) :
    Fair (Stumbles Service.organizationPattern arrival.target more) (result.map (·.status)) := by
  have elsewhere {path : String} (found : Target.path? arrival.target = some path)
      (apart : Service.organizationPattern.mounted path = .no) :
      ¬ Stumbles Service.organizationPattern arrival.target more :=
    Astray.unstumbled (.unmatched found apart)
  cases course with
  | health served =>
    have unguarded := (health_elsewhere known found served).2
    have apart : Service.organizationPattern.mounted path = .no :=
      Classical.byContradiction fun under => unguarded ⟨path, found, .inl under⟩
    exact .told (elsewhere found apart) (health_courteous obliging served)
  | organization unserved found under journey =>
    exact journey_fair organization_guarded (organizations_courteous lender) bare obliging journey
  | context unserved found apart under journey =>
    have fair := journey_fair context_guarded context_courteous bare obliging journey
    -- No mount of the context stumbles, and those of the organizations let the target be.
    refine fair.congr (iff_of_false ?_ (elsewhere found apart))
    rintro ⟨target, -, garbled⟩
    exact context_clear target garbled
  | unknown unserved found apart => exact .told (elsewhere found apart) (by decide)

/-- Contents that the caller holds already are not sent again, but no failure is kept back. -/
theorem Fair.sent {overlooked : Prop} {answer : Answer} (fair : Fair overlooked (some answer.status))
    (request : Request) (held : List (String × String)) :
    Fair overlooked (some (Response.ofAnswer answer request held).status) := by
  rcases ofAnswer_cases answer request held with ⟨fresh, -, below, -⟩ | ⟨kept, -⟩
  · rw [fresh]
    generalize answer.status = status at fair below
    cases fair with
    | failed => exact absurd below (by decide)
    | told noticed => exact .told noticed (by decide)
  · rwa [kept]

theorem Unready.failed {header : String} {incoming : Incoming} {failure : Failure}
    (unready : Unready header incoming failure) : (FailureAnswer.answer failure).status = 500 := by
  cases unready <;> rfl

theorem course_fair {header : String} {incoming : Incoming} {response : Option Response}
    (obliging : more.all isObliging = true)
    (course : Course choice (enforcing lender) lender header incoming more response) :
    Fair (Overlooked header incoming more) (response.map (·.status)) := by
  cases course with
  | pathless pathless =>
    have noticed : ¬ Overlooked header incoming [answering (NotFoundPage.answer incoming.toRequest)] := by
      rintro (⟨found, -⟩ | stumbles)
      · simp [pathless] at found
      · exact pathless_unstumbled pathless stumbles
    have status : (NotFoundPage.answer incoming.toRequest).status = 404 := rfl
    have fair : Fair _ (some (NotFoundPage.answer incoming.toRequest).status) := .told noticed (by rw [status]; decide)
    exact fair.sent _ _
  | @unready _ failure found unready =>
    have fair : Fair (Overlooked header incoming [answering (FailureAnswer.answer failure)])
        (some (FailureAnswer.answer failure).status) := by
      rw [unready.failed]
      exact .failed (.unready found unready)
    exact fair.sent _ _
  | @served path _ result held found readable named course =>
    have bare : incoming.toRequest.baseUrl = "" := rfl
    have known : incoming.toRequest.path = Target.path? incoming.toRequest.target := rfl
    have fair := service_fair bare known found obliging course
    have same : Stumbles Service.organizationPattern incoming.target more ↔ Overlooked header incoming more := by
      refine ⟨.stumbled, ?_⟩
      rintro (⟨-, unready⟩ | stumbles)
      · cases unready with
        | unreadable unreadable => simp [readable] at unreadable
        | unnamed _ unnamed => simp [named] at unnamed
      · exact stumbles
    cases result with
    | none => exact fair.congr same
    | some answer => exact (fair.congr same).sent _ _

end

theorem any_steps {counts : Exchanged → Bool} (within : ∀ asked, counts asked = true → isStep asked.question = true)
    (history : List Exchanged) : (steps history).any counts = history.any counts := by
  rw [steps, List.any_filter]
  congr 1
  funext asked
  cases counted : counts asked with
  | false => rw [Bool.and_false]
  | true => rw [within asked counted, Bool.and_self]

theorem attaching_step {asked : Exchanged} (attaching : attachesAuth asked = true ∨ attachesTenant asked = true) :
    isStep asked.question = true := by
  obtain ⟨question, reply⟩ := asked
  cases question <;> first | rfl | simp [attachesAuth, attachesTenant] at attaching

theorem Overlooked.steps_iff {header : String} {incoming : Incoming} {history : List Exchanged} :
    Overlooked header incoming (steps history) ↔ Overlooked header incoming history := by
  have stumbles : Stumbles Service.organizationPattern incoming.target (steps history) ↔
      Stumbles Service.organizationPattern incoming.target history := by
    rw [stumbles_iff, stumbles_iff, any_steps fun asked attaching => attaching_step (.inl attaching),
      any_steps fun asked attaching => attaching_step (.inr attaching)]
  constructor
  · rintro (⟨found, unready⟩ | stumbled)
    · exact .unready found unready
    · exact .stumbled (stumbles.mp stumbled)
  · rintro (⟨found, unready⟩ | stumbled)
    · exact .unready found unready
    · exact .stumbled (stumbles.mpr stumbled)

theorem onward_plain {target : String} (plain : PlainTarget target) :
    onward Service.organizationPattern target = target := by
  unfold onward
  split
  next taken params matched =>
    obtain ⟨path, found, met⟩ := Option.map_eq_some_iff.mp matched
    exact plain.restored found (mounted_takes met).1
  next => rfl

theorem PlainTarget.rooted {target : String} (plain : PlainTarget target) :
    ∃ path, Target.path? target = some path := by
  simp [Target.path?, Target.parse?, plain.1, plain.2, Target.splitQuery]

/-- Of a plain target it can be told beforehand whether it will be overlooked. -/
theorem Overlooked.plain_iff {header : String} {incoming : Incoming} (plain : PlainTarget incoming.target)
    (history : List Exchanged) : Overlooked header incoming history ↔
      (∃ failure, Unready header incoming failure) ∨ Garbled Service.organizationPattern incoming.target := by
  obtain ⟨path, found⟩ := plain.rooted
  constructor
  · rintro (⟨-, unready⟩ | ⟨target, visits, garbled⟩)
    · exact .inl ⟨_, unready⟩
    · right
      cases visits with
      | arrived => exact garbled
      | identified => rwa [onward_plain plain] at garbled
      | confirmed => rwa [onward_plain plain, onward_plain plain] at garbled
  · rintro (⟨failure, unready⟩ | garbled)
    · exact .unready found unready
    · exact .stumbled ⟨_, .arrived, garbled⟩

/-- With a database that obliges, a failure is told exactly when the body or the path could not be
read. Every other answer blames nobody, or the caller. -/
theorem failure_told_iff (choice : IdentityChoice) (lender : Sql.Lender) (header : String) (incoming : Incoming)
    (world : World σ) (state : σ)
    (obliging : (((service choice (enforcing lender) lender header).handle incoming).trace world state).all
      isObliging = true) :
    ((((service choice (enforcing lender) lender header).handle incoming).run world state).1.map (·.status) =
        some 500 ↔
      Overlooked header incoming
        (((service choice (enforcing lender) lender header).handle incoming).trace world state)) ∧
    (PlainTarget incoming.target →
      ((((service choice (enforcing lender) lender header).handle incoming).run world state).1.map (·.status) =
          some 500 ↔
        (∃ failure, Unready header incoming failure) ∨ Garbled Service.organizationPattern incoming.target)) ∧
    ∀ given, (((service choice (enforcing lender) lender header).handle incoming).run world state).1 = some given →
      given.status = 500 ∨ given.status ∈ ordinary := by
  have within : (steps (((service choice (enforcing lender) lender header).handle incoming).trace world state)).all
      isObliging = true := by
    rw [List.all_eq_true] at obliging ⊢
    exact fun asked member => obliging asked (List.mem_filter.mp member).1
  have fair := course_fair within (handle_course choice (enforcing lender) lender header incoming world state)
  have told := fair.failed_iff.trans Overlooked.steps_iff
  refine ⟨told, fun plain => told.trans (Overlooked.plain_iff plain _), ?_⟩
  intro given same
  rw [same] at fair
  exact fair.status

/-- A request whose body is announced as a record and ends within it. -/
def brokenBody : Incoming := ⟨"GET", "/v1/context", [("Content-Type", "application/json")], some [123]⟩

theorem brokenBody_failed :
    ((gatewayService.handle brokenBody).trace owning.world (.begin 0 [])).all isObliging = true ∧
    (∃ failure, Unready RequestId.standardHeader brokenBody failure) ∧
    ((gatewayService.handle brokenBody).run owning.world (.begin 0 [])).1.map (·.status) = some 500 := by
  have obliging : ((gatewayService.handle brokenBody).trace owning.world (.begin 0 [])).all isObliging = true := by
    decide +kernel
  have unready : ∃ failure, Unready RequestId.standardHeader brokenBody failure := by
    have broken : (Body.check brokenBody.toRequest brokenBody.body).isOk = false := by decide +kernel
    cases checked : Body.check brokenBody.toRequest brokenBody.body with
    | ok readable => simp [checked, Except.isOk, Except.toBool] at broken
    | error problem => exact ⟨_, .unreadable checked⟩
  have plain : PlainTarget brokenBody.target := ⟨by decide, by decide⟩
  exact ⟨obliging, unready, ((failure_told_iff _ _ _ _ _ _ obliging).2.1 plain).mpr (.inl unready)⟩

/-- A caller who is known, and whose organization is no text. -/
def garbledPath : Incoming :=
  ⟨"GET", "/v1/orgs/%ZZ", [("X-User-ID", "11111111-1111-1111-1111-111111111111"), ("X-Email", "ada@example.test")],
    none⟩

/-- The path is the caller's mistake, and the service takes the blame. -/
theorem garbledPath_failed :
    ((gatewayService.handle garbledPath).trace owning.world (.begin 0 [])).all isObliging = true ∧
    ((gatewayService.handle garbledPath).run owning.world (.begin 0 [])).1.map (·.status) = some 500 := by
  constructor
  · decide +kernel
  · decide +kernel

end TenantAccess.Proofs
