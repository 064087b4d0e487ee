import TenantAccess.Proofs.StageCourses
import TenantAccess.Proofs.ServiceWalk

/-! The way of a request through the three mounts of a guarded path. Each hands it on under
a target that was put back; wherever it strays from them, it is told so or a failure is
answered for. -/

namespace TenantAccess.Proofs

section
variable {post : List Exchanged → Option Answer → Prop} {done : List Exchanged}

/-- A request on its way, as it looks between two mounts. -/
def Request.at (arrival : Request) (target : String) (auth : Option AuthState) (tenant : Option TenantContext) :
    Request :=
  { arrival with target, path := Target.path? target, auth, tenant }

def onward (pattern : Pattern) (target : String) : String :=
  match (Target.path? target).map pattern.mounted with
  | some (.yes taken _) => String.ofList (Target.restored target.toList taken)
  | _ => target

structure Meets (pattern : Pattern) (target : String) (taken : List Char) (params : List (String × Option Json)) :
    Prop where
  met : ∃ path, Target.path? target = some path ∧ pattern.mounted path = .yes taken params

/-- A target that a mount on the pattern does not let in, and with which failure. -/
inductive Astray (pattern : Pattern) (target : String) : Option Failure → Prop where
  | unmatched {path : String} (found : Target.path? target = some path) (unmatched : pattern.mounted path = .no) :
      Astray pattern target none
  | garbled {path segment : String} (found : Target.path? target = some path)
      (garbled : pattern.mounted path = .undecodable segment) :
      Astray pattern target (some (Mount.undecodable segment))

/-- The answer to a request that is handed past everything, with a failure or without one. -/
def closing : Option Failure → Answer
  | none => Service.notFound
  | some failure => FailureAnswer.answer failure

def Exit.closing : Exit → List Exchanged
  | .answered _ | .gone => []
  | .handed failure _ => [answering (Proofs.closing failure)]

def Exit.result : Exit → Option Answer
  | .answered answer => some answer
  | .gone => none
  | .handed failure _ => some (Proofs.closing failure)

def Counts (failure : Option Failure) : Prop := ∀ raised, failure = some raised → Raised raised

def Closes (pattern : Pattern) (arrival : Request) (rest : List Mount) : Prop :=
  ∀ post done failure target auth tenant, HandedOn pattern arrival.target target → Counts failure →
    post (done ++ [answering (closing failure)]) (some (closing failure)) →
    Comes post done (Mount.dispatch rest Service.leave failure (Request.at arrival target auth tenant))

/-- The tenant stage lets a request pass, with a tenant or by passing over a failure. -/
structure Admits (isolation : Isolation) (request : Request) (looked : List Exchanged)
    (tenant : Option TenantContext) : Prop where
  admitted : ∃ failure inner, TenantCourse isolation request looked (.handed failure inner) ∧
    Failure.passed failure = .clear ∧ inner.tenant = tenant

variable (choice : IdentityChoice) (isolation : Isolation) (pattern : Pattern) (router : StageCourse)
  (arrival : Request)

inductive RouterLeg (target : String) (auth : AuthState) (tenant : Option TenantContext) :
    List Exchanged → Option Answer → Prop where
  | astray {failure : Option Failure} (astray : Astray pattern target failure) :
      RouterLeg target auth tenant [answering (closing failure)] (some (closing failure))
  | routed {taken : List Char} {params : List (String × Option Json)} {more : List Exchanged} {exit : Exit}
      (met : Meets pattern target taken params)
      (routed : router (Mount.enter (Request.at arrival target (some auth) tenant) taken params) more exit) :
      RouterLeg target auth tenant (more ++ exit.closing) exit.result

inductive TenantLeg (target : String) (auth : AuthState) : List Exchanged → Option Answer → Prop where
  | astray {failure : Option Failure} (astray : Astray pattern target failure) :
      TenantLeg target auth [answering (closing failure)] (some (closing failure))
  | stopped {taken : List Char} {params : List (String × Option Json)} {more : List Exchanged} {answer : Answer}
      (met : Meets pattern target taken params)
      (stopped : TenantCourse isolation (Mount.enter (Request.at arrival target (some auth) none) taken params)
        more (.answered answer)) :
      TenantLeg target auth more (some answer)
  | raised {taken : List Char} {params : List (String × Option Json)} {looked : List Exchanged} {failure : Failure}
      {inner : Request} (met : Meets pattern target taken params)
      (raised : TenantCourse isolation (Mount.enter (Request.at arrival target (some auth) none) taken params)
        looked (.handed (some failure) inner)) (counts : Raised failure) :
      TenantLeg target auth (looked ++ [answering (FailureAnswer.answer failure)])
        (some (FailureAnswer.answer failure))
  | left {taken : List Char} {params : List (String × Option Json)} {looked : List Exchanged}
      {failure : Option Failure} {inner request : Request} (met : Meets pattern target taken params)
      (left : TenantCourse isolation (Mount.enter (Request.at arrival target (some auth) none) taken params)
        looked (.handed failure inner)) (leaves : Failure.passed failure = .leaves) :
      TenantLeg target auth (looked ++ [answering (NotFoundPage.answer request)])
        (some (NotFoundPage.answer request))
  | passed {taken : List Char} {params : List (String × Option Json)} {looked more : List Exchanged}
      {tenant : Option TenantContext} {result : Option Answer} (met : Meets pattern target taken params)
      (admits : Admits isolation (Mount.enter (Request.at arrival target (some auth) none) taken params)
        looked tenant)
      (later : RouterLeg pattern router arrival (onward pattern target) auth tenant more result) :
      TenantLeg target auth (looked ++ more) result

inductive Journey : List Exchanged → Option Answer → Prop where
  | garbled {failure : Failure} (astray : Astray pattern arrival.target (some failure)) :
      Journey [answering (FailureAnswer.answer failure)] (some (FailureAnswer.answer failure))
  | refused {taken : List Char} {params : List (String × Option Json)} {marks : List Exchanged}
      {outcome : Option Outcome} {answer : Answer} (met : Meets pattern arrival.target taken params)
      (verified : Verified choice marks outcome)
      (refuses : Refuses choice (Mount.enter (Request.at arrival arrival.target none none) taken params)
        outcome answer) :
      Journey (marks ++ [answering answer]) (some answer)
  | gone {taken : List Char} {params : List (String × Option Json)} {marks : List Exchanged}
      {claims : Option Fields} (met : Meets pattern arrival.target taken params)
      (verified : Verified choice marks (some (.ok claims))) : Journey marks none
  | passed {taken : List Char} {params : List (String × Option Json)} {marks more : List Exchanged}
      {outcome : Option Outcome} {auth : AuthState} {result : Option Answer}
      (met : Meets pattern arrival.target taken params) (verified : Verified choice marks outcome)
      (attaches : Attaches choice (Mount.enter (Request.at arrival arrival.target none none) taken params)
        outcome auth)
      (later : TenantLeg isolation pattern router arrival (onward pattern arrival.target) auth more result) :
      Journey (marks ++ ⟨.attachAuth auth, ()⟩ :: more) result

end

section
variable {post : List Exchanged → Option Answer → Prop} {done : List Exchanged} {rest : List Mount} {leave : Next}
  {request : Request} {path : String}

@[simp] theorem enter_method (request : Request) (taken : List Char) (params : List (String × Option Json)) :
    (Mount.enter request taken params).method = request.method := by
  unfold Mount.enter
  split <;> rfl

@[simp] theorem enter_query (request : Request) (taken : List Char) (params : List (String × Option Json)) :
    (Mount.enter request taken params).query = request.query := by
  unfold Mount.enter
  split <;> rfl

@[simp] theorem enter_auth (request : Request) (taken : List Char) (params : List (String × Option Json)) :
    (Mount.enter request taken params).auth = request.auth := by
  unfold Mount.enter
  split <;> rfl

@[simp] theorem enter_tenant (request : Request) (taken : List Char) (params : List (String × Option Json)) :
    (Mount.enter request taken params).tenant = request.tenant := by
  unfold Mount.enter
  split <;> rfl

@[simp] theorem enter_ownSession (request : Request) (taken : List Char) (params : List (String × Option Json)) :
    (Mount.enter request taken params).ownSession = request.ownSession := by
  unfold Mount.enter
  split <;> rfl

theorem leaveTo_at {arrival : Request} {pattern : Pattern} {target : String} {taken : List Char}
    {params : List (String × Option Json)} (met : Meets pattern target taken params) (something : taken ≠ [])
    (auth : Option AuthState) (tenant : Option TenantContext) (inner : Request) :
    Mount.leaveTo (Request.at arrival target auth tenant) inner taken =
      Request.at arrival (onward pattern target) inner.auth inner.tenant := by
  obtain ⟨path, found, matched⟩ := met.met
  have put : onward pattern target = String.ofList (Target.restored target.toList taken) := by
    simp [onward, found, matched]
  have nonempty : taken.isEmpty = false := by simpa using something
  rw [put, Mount.leaveTo, nonempty]
  rfl

theorem Guarded.taken {pattern : Pattern} (guarded : Guarded pattern) {target : String} {taken : List Char}
    {params : List (String × Option Json)} (met : Meets pattern target taken params) :
    ∃ c more, taken = '/' :: c :: more ∧ more ≠ [] ∧ c.toLower = 'v' := by
  obtain ⟨path, -, matched⟩ := met.met
  obtain ⟨second, more, rfl, -⟩ := guarded.opened
  obtain ⟨-, raw, front, left, took, behind, rfl⟩ := mounted_takes matched
  obtain ⟨one, two, rest, after, opens, -, rfl⟩ := take?_opens took
  have letters := eq_of_beq opens.letters.1
  cases one with
  | nil => cases letters
  | cons c one =>
    have first : c.toLower = 'v' := (List.cons.inj letters).1.symm
    exact ⟨c, one ++ ('/' :: two ++ after) ++ behind, by simp, by simp, first⟩

theorem private_start {c : Char} (first : c.toLower = 'v') (rest : List Char) :
    isPublicPath (String.ofList ('/' :: c :: rest)) standardPublicPaths = false := by
  have other {d : Char} (differs : d.toLower ≠ 'v') : (d == c) = false := by
    rw [beq_eq_false_iff_ne]
    rintro rfl
    exact differs first
  have apart : ('h' == c) = false ∧ ('p' == c) = false ∧ ('d' == c) = false ∧ ('o' == c) = false ∧
      ('m' == c) = false := by
    exact ⟨other (by decide), other (by decide), other (by decide), other (by decide), other (by decide)⟩
  simp [isPublicPath, standardPublicPaths, List.isPrefixOf, apart]

theorem Guarded.private {pattern : Pattern} (guarded : Guarded pattern) {target : String} {taken : List Char}
    {params : List (String × Option Json)} (met : Meets pattern target taken params) {request : Request}
    (bare : request.baseUrl = "") :
    isPublicPath (Mount.enter request taken params).fullPath standardPublicPaths = false := by
  obtain ⟨c, more, rfl, longer, first⟩ := guarded.taken met
  -- A slash at the end of what was taken stays out of the base, and the first letter stays in.
  have based : ∃ rest, (if ('/' :: c :: more).getLast? = some '/' then ('/' :: c :: more).dropLast
      else '/' :: c :: more) = '/' :: c :: rest := by
    split
    · exact ⟨more.dropLast, by rw [List.dropLast_cons_of_ne_nil (by simp), List.dropLast_cons_of_ne_nil longer]⟩
    · exact ⟨more, rfl⟩
  obtain ⟨rest, base⟩ := based
  have path : (Mount.enter request ('/' :: c :: more) params).fullPath =
      String.ofList ('/' :: c ::
        (rest ++ ((Mount.enter request ('/' :: c :: more) params).path.getD "null").toList)) := by
    have entered : (Mount.enter request ('/' :: c :: more) params).baseUrl = String.ofList ('/' :: c :: rest) := by
      simp only [Mount.enter, List.isEmpty_cons, Bool.false_eq_true, if_false, base, bare, String.empty_append]
    rw [Request.fullPath, entered]
    apply String.toList_injective
    simp
  rw [path]
  exact private_start first _

/-- A failure that counts goes past every stage. -/
theorem raised_skips {failure : Failure} (counts : Raised failure) (rooted : request.path = some path)
    (pattern : Pattern) (run : Stage) : Mount.dispatch (⟨pattern, .stage run⟩ :: rest) leave (some failure) request =
      Mount.dispatch rest leave (some failure) request := by
  have passed : Failure.passed (some failure) = .failed failure := counts
  rw [Mount.dispatch]
  simp only [passed, rooted]

theorem raised_answered {failure : Failure} (counts : Raised failure) (rooted : request.path = some path)
    (answered : post (done ++ [answering (FailureAnswer.answer failure)]) (some (FailureAnswer.answer failure))) :
    Comes post done (Mount.dispatch [⟨[], .onFailure Service.onFailure⟩] leave (some failure) request) := by
  have passed : Failure.passed (some failure) = .failed failure := counts
  rw [Mount.dispatch]
  simp only [passed, rooted, mounted_everywhere, Service.onFailure, FailureAnswer.run, Bool.false_eq_true, if_false]
  have quiet : Comes (fun later _ => later = done) done
      (FailureAnswer.report failure (Mount.enter request [] [])) := by
    cases failure <;> exact fun _ => rfl
  refine quiet.bind ?_
  rintro _ _ rfl
  exact Comes.respond answered

theorem undecodable_counts (segment : String) : Raised (Mount.undecodable segment) := rfl

/-- A request that comes to the mount of a stage is let in, passes by, or is garbled. A stage
that is let in hands on under the target that was put back. -/
theorem mounted_comes {run : Stage} {course : StageCourse} (takes : Takes run course) {pattern : Pattern}
    (guarded : Guarded pattern) {arrival : Request} {target : String} {auth : Option AuthState}
    {tenant : Option TenantContext} {failure : Option Failure} (clear : Failure.passed failure = .clear)
    (rooted : ∃ path, Target.path? target = some path)
    (missed : ∀ failure, Astray pattern target failure →
      Comes post done (Mount.dispatch rest leave failure (Request.at arrival target auth tenant)))
    (entered : ∀ taken params more exit, Meets pattern target taken params →
      course (Mount.enter (Request.at arrival target auth tenant) taken params) more exit →
      exit.Leads post (done ++ more) fun failure inner =>
        Mount.dispatch rest leave failure (Request.at arrival (onward pattern target) inner.auth inner.tenant)) :
    Comes post done
      (Mount.dispatch (⟨pattern, .stage run⟩ :: rest) leave failure (Request.at arrival target auth tenant)) := by
  obtain ⟨path, found⟩ := rooted
  have known : (Request.at arrival target auth tenant).path = some path := found
  rw [Mount.dispatch]
  simp only [clear, known]
  cases matched : pattern.mounted path with
  | no => exact missed none (.unmatched found matched)
  | undecodable segment => exact missed _ (.garbled found matched)
  | yes taken params =>
    have met : Meets pattern target taken params := ⟨path, found, matched⟩
    refine takes post done _ _ fun more exit inside => ?_
    have leads := entered taken params more exit met inside
    cases exit with
    | answered answer => exact leads
    | gone => exact leads
    | handed failure inner =>
      have something : taken ≠ [] := by
        obtain ⟨c, behind, rfl, -⟩ := guarded.taken met
        exact List.cons_ne_nil _ _
      simp only [Exit.Leads, leaveTo_at met something]
      exact leads

end

section
variable {pattern : Pattern} {arrival : Request} {rest : List Mount} {post : List Exchanged → Option Answer → Prop}
  {done : List Exchanged} {target : String} {auth : AuthState} {tenant : Option TenantContext}
  {isolation : Isolation} {choice : IdentityChoice} {router : StageCourse} {run : Stage}

theorem Astray.counts {failure : Option Failure} (astray : Astray pattern target failure) : Counts failure := by
  intro raised same
  cases astray with
  | unmatched => cases same
  | garbled =>
    cases same
    exact undecodable_counts _

theorem Meets.again {taken : List Char} {params : List (String × Option Json)}
    (met : Meets pattern target taken params) (handed : HandedOn pattern arrival.target target) :
    HandedOn pattern arrival.target (onward pattern target) := by
  obtain ⟨path, found, matched⟩ := met.met
  have put : onward pattern target = String.ofList (Target.restored target.toList taken) := by
    simp [onward, found, matched]
  rw [put]
  exact handed.again found matched

/-- What one mount on the pattern does not take in, another one does not take in either. -/
theorem Astray.skips {failure : Option Failure} (astray : Astray pattern target failure) (run : Stage)
    (leave : Next) (auth : Option AuthState) :
    Mount.dispatch (⟨pattern, .stage run⟩ :: rest) leave failure (Request.at arrival target auth tenant) =
      Mount.dispatch rest leave failure (Request.at arrival target auth tenant) := by
  cases astray with
  | @unmatched path found unmatched =>
    have known : (Request.at arrival target auth tenant).path = some path := found
    rw [Mount.dispatch]
    simp only [Failure.passed, known, unmatched]
  | garbled found garbled => exact raised_skips (undecodable_counts _) found pattern run

variable (guarded : Guarded pattern) (takes : Takes run router) (closes : Closes pattern arrival rest)
  (settles : ∀ request more failure inner, router request more (.handed failure inner) → Counts failure)
  (arrived : ∃ path, Target.path? arrival.target = some path)
include guarded takes closes settles arrived

theorem routerLeg_comes {failure : Option Failure} (clear : Failure.passed failure = .clear)
    (handed : HandedOn pattern arrival.target target)
    (all : ∀ more result, RouterLeg pattern router arrival target auth tenant more result →
      post (done ++ more) result) :
    Comes post done (Mount.dispatch (⟨pattern, .stage run⟩ :: rest) Service.leave failure
      (Request.at arrival target (some auth) tenant)) := by
  refine mounted_comes takes guarded clear (handed.rooted guarded arrived) (fun failure astray => ?_) ?_
  · exact closes _ _ _ _ _ _ handed astray.counts (all _ _ (.astray astray))
  · intro taken params more exit met routed
    have answered := all _ _ (.routed met routed)
    cases exit with
    | answered answer => simpa [Exit.closing, Exit.result, Exit.Leads] using answered
    | gone => simpa [Exit.closing, Exit.result, Exit.Leads] using answered
    | handed failure inner =>
      refine closes _ _ _ _ _ _ (met.again handed) (settles _ _ _ _ routed) ?_
      simpa [Exit.closing, Exit.result] using answered

theorem tenantLeg_comes (handed : HandedOn pattern arrival.target target)
    (all : ∀ more result, TenantLeg isolation pattern router arrival target auth more result →
      post (done ++ more) result) :
    Comes post done (Mount.dispatch (⟨pattern, .stage isolation.run⟩ :: ⟨pattern, .stage run⟩ :: rest)
      Service.leave none (Request.at arrival target (some auth) none)) := by
  refine mounted_comes (isolation_takes isolation) guarded rfl (handed.rooted guarded arrived)
    (fun failure astray => ?_) ?_
  · rw [astray.skips]
    exact closes _ _ _ _ _ _ handed astray.counts (all _ _ (.astray astray))
  · intro taken params looked exit met course
    have again := met.again handed
    have rooted := again.rooted guarded arrived
    cases exit with
    | answered answer => exact all _ _ (.stopped met course)
    | gone => cases course
    | handed failure inner =>
      have auth_kept : inner.auth = some auth := by cases course <;> simp [Request.at]
      simp only [Exit.Leads, auth_kept]
      cases passed : Failure.passed failure with
      | clear =>
        -- A failure that does not count as given is passed over, and the routes see no tenant.
        refine routerLeg_comes guarded takes closes settles arrived passed again fun more result later => ?_
        rw [List.append_assoc]
        exact all _ _ (.passed met ⟨failure, inner, course, passed, rfl⟩ later)
      | leaves =>
        obtain ⟨path, found⟩ := rooted
        rw [Mount.dispatch]
        simp only [passed]
        refine Comes.respond ?_
        rw [List.append_assoc]
        exact all _ _ (.left met course passed)
      | failed raised =>
        obtain rfl := passed_failed passed
        obtain ⟨path, found⟩ := rooted
        rw [raised_skips passed found]
        refine closes _ _ _ _ _ _ again (by rintro _ ⟨⟩; exact passed) ?_
        rw [List.append_assoc]
        exact all _ _ (.raised met course passed)

theorem journey_comes
    (unmet : ∀ path, Target.path? arrival.target = some path → pattern.mounted path = .no →
      Comes post done (Mount.dispatch rest Service.leave none (Request.at arrival arrival.target none none)))
    (all : ∀ more result, Journey choice isolation pattern router arrival more result → post (done ++ more) result) :
    Comes post done (Mount.dispatch (⟨pattern, .stage choice.stage⟩ :: ⟨pattern, .stage isolation.run⟩ ::
      ⟨pattern, .stage run⟩ :: rest) Service.leave none (Request.at arrival arrival.target none none)) := by
  refine mounted_comes (identity_takes choice) guarded rfl arrived (fun failure astray => ?_) ?_
  · rw [astray.skips, astray.skips]
    -- Who is not let in may still be at home further on, unless there is a failure to answer for.
    cases failure with
    | none =>
      cases astray with
      | unmatched found unmatched => exact unmet _ found unmatched
    | some failure => exact closes _ _ _ _ _ _ .arrived astray.counts (all _ _ (.garbled astray))
  · intro taken params marks exit met course
    cases course with
    | refused verified refuses => exact all _ _ (.refused met verified refuses)
    | gone verified => exact all _ _ (.gone met verified)
    | attached verified attaches =>
      have tenantless : (Mount.enter (Request.at arrival arrival.target none none) taken params).tenant = none := by
        simp [Request.at]
      simp only [Exit.Leads, tenantless]
      refine tenantLeg_comes guarded takes closes settles arrived (met.again .arrived) fun more result later => ?_
      have passes := all _ _ (.passed met verified attaches later)
      simpa using passes

end

end TenantAccess.Proofs
