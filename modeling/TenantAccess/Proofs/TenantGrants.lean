import TenantAccess.Proofs.FlowSafety
import TenantAccess.Proofs.MountedPaths

/-! What is known of a request on its way through the service: who it was attached to,
which membership confirmed its tenant, and which failures of the database it has met. -/

namespace TenantAccess.Proofs

structure Grant where
  identity : Identity
  resolved : ResolvedTenant
  role : Role

def Grant.tenant (grant : Grant) : TenantContext :=
  ⟨grant.resolved.organization, grant.identity.subject, grant.role.toText⟩

/-- The identity was attached first; then its membership was looked up in the organization
that the request resolves to, and the first row had the role. -/
structure Granted (pattern : Pattern) (arrival : Request) (past : List Exchanged) (grant : Grant) : Prop where
  confirmed : ∃ first method second session row rows third,
    past = first ++ ⟨.attachAuth ⟨method, some grant.identity⟩, ()⟩ :: second ++
      ⟨.query session Membership.statement
        (some [.text grant.identity.subject, .text grant.resolved.organization]), .ok (row :: rows)⟩ :: third ∧
    (Fields.get? row "role").bind Role.ofJson? = some grant.role
  resolved : ∃ params, Seen pattern arrival params ∧
    ResolvedTenant.resolve grant.identity params arrival.query = .ok grant.resolved

theorem Granted.later {pattern : Pattern} {arrival : Request} {past current : List Exchanged} {grant : Grant}
    (granted : Granted pattern arrival past grant) (prior : past <+: current) :
    Granted pattern arrival current grant := by
  obtain ⟨more, rfl⟩ := prior
  obtain ⟨first, method, second, session, row, rows, third, rfl, role⟩ := granted.confirmed
  exact ⟨⟨first, method, second, session, row, rows, third ++ more, by simp, role⟩, granted.resolved⟩

/-- A failure that goes past everything but the stages that take failures. -/
def Raised (failure : Failure) : Prop := Failure.passed (some failure) = .failed failure

/-- A failure of which the caller learns nothing. -/
def Unhandled (failure : Failure) : Prop :=
  Raised failure ∧ ∀ message code, failure ≠ .ownership message code

theorem passed_failed {failure : Option Failure} {raised : Failure}
    (passed : Failure.passed failure = .failed raised) : failure = some raised := by
  cases failure with
  | none => cases passed
  | some given =>
    simp only [Failure.passed] at passed
    split at passed
    · cases passed
    · split at passed
      · cases passed
      · cases passed
        rfl

def databaseFailure? : Exchanged → Option Failure
  | ⟨.borrow, .error failure⟩ => some failure
  | ⟨.query _ _ _, .error failure⟩ => some failure
  | _ => none

def failures (past : List Exchanged) : List Failure := past.filterMap databaseFailure?

@[simp] theorem failures_append (first second : List Exchanged) :
    failures (first ++ second) = failures first ++ failures second := List.filterMap_append

def unhandledMessage : String := "unhandled request error"

/-- A question that is neither for the database nor tells of a failure. -/
def Plain : Ask → Prop
  | .borrow | .query _ _ _ => False
  | .report entry => ¬ (entry.severity = .error ∧ entry.message = unhandledMessage)
  | _ => True

theorem Plain.unfailed {asked : Exchanged} (plain : Plain asked.question) : databaseFailure? asked = none := by
  obtain ⟨question, reply⟩ := asked
  cases question <;> first | exact False.elim plain | rfl

theorem plain_failures {more : List Exchanged} (plain : ∀ asked ∈ more, Plain asked.question) :
    failures more = [] :=
  List.filterMap_eq_nil_iff.mpr fun asked member => (plain asked member).unfailed

theorem Plain.silent {question : Ask} (plain : Plain question) (reply : question.Reply) :
    failures [⟨question, reply⟩] = [] := by
  apply plain_failures
  intro asked member
  cases List.mem_singleton.mp member
  exact plain

def ReadsOrganization (text : String) : Prop :=
  ∃ tenant, text = (Organizations.organizationStatement tenant).text

def ReadsMembers (text : String) : Prop :=
  ∃ tenant limit, text = (Organizations.membersStatement tenant limit).text

/-- A statement that reads no data of any organization: it looks up a membership, limits a
session, or checks that the database is there. -/
def Housekeeping (text : String) : Prop :=
  text = Membership.statement ∨ (∃ limit, text = Sql.timeoutStatement limit) ∨ text = Health.statement

def DataRead (past : List Exchanged) : Prop :=
  ∃ asked ∈ past, ∃ session text parameters, asked.question = .query session text parameters ∧
    (ReadsOrganization text ∨ ReadsMembers text)

def unhandledEntry (arrival : Request) (failure : Failure) : LogEntry :=
  ⟨.error, [("error", .failure failure), LogEntry.text "method" arrival.method,
    LogEntry.text "path" arrival.wholeTarget], unhandledMessage⟩

/-- What may be asked where. Data is only read for a tenant that was granted before, and
only a failure that was raised is told as one. -/
inductive Allowed (arrival : Request) (past : List Exchanged) : Ask → Prop where
  | plain {question : Ask} (plain : Plain question) : Allowed arrival past question
  | borrow : Allowed arrival past .borrow
  | housekeeping {session : SessionKind} {text : String} {parameters : Option (List Json)}
      (keeps : Housekeeping text) : Allowed arrival past (.query session text parameters)
  | organization {session : SessionKind} {grant : Grant}
      (granted : Granted Service.organizationPattern arrival past grant) :
      Allowed arrival past (.query session (Organizations.organizationStatement grant.tenant).text
        (some [.text grant.resolved.organization]))
  | members {session : SessionKind} {grant : Grant} {limit : Int}
      (granted : Granted Service.organizationPattern arrival past grant)
      (administers : grant.role = .owner ∨ grant.role = .admin) :
      Allowed arrival past (.query session (Organizations.membersStatement grant.tenant limit).text
        (some [.text grant.resolved.organization]))
  | unhandled {failure : Failure} (unhandled : Unhandled failure) :
      Allowed arrival past (.report (unhandledEntry arrival failure))

/-- What is known of a request that is handed on, with a failure or without one. -/
structure Facts (pattern : Pattern) (arrival : Request) (past : List Exchanged) (failure : Option Failure)
    (request : Request) : Prop where
  method : request.method = arrival.method
  query : request.query = arrival.query
  wholeTarget : request.wholeTarget = arrival.wholeTarget
  identified : ∀ method identity, request.auth = some ⟨method, some identity⟩ →
    (⟨.attachAuth ⟨method, some identity⟩, ()⟩ : Exchanged) ∈ past
  granted : ∀ tenant, request.tenant = some tenant →
    ∃ grant, Granted pattern arrival past grant ∧ tenant = grant.tenant
  failed : ∀ met ∈ failures past, failure = some met ∨ ¬ Raised met

def UnderOrganizations (arrival : Request) : Prop :=
  ∃ path, Target.path? arrival.target = some path ∧ organizationsPattern.mounted path ≠ .no

def LeadsToGuarded (arrival : Request) : Prop :=
  ∃ path, Target.path? arrival.target = some path ∧
    (Service.organizationPattern.mounted path ≠ .no ∨ Service.contextPattern.mounted path ≠ .no)

def Handled (arrival : Request) (past : List Exchanged) (answer : Option Answer) (failure : Failure) : Prop :=
  answer = some Stage.internalError ∧ ∃ before after,
    past = before ++ ⟨.report (unhandledEntry arrival failure), ()⟩ :: ⟨.answer Stage.internalError, ()⟩ :: after

/-- What is known of an answer once it is given. -/
structure Answered (arrival : Request) (past : List Exchanged) (answer : Option Answer) : Prop where
  read : UnderOrganizations arrival → Route.isReading arrival.method = true →
    ∀ given, answer = some given → given.status = 200 → DataRead past
  told : ∀ given fields tenant, answer = some given → given.content = .json (.record fields) →
    Fields.get? fields "tenant" = some tenant → tenant ≠ .null →
    ∃ grant, Granted Service.contextPattern arrival past grant ∧ tenant = CallerContext.ofTenant grant.tenant
  failed : LeadsToGuarded arrival → ∀ met ∈ failures past, Unhandled met → Handled arrival past answer met

abbrev Serves (arrival : Request) (past : List Exchanged) (flow : Flow (Option Answer)) : Prop :=
  Safe (Allowed arrival) (Answered arrival) past flow

def Keeps (pattern : Pattern) (arrival : Request) (run : Stage) : Prop :=
  ∀ past request next, Facts pattern arrival past none request → Seen pattern arrival request.params →
    (∀ current failure inner, Facts pattern arrival current failure inner →
      Serves arrival current (next failure inner)) →
    Serves arrival past (run request next)

section
variable {pattern : Pattern} {arrival request : Request} {past current : List Exchanged}
  {failure : Option Failure}

theorem Facts.later (facts : Facts pattern arrival past failure request) {more : List Exchanged}
    (clean : ∀ met ∈ failures more, failure = some met ∨ ¬ Raised met) :
    Facts pattern arrival (past ++ more) failure request where
  method := facts.method
  query := facts.query
  wholeTarget := facts.wholeTarget
  identified method identity attached := List.mem_append_left _ (facts.identified method identity attached)
  granted tenant attached := by
    obtain ⟨grant, granted, same⟩ := facts.granted tenant attached
    exact ⟨grant, granted.later (List.prefix_append _ _), same⟩
  failed met member := by
    rw [failures_append] at member
    rcases List.mem_append.mp member with earlier | later
    · exact facts.failed met earlier
    · exact clean met later

theorem Facts.asked (facts : Facts pattern arrival past failure request) (question : Ask)
    (reply : question.Reply) (plain : Plain question) :
    Facts pattern arrival (past ++ [⟨question, reply⟩]) failure request :=
  facts.later (by rw [plain.silent reply]; exact nofun)

/-- Nothing that was raised is left when no failure is handed on. -/
theorem Facts.settled (facts : Facts pattern arrival past none request) {met : Failure}
    (member : met ∈ failures past) : ¬ Unhandled met := by
  intro unhandled
  rcases facts.failed met member with same | unraised
  · cases same
  · exact unraised unhandled.1

def Untold (answer : Answer) : Prop :=
  ∀ fields, answer.content = .json (.record fields) → Fields.get? fields "tenant" = none

theorem error_untold (status : Nat) (message : String) : Untold (.error status message) := by
  intro fields same
  cases same
  rfl

/-- An error tells of no data and of no tenant. -/
theorem Answered.error {status : Nat} {message : String} (refused : status ≠ 200)
    (failed : LeadsToGuarded arrival → ∀ met ∈ failures past, Unhandled met →
      Handled arrival past (some (.error status message)) met) :
    Answered arrival past (some (.error status message)) where
  read _ _ given same success := by
    cases same
    exact absurd success refused
  told given fields tenant same content told := by
    cases same
    rw [error_untold status message fields content] at told
    cases told
  failed := failed

theorem respond_serves (facts : Facts pattern arrival past none request) {answer : Answer}
    (untold : Untold answer)
    (read : UnderOrganizations arrival → Route.isReading arrival.method = true → answer.status = 200 →
      DataRead past) :
    Serves arrival past (Flow.respond answer) := by
  refine ⟨.plain trivial, fun _ => ⟨?_, ?_, ?_⟩⟩
  · intro under reading given same success
    cases same
    obtain ⟨asked, member, found⟩ := read under reading success
    exact ⟨asked, List.mem_append_left _ member, found⟩
  · intro given fields tenant same content told
    cases same
    rw [untold fields content] at told
    cases told
  · intro _ met member unhandled
    exact absurd unhandled ((facts.asked _ _ (by trivial)).settled member)

theorem respond_error_serves (facts : Facts pattern arrival past none request) {status : Nat} (message : String)
    (refused : status ≠ 200) : Serves arrival past (Flow.respond (.error status message)) :=
  respond_serves facts (error_untold status message) fun _ _ success => absurd success refused

theorem Answered.asked {answer : Option Answer} (answered : Answered arrival past answer) (question : Ask)
    (reply : question.Reply) (plain : Plain question) :
    Answered arrival (past ++ [⟨question, reply⟩]) answer where
  read under reading given same success := by
    obtain ⟨asked, member, found⟩ := answered.read under reading given same success
    exact ⟨asked, List.mem_append_left _ member, found⟩
  told given fields tenant same content told set := by
    obtain ⟨grant, granted, equal⟩ := answered.told given fields tenant same content told set
    exact ⟨grant, granted.later (List.prefix_append _ _), equal⟩
  failed guarded met member unhandled := by
    rw [failures_append, plain.silent reply, List.append_nil] at member
    obtain ⟨given, before, after, rfl⟩ := answered.failed guarded met member unhandled
    exact ⟨given, before, after ++ [⟨question, reply⟩], by simp⟩

end
end TenantAccess.Proofs
