import TenantAccess.Proofs.DatabaseFailures
import TenantAccess.Proofs.ServiceCourses
import TenantAccess.Proofs.ServiceRuns

/-! Two runs compared by what their caller gets. Why a token was not accepted, and where and how
the database failed, makes no difference to the status and the content of the response. -/

namespace TenantAccess.Proofs
open Rehearsal

def Unwatched (history : List Exchanged) : Prop := ∀ asked ∈ history, asked.question ≠ .watchClose

/-- A token of the request was verified under this signal, and this is what came of it. It is the first
verification of the history, and what the verifier asked is a run of its own. -/
structure Verifies (stage : TokenIdentity) (incoming : Incoming) (history : List Exchanged) (signal : Signal)
    (outcome : Outcome) : Prop where
  ran : ∃ token before watching verifying after,
    (incoming.toRequest.header? "authorization").bind Bearer.token? = some token ∧
    history = before ++ (watching ++ (verifying ++ after)) ∧ Unwatched before ∧
    Runs TokenIdentity.watch watching signal ∧ Runs (stage.verifier.verify token signal) verifying outcome

/-- The token was not accepted, for whatever reason, by a caller who did not go away meanwhile. -/
def Denied (stage : TokenIdentity) (incoming : Incoming) (history : List Exchanged) : Prop :=
  ∃ signal outcome, Verifies stage incoming history signal outcome ∧ signal ≠ .duringRequest ∧
    ∀ claims, outcome ≠ .ok (some claims)

def Broken (history : List Exchanged) : Prop := ∃ name message, Failure.error name message ∈ failures history

def Shows (method : String) (answer : Answer) (response : Option Response) : Prop :=
  ∃ given, response = some given ∧ given.status = answer.status ∧
    given.content = if method = "HEAD" then none else some answer.content

/-- Both callers got a response, of this status and of one content. -/
structure Alike (status : Nat) (first second : Option Response) : Prop where
  told : ∃ one other, first = some one ∧ second = some other ∧ one.status = status ∧ other.status = status ∧
    one.content = other.content

theorem Shows.alike {method : String} {answer : Answer} {first second : Option Response}
    (one : Shows method answer first) (two : Shows method answer second) : Alike answer.status first second := by
  obtain ⟨given, rfl, status, content⟩ := one
  obtain ⟨other, rfl, again, same⟩ := two
  exact ⟨given, other, rfl, rfl, status, again, content.trans same.symm⟩

/-- Only a success can be left out because its caller holds it already. -/
theorem ofAnswer_shows {answer : Answer} (request : Request) (held : List (String × String))
    (failed : 300 ≤ answer.status) :
    Shows request.method answer (some (.ofAnswer answer request held)) := by
  rcases ofAnswer_cases answer request held with ⟨-, -, success, -⟩ | ⟨status, content⟩
  · omega
  · exact ⟨_, rfl, status, content⟩

/-- What begins no watch lies wholly before the first one. -/
theorem Unwatched.past {rest history before after : List Exchanged} {reply : Ask.watchClose.Reply}
    (apart : Unwatched rest) (same : rest ++ history = before ++ ⟨.watchClose, reply⟩ :: after) :
    ∃ more, before = rest ++ more ∧ history = more ++ ⟨.watchClose, reply⟩ :: after := by
  rcases List.append_eq_append_iff.mp same with ⟨more, rfl, rfl⟩ | ⟨more, rfl, tail⟩
  · exact ⟨more, rfl, rfl⟩
  · cases more with
    | nil => exact ⟨[], by simp, tail.symm⟩
    | cons first more =>
      obtain ⟨rfl, -⟩ := List.cons.inj tail
      exact absurd rfl (apart _ (List.mem_append_right _ List.mem_cons_self))

theorem Session.unwatched {lender : Sql.Lender} {session : List Exchanged} (whole : Session lender session) :
    Unwatched session := by
  have opened {opening : List Exchanged} (ready : Opening lender opening none) : Unwatched opening := by
    cases ready <;> simp [Unwatched]
  cases whole with
  | unlent | unready => simp [Unwatched]
  | used ready within =>
    simp only [Unwatched, List.forall_mem_append]
    refine ⟨⟨opened ready, fun asked member watches => ?_⟩, by simp⟩
    have working := within asked member
    rw [watches] at working
    exact working

theorem Aside.unwatched {question : Ask} (apart : Aside question) (reply : question.Reply) :
    Unwatched [⟨question, reply⟩] := by
  intro asked member watches
  obtain rfl := List.mem_singleton.mp member
  obtain rfl : question = .watchClose := watches
  exact apart

theorem watch_begins {watching : List Exchanged} {signal : Signal}
    (watched : Runs TokenIdentity.watch watching signal) : ∃ reply more, watching = ⟨.watchClose, reply⟩ :: more := by
  obtain ⟨reply, more, rfl, -⟩ := watched.asked
  exact ⟨reply, more, rfl⟩

theorem Denied.begun {stage : TokenIdentity} {incoming : Incoming} {history : List Exchanged}
    (denied : Denied stage incoming history) : ¬ Unwatched history := by
  obtain ⟨signal, outcome, ⟨token, before, watching, verifying, after, -, rfl, -, watched, -⟩, -⟩ := denied
  obtain ⟨reply, more, rfl⟩ := watch_begins watched
  exact fun quiet => quiet ⟨.watchClose, reply⟩ (by simp) rfl

theorem unaccepted_stayed {signal : Signal} {outcome : Outcome} (there : signal ≠ .duringRequest)
    (unaccepted : ∀ claims, outcome ≠ .ok (some claims)) : Unaccepted signal outcome := by
  match outcome with
  | .error failure => exact .rejected _ failure
  | .ok none => exact .unclaimed there
  | .ok (some claims) => exact absurd rfl (unaccepted claims)

section
variable {stage : TokenIdentity} {lends : Sql.Lender → Prop} {incoming : Incoming} {history : List Exchanged}
  {result : Option Answer} (woven : Woven (.token stage) lends incoming.toRequest.headers history result)
include woven

theorem Woven.verifies (begun : ¬ Unwatched history) :
    ∃ signal outcome, Verifies stage incoming history signal outcome := by
  have later {first rest : List Exchanged} (unwatched : Unwatched first)
      (ih : ¬ Unwatched rest → ∃ signal outcome, Verifies stage incoming rest signal outcome)
      (begun : ¬ Unwatched (first ++ rest)) :
      ∃ signal outcome, Verifies stage incoming (first ++ rest) signal outcome := by
    have remains : ¬ Unwatched rest := fun quiet => begun (List.forall_mem_append.mpr ⟨unwatched, quiet⟩)
    obtain ⟨signal, outcome, token, before, watching, verifying, after, presented, rfl, quiet, ran⟩ := ih remains
    exact ⟨signal, outcome, token, first ++ before, watching, verifying, after, presented, by simp,
      List.forall_mem_append.mpr ⟨unwatched, quiet⟩, ran⟩
  induction woven with
  | ended => exact absurd (fun _ member => absurd member List.not_mem_nil) begun
  | aside reply apart _ ih => exact later (apart.unwatched reply) ih begun
  | session _ whole _ ih => exact later whole.unwatched ih begun
  | verification chosen presented watched verified _ _ _ =>
    cases chosen
    have quiet : Unwatched [] := fun _ member => absurd member List.not_mem_nil
    exact ⟨_, _, _, [], _, _, _, presented, rfl, quiet, watched, verified⟩

theorem Woven.denied (denied : Denied stage incoming history) : result = some TokenIdentity.refusedToken := by
  obtain ⟨signal, outcome, verifies, there, unaccepted⟩ := denied
  obtain ⟨token, before, watching, verifying, after, presented, split, first, watched, verified⟩ := verifies
  obtain ⟨reply, more, rfl⟩ := watch_begins watched
  induction woven generalizing before with
  | ended => simp at split
  | aside _ apart _ ih =>
    obtain ⟨more, rfl, rest⟩ := (apart.unwatched _).past split
    exact ih more (fun asked member => first asked (List.mem_append_right _ member)) rest
  | session _ whole _ ih =>
    obtain ⟨more, rfl, rest⟩ := whole.unwatched.past split
    exact ih more (fun asked member => first asked (List.mem_append_right _ member)) rest
  | verification chosen offered began ran told _ _ =>
    cases chosen
    cases offered.symm.trans presented
    obtain ⟨again, following, begins⟩ := watch_begins began
    -- The history begins with a watch, so nothing of it lies before the first one.
    have bare : before = [] := by
      cases before with
      | nil => rfl
      | cons asked before =>
        rw [begins] at split
        obtain ⟨rfl, -⟩ := List.cons.inj split
        exact absurd rfl (first _ List.mem_cons_self)
    subst bare
    obtain ⟨rfl, rfl⟩ := began.unique watched split
    obtain ⟨rfl, rfl⟩ := ran.unique verified (List.append_cancel_left split)
    exact told (unaccepted_stayed there unaccepted)

end

theorem denied_told {stage : TokenIdentity} (isolation : Isolation) (lender : Sql.Lender) (header : String)
    (incoming : Incoming) (world : World σ) (state : σ)
    (denied : Denied stage incoming
      (((service (.token stage) isolation lender header).handle incoming).trace world state)) :
    Shows incoming.method TokenIdentity.refusedToken
      (((service (.token stage) isolation lender header).handle incoming).run world state).1 := by
  obtain ⟨result, woven, held, responds⟩ :=
    handle_woven (trace_runs ((service (.token stage) isolation lender header).handle incoming) world state)
  rw [responds, woven.denied denied]
  exact ofAnswer_shows incoming.toRequest held (by decide)

/-- Only steps can come back with a failure of the database. -/
theorem failures_steps (history : List Exchanged) : failures (steps history) = failures history := by
  unfold failures steps
  rw [List.filterMap_filter]
  refine congrArg (List.filterMap · history) (funext fun asked => ?_)
  obtain ⟨question, reply⟩ := asked
  cases question <;> rfl

theorem query_failures (session : SessionKind) (text : String) (parameters : Option (List Json))
    (reply : Except Failure (List Fields)) {failure : Failure}
    (met : failure ∈ failures [⟨.query session text parameters, reply⟩]) : reply = .error failure := by
  cases reply with
  | ok rows => cases met
  | error raised => rw [List.mem_singleton.mp met]

theorem opening_failures {lender : Sql.Lender} {opening : List Exchanged} {outcome : Option Failure}
    (opens : Opening lender opening outcome) {failure : Failure} (met : failure ∈ failures opening) :
    outcome = some failure := by
  cases opens with
  | unlent | unlimited => exact congrArg some (List.mem_singleton.mp met).symm
  | lent | limited => cases met

/-- A failure that was met on the way to an answer is what the question came to. -/
theorem asked_failures {lender : Sql.Lender} {ownSession : Bool} {text : String} {parameters : List Json}
    {looked : List Exchanged} {reply : Except Failure (List Fields)}
    (asked : Asked lender ownSession text parameters looked reply) {failure : Failure}
    (met : failure ∈ failures looked) : reply = .error failure := by
  cases asked with
  | own => exact query_failures _ _ _ _ met
  | unopened _ refused =>
    cases opening_failures refused met
    rfl
  | opened _ _ ready =>
    rw [failures_append, List.mem_append] at met
    rcases met with early | late
    · cases opening_failures ready early
    · exact query_failures _ _ _ _ late

section
variable (choice : IdentityChoice) (isolation : Isolation) (lender : Sql.Lender) (header : String)
  (incoming : Incoming) (world : World σ) (state : σ)

/-- On its way to what is guarded a request whose database failed comes to the one answer. -/
theorem guarded_broken (guarded : LeadsToGuarded incoming.toRequest)
    (broken : Broken (((service choice isolation lender header).handle incoming).trace world state)) :
    Shows incoming.method Stage.internalError
      (((service choice isolation lender header).handle incoming).run world state).1 := by
  obtain ⟨name, message, met⟩ := broken
  obtain ⟨-, answer, held, answered, sent⟩ :=
    (handle_responds choice isolation lender header incoming).holds world state
  rw [List.nil_append] at answered
  have unhandled : Unhandled (.error name message) := (unhandled_iff _).mpr ⟨rfl, nofun, nofun, nofun⟩
  obtain ⟨rfl, -⟩ := answered.failed guarded _ met unhandled
  rw [sent]
  exact ofAnswer_shows incoming.toRequest held (by decide)

theorem answering_unbroken (answer : Answer) : ¬ Broken [answering answer] := by
  rintro ⟨name, message, met⟩
  cases met

theorem health_broken {request : Request} {more : List Exchanged} {answer : Answer}
    (served : RoutesCourse (Health.routes lender) (healthCourse lender) request more (.answered answer))
    (broken : Broken more) : answer = Health.healthy false := by
  generalize ended : Exit.answered answer = exit at served
  cases served with
  | polled => exact absurd broken (answering_unbroken _)
  | passed => cases ended
  | served member matched reading course =>
    unfold healthCourse at course
    split at course
    · cases course with
      | checked asked =>
        cases ended
        obtain ⟨name, message, met⟩ := broken
        rw [failures_append, List.mem_append] at met
        rcases met with early | late
        · rw [asked_failures asked early]
          rfl
        · cases late
    · cases course
      exact absurd broken (answering_unbroken _)

/-- Elsewhere the database is asked for nothing but its health. -/
theorem unguarded_broken (unguarded : ¬ LeadsToGuarded incoming.toRequest)
    (broken : Broken (((service choice isolation lender header).handle incoming).trace world state)) :
    Shows incoming.method (Health.healthy false)
      (((service choice isolation lender header).handle incoming).run world state).1 := by
  have course := handle_course choice isolation lender header incoming world state
  obtain ⟨name, message, met⟩ := broken
  rw [← failures_steps] at met
  have stepped : Broken (steps (((service choice isolation lender header).handle incoming).trace world state)) :=
    ⟨name, message, met⟩
  generalize steps (((service choice isolation lender header).handle incoming).trace world state) = more at *
  generalize (((service choice isolation lender header).handle incoming).run world state).1 = response at *
  cases course with
  | pathless => exact absurd stepped (answering_unbroken _)
  | unready => exact absurd stepped (answering_unbroken _)
  | served held found _ _ course =>
    cases course with
    | health served =>
      rw [health_broken lender served stepped]
      exact ofAnswer_shows incoming.toRequest held (by decide)
    | organization _ found under => exact absurd ⟨_, found, .inl under⟩ unguarded
    | context _ found _ under => exact absurd ⟨_, found, .inr under⟩ unguarded
    | unknown => exact absurd stepped (answering_unbroken _)

end

/-- Two callers of one service cannot tell apart why their tokens were not accepted, nor at which of its
questions and with which error the database failed. Every verification that was begun came to something. -/
theorem failure_reasons_alike (choice : IdentityChoice) (isolation : Isolation) (lender : Sql.Lender)
    (header : String) (world : World σ) (state : σ) (other : World τ) (later : τ) :
    (∀ stage incoming, choice = .token stage →
      ¬ Unwatched (((service choice isolation lender header).handle incoming).trace world state) →
      ∃ signal outcome, Verifies stage incoming
        (((service choice isolation lender header).handle incoming).trace world state) signal outcome) ∧
    (∀ stage first second, choice = .token stage → first.method = second.method →
      Denied stage first (((service choice isolation lender header).handle first).trace world state) →
      Denied stage second (((service choice isolation lender header).handle second).trace other later) →
      Alike 401 (((service choice isolation lender header).handle first).run world state).1
        (((service choice isolation lender header).handle second).run other later).1) ∧
    ∀ incoming, Broken (((service choice isolation lender header).handle incoming).trace world state) →
      Broken (((service choice isolation lender header).handle incoming).trace other later) →
      (LeadsToGuarded incoming.toRequest →
        Alike 500 (((service choice isolation lender header).handle incoming).run world state).1
          (((service choice isolation lender header).handle incoming).run other later).1) ∧
      (¬ LeadsToGuarded incoming.toRequest →
        Alike 503 (((service choice isolation lender header).handle incoming).run world state).1
          (((service choice isolation lender header).handle incoming).run other later).1) := by
  refine ⟨?_, ?_, fun incoming one two => ⟨fun guarded => ?_, fun unguarded => ?_⟩⟩
  · rintro stage incoming rfl begun
    obtain ⟨_, woven, -⟩ :=
      handle_woven (trace_runs ((service (.token stage) isolation lender header).handle incoming) world state)
    exact woven.verifies begun
  · rintro stage first second rfl method one two
    have shown := denied_told isolation lender header second other later two
    rw [← method] at shown
    exact (denied_told isolation lender header first world state one).alike shown
  · exact (guarded_broken choice isolation lender header incoming world state guarded one).alike
      (guarded_broken choice isolation lender header incoming other later guarded two)
  · exact (unguarded_broken choice isolation lender header incoming world state unguarded one).alike
      (unguarded_broken choice isolation lender header incoming other later unguarded two)

def judgedIdentity : TokenIdentity := ⟨.consulted "stub", .auth0, standardPublicPaths⟩

def judgedService : Service :=
  service (.token judgedIdentity) ⟨.plain, true, standardPublicPaths⟩ .plain RequestId.standardHeader

/-- A verifier that comes to this, and a database that lends so and refuses every query. -/
def judging (outcome : Outcome) (lent : Except Failure Unit) : Props :=
  ⟨lent, fun _ _ => .error refusal, fun _ => outcome, none, .ok (), "id"⟩

def judgedTrace (props : Props) (incoming : Incoming) : List Exchanged :=
  (judgedService.handle incoming).trace props.world (.begin 0 [])

def judgedResponse (props : Props) (incoming : Incoming) : Option Response :=
  ((judgedService.handle incoming).run props.world (.begin 0 [])).1

def bearing (token : String) : Incoming := ⟨"GET", "/v1/context", [("Authorization", "Bearer " ++ token)], none⟩

theorem bearing_guarded : LeadsToGuarded (bearing "first").toRequest := by
  have matched : Service.contextPattern.mounted "/v1/context" = .yes "/v1/context".toList [] := rfl
  exact ⟨"/v1/context", by decide +kernel, .inr (by rw [matched]; nofun)⟩

def acceptedClaims : Fields :=
  [("sub", .text "11111111-1111-1111-1111-111111111111"), ("email", .text "ada@example.test"),
    ("org_id", .text "22222222-2222-2222-2222-222222222222")]

def unlent : Except Failure Unit := .error (.error "Error" "no session")

def healthAsked : Incoming := ⟨"GET", "/health", [], none⟩

theorem healthAsked_unguarded : ¬ LeadsToGuarded healthAsked.toRequest := by
  rintro ⟨path, found, mounted⟩
  have at_health : Target.path? healthAsked.toRequest.target = some "/health" := by decide +kernel
  cases at_health.symm.trans found
  rcases mounted with mounted | mounted <;> exact mounted rfl

theorem consulted_denied (token : String) (outcome : Outcome) {incoming : Incoming} {history : List Exchanged}
    (presented : (incoming.toRequest.header? "authorization").bind Bearer.token? = some token)
    (begins : history = [⟨.freshId, "id"⟩] ++ ([⟨.watchClose, ()⟩, ⟨.closed, none⟩] ++
      ([⟨.consult token .never, outcome⟩] ++ history.drop 4)))
    (unaccepted : ∀ claims, outcome ≠ .ok (some claims)) : Denied judgedIdentity incoming history :=
  ⟨.never, outcome, ⟨token, _, _, _, _, presented, begins, by simp [Unwatched],
    .ask _ (.ask _ (.done _)), .ask _ (.done _)⟩, nofun, unaccepted⟩

theorem failure_reasons_alike_judged :
    ¬ Unwatched (judgedTrace (judging (.ok none) unlent) (bearing "first")) ∧
    (∃ signal outcome, Verifies judgedIdentity (bearing "first")
      (judgedTrace (judging (.ok none) unlent) (bearing "first")) signal outcome) ∧
    Denied judgedIdentity (bearing "first") (judgedTrace (judging (.ok none) unlent) (bearing "first")) ∧
    Denied judgedIdentity (bearing "second") (judgedTrace (judging (.error refusal) unlent) (bearing "second")) ∧
    Alike 401 (judgedResponse (judging (.ok none) unlent) (bearing "first"))
      (judgedResponse (judging (.error refusal) unlent) (bearing "second")) ∧
    Broken (judgedTrace (judging (.ok (some acceptedClaims)) unlent) (bearing "first")) ∧
    Broken (judgedTrace (judging (.ok (some acceptedClaims)) (.ok ())) (bearing "first")) ∧
    Alike 500 (judgedResponse (judging (.ok (some acceptedClaims)) unlent) (bearing "first"))
      (judgedResponse (judging (.ok (some acceptedClaims)) (.ok ())) (bearing "first")) ∧
    Broken (judgedTrace (judging (.ok none) unlent) healthAsked) ∧
    Broken (judgedTrace (judging (.ok none) (.ok ())) healthAsked) ∧
    Alike 503 (judgedResponse (judging (.ok none) unlent) healthAsked)
      (judgedResponse (judging (.ok none) (.ok ())) healthAsked) := by
  have alike (props others : Props) := failure_reasons_alike (.token judgedIdentity)
    ⟨.plain, true, standardPublicPaths⟩ .plain RequestId.standardHeader props.world (.begin 0 [])
    others.world (.begin 0 [])
  have one : Denied judgedIdentity (bearing "first")
      (judgedTrace (judging (.ok none) unlent) (bearing "first")) :=
    consulted_denied "first" (.ok none) (by decide +kernel) (by with_unfolding_all rfl) nofun
  have two : Denied judgedIdentity (bearing "second")
      (judgedTrace (judging (.error refusal) unlent) (bearing "second")) :=
    consulted_denied "second" (.error refusal) (by decide +kernel) (by with_unfolding_all rfl) nofun
  have unopened : Broken (judgedTrace (judging (.ok (some acceptedClaims)) unlent) (bearing "first")) :=
    ⟨"Error", "no session", List.contains_iff_mem.mp (by decide +kernel)⟩
  have unanswered : Broken (judgedTrace (judging (.ok (some acceptedClaims)) (.ok ())) (bearing "first")) :=
    ⟨"Error", "refused", List.contains_iff_mem.mp (by decide +kernel)⟩
  have sick : Broken (judgedTrace (judging (.ok none) unlent) healthAsked) :=
    ⟨"Error", "no session", List.contains_iff_mem.mp (by decide +kernel)⟩
  have sicker : Broken (judgedTrace (judging (.ok none) (.ok ())) healthAsked) :=
    ⟨"Error", "refused", List.contains_iff_mem.mp (by decide +kernel)⟩
  exact ⟨one.begun, (alike _ (judging (.ok none) unlent)).1 _ _ rfl one.begun, one, two,
    (alike _ _).2.1 _ _ _ rfl rfl one two, unopened, unanswered,
    ((alike _ _).2.2 _ unopened unanswered).1 bearing_guarded, sick, sicker,
    ((alike _ _).2.2 _ sick sicker).2 healthAsked_unguarded⟩

end TenantAccess.Proofs
