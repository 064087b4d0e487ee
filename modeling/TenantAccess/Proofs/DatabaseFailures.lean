import TenantAccess.Proofs.ServiceWalk
import TenantAccess.Rehearsal.World

/-! Which failures of the database are answered as failures. A value that does not count
as given, and either of the two words that leave a router, is passed on as if nothing had
happened. -/

namespace TenantAccess.Proofs
open Rehearsal

/-- The failure was told as one of the service, and all that its caller learned at once
after that is that there was one. -/
structure AnsweredFor (arrival : Request) (trace : List Exchanged) (response : Option Response)
    (failure : Failure) : Prop where
  told : ∃ before after, trace = before ++ ⟨.report (unhandledEntry arrival failure), ()⟩ ::
    ⟨.answer Stage.internalError, ()⟩ :: after
  answered : ∃ given, response = some given ∧ given.status = 500 ∧
    given.content = if arrival.method = "HEAD" then none else some Stage.internalError.content

theorem raised_iff (failure : Failure) : Raised failure ↔
    failure.isRaised = true ∧ failure ≠ Failure.leaveRoute ∧ failure ≠ Failure.leaveRouter := by
  simp only [Raised, Failure.passed]
  split
  next quiet =>
    constructor
    · intro passed
      cases passed
    · rintro ⟨raised, stays, -⟩
      simp [raised, stays] at quiet
  next loud =>
    simp only [Bool.or_eq_true, Bool.not_eq_true', beq_iff_eq, not_or, Bool.not_eq_false] at loud
    split
    next leaves =>
      constructor
      · intro passed
        cases passed
      · rintro ⟨-, -, stays⟩
        exact absurd (eq_of_beq leaves) stays
    next stays => exact ⟨fun _ => ⟨loud.1, loud.2, by simpa using stays⟩, fun _ => rfl⟩

theorem unhandled_iff (failure : Failure) : Unhandled failure ↔
    failure.isRaised = true ∧ failure ≠ Failure.leaveRoute ∧ failure ≠ Failure.leaveRouter ∧
      ∀ message code, failure ≠ .ownership message code := by
  rw [Unhandled, raised_iff, and_assoc, and_assoc]

theorem Allowed.told {arrival : Request} {past : List Exchanged} {failure : Failure} {entry : LogEntry}
    (same : entry = unhandledEntry arrival failure) (allowed : Allowed arrival past (.report entry)) :
    Unhandled failure := by
  cases allowed with
  | plain plain => exact absurd ⟨by rw [same]; rfl, by rw [same]; rfl⟩ plain
  | @unhandled raised unhandled =>
    have fields := congrArg LogEntry.fields same
    simp only [unhandledEntry, List.cons.injEq, Prod.mk.injEq, LogValue.failure.injEq, true_and, and_true] at fields
    rw [← fields]
    exact unhandled

/-- On its way to what is guarded a failure of the database is answered for exactly when it
counts as given, is no word that leaves a router, and does not refuse another
organization's data. -/
theorem database_failure_answered (choice : IdentityChoice) (isolation : Isolation) (lender : Sql.Lender)
    (header : String) (world : World σ) (state : σ) (incoming : Incoming)
    (guarded : LeadsToGuarded incoming.toRequest) {failure : Failure}
    (met : failure ∈ failures (((service choice isolation lender header).handle incoming).trace world state)) :
    AnsweredFor incoming.toRequest (((service choice isolation lender header).handle incoming).trace world state)
      (((service choice isolation lender header).handle incoming).run world state).1 failure ↔
    failure.isRaised = true ∧ failure ≠ Failure.leaveRoute ∧ failure ≠ Failure.leaveRouter ∧
      ∀ message code, failure ≠ .ownership message code := by
  obtain ⟨within, answer, held, answered, sent⟩ :=
    (handle_responds choice isolation lender header incoming).holds world state
  rw [List.nil_append] at answered
  rw [← unhandled_iff]
  constructor
  · rintro ⟨⟨before, after, found⟩, -⟩
    exact (within before _ _ found).told rfl
  · intro unhandled
    obtain ⟨rfl, before, after, found⟩ := answered.failed guarded failure met unhandled
    rcases ofAnswer_cases Stage.internalError incoming.toRequest held with ⟨-, -, below, -⟩ | shown
    · exact absurd below (by decide)
    · exact ⟨⟨before, after, found⟩, _, sent, shown⟩

def refusing (failure : Failure) : Props :=
  ⟨.ok (), fun _ _ => .error failure, fun _ => .ok none, none, .ok (), "id"⟩

/-- A caller with an organization, who asks for the context. -/
def contextAsked : Incoming :=
  ⟨"GET", "/v1/context", [("X-User-ID", "11111111-1111-1111-1111-111111111111"), ("X-Email", "ada@example.test"),
    ("X-Selected-Org", "22222222-2222-2222-2222-222222222222")], none⟩

theorem contextAsked_guarded : LeadsToGuarded contextAsked.toRequest := by
  have matched : Service.contextPattern.mounted "/v1/context" = .yes "/v1/context".toList [] := rfl
  exact ⟨"/v1/context", by decide +kernel, .inr (by rw [matched]; nofun)⟩

def refusal : Failure := .error "Error" "refused"

theorem refusal_answered :
    LeadsToGuarded contextAsked.toRequest ∧
    refusal ∈ failures ((gatewayService.handle contextAsked).trace (refusing refusal).world (.begin 0 [])) ∧
    AnsweredFor contextAsked.toRequest
      ((gatewayService.handle contextAsked).trace (refusing refusal).world (.begin 0 []))
      ((gatewayService.handle contextAsked).run (refusing refusal).world (.begin 0 [])).1 refusal := by
  have met : refusal ∈ failures
      ((gatewayService.handle contextAsked).trace (refusing refusal).world (.begin 0 [])) :=
    List.contains_iff_mem.mp (by decide +kernel)
  exact ⟨contextAsked_guarded, met, (database_failure_answered _ _ _ _ _ _ _ contextAsked_guarded met).mpr
    ⟨rfl, nofun, nofun, nofun⟩⟩

def nothing : Failure := .bare (some .null)

def refusesLookup (user organization : String) (failure : Failure) : Exchanged → Bool
  | ⟨.query _ statement parameters, .error raised⟩ =>
    statement == Membership.statement && parameters == some [.text user, .text organization] && raised == failure
  | _ => false

/-- The tenant stage looked up its caller's membership and was refused with a bare null, and
the caller was told of a context without a tenant. -/
theorem null_passed_on :
    LeadsToGuarded contextAsked.toRequest ∧
    ((gatewayService.handle contextAsked).trace (refusing nothing).world (.begin 0 [])).any
      (refusesLookup "11111111-1111-1111-1111-111111111111" "22222222-2222-2222-2222-222222222222" nothing) = true ∧
    ((gatewayService.handle contextAsked).run (refusing nothing).world (.begin 0 [])).1.map (·.status) = some 200 ∧
    ¬ AnsweredFor contextAsked.toRequest
      ((gatewayService.handle contextAsked).trace (refusing nothing).world (.begin 0 []))
      ((gatewayService.handle contextAsked).run (refusing nothing).world (.begin 0 [])).1 nothing := by
  have succeeded : ((gatewayService.handle contextAsked).run (refusing nothing).world (.begin 0 [])).1.map
      (·.status) = some 200 := by decide +kernel
  refine ⟨contextAsked_guarded, by decide +kernel, succeeded, ?_⟩
  rintro ⟨-, given, same, failed, -⟩
  rw [same, Option.map_some, failed] at succeeded
  cases succeeded

end TenantAccess.Proofs
