import TenantAccess.Proofs.GoneCallers
import TenantAccess.Proofs.StageWalks

/-! Whoever stays is answered. Every stage, every route and every mount either answers or hands on to one that
does; a caller is left without an answer only by going away while its token is verified. -/

namespace TenantAccess.Proofs

/-- A caller who stays until the verification of its token is over, if there is one. -/
def Stays (history : List Exchanged) : Prop := (⟨.closed, some false⟩ : Exchanged) ∉ history

/-- Every run of the flow comes to something, when the caller stays. -/
def Answers (flow : Flow (Option α)) : Prop :=
  ∀ history result, Runs flow history result → Stays history → result.isSome = true

theorem Stays.past {first second : List Exchanged} (stays : Stays (first ++ second)) : Stays second :=
  fun member => stays (List.mem_append_right _ member)

section
variable {flow : Flow α} {next : α → Flow (Option β)}

theorem Answers.done (value : β) : Answers (.done (some value)) := by
  rintro history result ⟨⟩ -
  rfl

theorem Answers.bind (answers : ∀ value, Answers (next value)) : Answers (flow >>= next) := by
  intro history result runs stays
  obtain ⟨first, value, second, rfl, -, later⟩ := runs.bind
  exact answers value second result later stays.past

theorem Answers.ask {question : Ask} {next : question.Reply → Flow (Option β)}
    (answers : ∀ reply, Answers (next reply)) : Answers (.ask question next) := by
  intro history result runs stays
  cases runs with
  | ask reply rest => exact answers reply _ result rest fun member => stays (List.mem_cons_of_mem _ member)

theorem Answers.respond (answer : Answer) : Answers (Flow.respond answer) := .ask fun _ => .done _

theorem Answers.further {flow : Flow (Option α)} {next : Option α → Flow (Option β)} (answers : Answers flow)
    (onward : ∀ answer, Answers (next (some answer))) : Answers (flow >>= next) := by
  intro history result runs stays
  obtain ⟨first, found, second, rfl, earlier, later⟩ := runs.bind
  cases found with
  | none => cases answers first none earlier fun member => stays (List.mem_append_left _ member)
  | some answer => exact onward answer second result later stays.past

end

abbrev NextAnswers (next : Next) : Prop := Onwards Answers (fun _ => True) next

abbrev Attends (run : Stage) : Prop := PassesOn Answers (fun _ => True) run

section
variable {request : Request} {next : Next} (answers : NextAnswers next)
include answers

theorem proceed_answers : Answers (Stage.proceed next request) := .ask fun _ => answers none request trivial

theorem raise_answers (failure : Failure) : Answers (Stage.raise next failure request) :=
  .ask fun _ => answers (some failure) request trivial

theorem judgeClaims_answers (claims : Option Fields) : Answers (TokenIdentity.judgeClaims request claims next) := by
  unfold TokenIdentity.judgeClaims
  split
  · exact .respond _
  · refine .bind fun outcome => ?_
    cases outcome with
    | error rejection => exact .bind fun _ => .respond _
    | ok identity => exact .bind fun _ => .bind fun _ => proceed_answers answers

theorem conclude_answers (stage : TokenIdentity) {signal : Signal} (stays : signal ≠ .duringRequest)
    (outcome : Outcome) : Answers (stage.conclude request signal outcome next) := by
  unfold TokenIdentity.conclude
  split
  · exact .bind fun _ => .respond _
  · rw [if_neg stays]
    exact judgeClaims_answers answers _

end

theorem watched_stays {closing : Option Bool} (stays : Stays (watched closing)) :
    signalOf closing ≠ .duringRequest := by
  have there : ¬ Gone closing := by
    rintro rfl
    exact stays (by simp [watched])
  rw [signalOf, if_neg there]
  nofun

theorem token_attends (stage : TokenIdentity) : Attends stage.run := by
  intro request next _ answers
  unfold TokenIdentity.run
  split
  · exact .bind fun _ => proceed_answers answers
  · split
    · exact .bind fun _ => proceed_answers answers
    · split
      · exact .respond _
      · intro history result runs stays
        obtain ⟨watching, signal, rest, rfl, watches, verifies⟩ := runs.bind
        obtain ⟨closing, rfl, rfl⟩ := watch_tells watches
        have there := watched_stays fun member => stays (List.mem_append_left _ member)
        have concluded (outcome : Outcome) : Answers (do
            let answer ← stage.conclude request (signalOf closing) outcome next
            Flow.request .unwatchClose
            pure answer) :=
          (conclude_answers answers stage there outcome).further fun _ => .ask fun _ => .done _
        exact Answers.bind concluded rest result verifies stays.past

theorem gateway_attends (stage : GatewayIdentity) : Attends stage.run := by
  intro request next _ answers
  unfold GatewayIdentity.run
  split
  · exact .bind fun _ => proceed_answers answers
  · split
    · exact .respond _
    · exact .bind fun _ => .bind fun _ => proceed_answers answers

theorem identity_attends (choice : IdentityChoice) : Attends choice.stage := by
  cases choice with
  | token stage => exact token_attends stage
  | gateway stage => exact gateway_attends stage

theorem isolation_attends (isolation : Isolation) : Attends isolation.run := by
  intro request next _ answers
  unfold Isolation.run
  split
  · exact proceed_answers answers
  · split
    · exact .bind fun _ => .respond _
    · exact .bind fun _ => .respond _
    · unfold Isolation.resolve
      split
      · exact .bind fun _ => .respond _
      · refine .bind fun outcome => ?_
        match outcome with
        | .error failure => exact raise_answers answers failure
        | .ok none => exact .bind fun _ => .respond _
        | .ok (some role) => exact .bind fun _ => .bind fun _ => proceed_answers answers

theorem read_attends (lender : Sql.Lender) (statement : Request → TenantContext → Organizations.Statement)
    (answer : TenantContext → List Fields → Except Failure Answer) :
    Attends (Organizations.read lender statement answer) := by
  intro request next _ answers
  unfold Organizations.read
  split
  · exact .respond _
  · refine .bind fun outcome => ?_
    split
    · exact raise_answers answers _
    · exact .respond _

theorem guard_attends (required : String) : Attends (RoleGuard.run required) := by
  intro request next _ answers
  unfold RoleGuard.run
  split
  · exact .bind fun _ => .respond _
  · split
    · exact proceed_answers answers
    · exact .bind fun _ => .respond _

theorem check_attends (lender : Sql.Lender) : Attends (Health.check lender) := by
  intro request next _ answers
  refine .bind fun outcome => ?_
  cases outcome with
  | ok rows => exact .respond _
  | error failure => exact .bind fun _ => .respond _

theorem onFailure_attends (failure : Failure) : Attends (Service.onFailure failure) :=
  fun _ _ _ _ => .bind fun _ => .respond _

theorem dispatch_answers (choice : IdentityChoice) (isolation : Isolation) (lender : Sql.Lender) (header : String)
    (failure : Option Failure) (request : Request) :
    Answers ((service choice isolation lender header).dispatch failure request) := by
  have stages : StagesPassOn Answers (fun _ => True) choice isolation lender :=
    ⟨.respond, identity_attends choice, isolation_attends isolation, check_attends lender, guard_attends,
      read_attends lender, onFailure_attends⟩
  exact dispatch_onwards stages ⟨fun _ _ _ => id, fun _ _ _ => id⟩ header failure request trivial

/-- Whoever stays is answered, whatever it asks for. -/
theorem handle_answers (choice : IdentityChoice) (isolation : Isolation) (lender : Sql.Lender) (header : String)
    (incoming : Incoming) : Answers ((service choice isolation lender header).handle incoming) := by
  have dispatched := dispatch_answers choice isolation lender header
  have refused (failure : Failure) :
      Answers ((service choice isolation lender header).refuse failure incoming.toRequest) :=
    (dispatched (some failure) _).further fun _ => .done _
  unfold Service.handle
  simp only
  split
  · exact Answers.further (.respond _) fun _ => .done _
  · split
    · exact refused _
    · split
      · exact .bind fun _ => (dispatched none _).further fun _ => .bind fun _ => .done _
      · exact refused _

end TenantAccess.Proofs
