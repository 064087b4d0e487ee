import TenantAccess.Proofs.VerifierFootprint
import TenantAccess.Stage.GatewayIdentity
import TenantAccess.Stage.TokenIdentity

/-! Both identity stages hand a request on only with what they attached, and never with
a failure. -/

namespace TenantAccess.Proofs

inductive IdentityChoice where
  | token (stage : TokenIdentity)
  | gateway (stage : GatewayIdentity)

def IdentityChoice.stage : IdentityChoice → Stage
  | .token stage => stage.run
  | .gateway stage => stage.run

theorem readClaims_inward (claims : Fields) : Asks Inward (Identity.readClaims claims) := by
  unfold Identity.readClaims
  split
  · trivial
  · split
    · exact ⟨plain_report (by decide), fun _ => trivial⟩
    · trivial

section
variable {pattern : Pattern} {arrival request : Request} {past : List Exchanged} {failure : Option Failure}
  {next : Next}

theorem Facts.attached (facts : Facts pattern arrival past none request) (auth : AuthState) :
    Facts pattern arrival (past ++ [⟨.attachAuth auth, ()⟩]) none { request with auth := some auth } := by
  have later := facts.asked (.attachAuth auth) () trivial
  refine ⟨later.method, later.query, later.wholeTarget, fun method identity attached => ?_, later.granted,
    later.failed⟩
  cases Option.some.inj attached
  simp

theorem plain_serves {flow : Flow α} {rest : α → Flow (Option Answer)} (plain : Asks Plain flow)
    (facts : Facts pattern arrival past none request)
    (serves : ∀ current value, Facts pattern arrival current none request →
      Serves arrival current (rest value)) :
    Serves arrival past (flow >>= rest) := by
  refine Safe.bind (plain.safe (fun _ _ => Allowed.plain) past) ?_
  rintro current value - ⟨more, rfl, within⟩
  exact serves _ value (facts.later (by rw [plain_failures within]; exact nofun))

theorem report_serves {severity : Severity} {fields : List (String × LogValue)} {message : String}
    {rest : Unit → Flow (Option Answer)} (facts : Facts pattern arrival past none request)
    (other : message ≠ unhandledMessage)
    (serves : ∀ current, Facts pattern arrival current none request → Serves arrival current (rest ())) :
    Serves arrival past (Flow.report severity fields message >>= rest) :=
  Safe.report (.plain (plain_report other)) (serves _ (facts.asked _ _ (plain_report other)))

variable (resume : ∀ current failure inner, Facts pattern arrival current failure inner →
  Serves arrival current (next failure inner))
include resume

theorem proceed_serves (facts : Facts pattern arrival past none request) :
    Serves arrival past (Stage.proceed next request) :=
  ⟨.plain trivial, fun _ => resume _ _ _ (facts.asked (.pass none) () trivial)⟩

theorem raise_serves {failure : Failure} (facts : Facts pattern arrival past (some failure) request) :
    Serves arrival past (Stage.raise next failure request) :=
  ⟨.plain trivial, fun _ => resume _ _ _ (facts.asked (.pass (some failure)) () trivial)⟩

theorem admitPublic_serves (facts : Facts pattern arrival past none request) :
    Serves arrival past (Stage.admitPublic request next) :=
  ⟨.plain trivial, fun _ => proceed_serves resume (facts.attached _)⟩

theorem gateway_serves (stage : GatewayIdentity) (facts : Facts pattern arrival past none request) :
    Serves arrival past (stage.run request next) := by
  unfold GatewayIdentity.run
  split
  · exact admitPublic_serves resume facts
  · split
    next rejection _ =>
      cases rejection <;> exact respond_error_serves facts _ (by decide)
    next identity _ =>
      refine ⟨.plain trivial, fun _ => ?_⟩
      refine report_serves (facts.attached _) (by decide) fun current facts => ?_
      exact proceed_serves resume facts

theorem accept_serves (identity : Identity) (facts : Facts pattern arrival past none request) :
    Serves arrival past (TokenIdentity.accept request identity next) := by
  refine ⟨.plain trivial, fun _ => ?_⟩
  refine report_serves (facts.attached _) (by decide) fun current facts => ?_
  exact proceed_serves resume facts

theorem judgeClaims_serves (claims : Option Fields) (facts : Facts pattern arrival past none request) :
    Serves arrival past (TokenIdentity.judgeClaims request claims next) := by
  unfold TokenIdentity.judgeClaims
  split
  · exact respond_error_serves facts _ (by decide)
  · refine plain_serves ((readClaims_inward _).weaken fun _ => Inward.plain) facts fun current outcome facts => ?_
    split
    · refine report_serves facts (by decide) fun current facts => ?_
      exact respond_error_serves facts _ (by decide)
    · exact accept_serves resume _ facts

theorem conclude_serves (stage : TokenIdentity) (signal : Signal) (outcome : Except Failure (Option Fields))
    (facts : Facts pattern arrival past none request) :
    Serves arrival past (stage.conclude request signal outcome next) := by
  unfold TokenIdentity.conclude
  split
  · refine report_serves facts (by decide) fun current facts => ?_
    exact respond_error_serves facts _ (by decide)
  · split
    · refine report_serves facts (by decide) fun current facts => ?_
      refine ⟨?_, ?_, ?_⟩
      · exact fun _ _ _ same => nomatch same
      · exact fun _ _ _ same => nomatch same
      · exact fun _ met member unhandled => absurd unhandled (facts.settled member)
    · exact judgeClaims_serves resume _ facts

theorem token_serves (stage : TokenIdentity) (facts : Facts pattern arrival past none request) :
    Serves arrival past (stage.run request next) := by
  have watched : Asks Plain TokenIdentity.watch := by
    refine ⟨trivial, fun _ => ⟨trivial, fun closed => ?_⟩⟩
    dsimp only [Flow.bind, bind, Flow.request]
    split
    · exact ⟨trivial, fun _ => trivial⟩
    · trivial
  unfold TokenIdentity.run
  split
  · exact ⟨.plain trivial, fun _ => proceed_serves resume (facts.attached _)⟩
  · split
    · exact admitPublic_serves resume facts
    · split
      · exact respond_error_serves facts _ (by decide)
      next token _ =>
        refine plain_serves watched facts fun current signal facts => ?_
        refine plain_serves (verifier_plain _ token signal) facts fun current outcome facts => ?_
        refine Safe.bind (conclude_serves resume stage signal outcome facts) ?_
        intro current answer _ answered
        exact ⟨.plain trivial, fun _ => answered.asked _ _ trivial⟩

end

theorem identity_keeps (pattern : Pattern) (arrival : Request) (choice : IdentityChoice) :
    Keeps pattern arrival choice.stage := by
  intro past request next facts _ resume
  cases choice with
  | token stage => exact token_serves resume stage facts
  | gateway stage => exact gateway_serves resume stage facts

end TenantAccess.Proofs
