import TenantAccess.Proofs.IdentityStages
import TenantAccess.Proofs.SessionWork

/-! The stages behind the identity stage: the tenant stage grants, the role guard lets
administrators pass, and the routes read data for what was granted. -/

namespace TenantAccess.Proofs

section
variable {pattern : Pattern} {arrival request : Request} {past : List Exchanged} {next : Next}

theorem Facts.failing (facts : Facts pattern arrival past none request) (failure : Failure) :
    Facts pattern arrival past (some failure) request :=
  ⟨facts.method, facts.query, facts.wholeTarget, facts.identified, facts.granted,
    fun met member => .inr ((facts.failed met member).resolve_left nofun)⟩

theorem Facts.refused (facts : Facts pattern arrival past none request) {mark : Exchanged → α → Prop}
    {final : List Exchanged} {failure : Failure} (met : Met mark past final (.error failure)) :
    Facts pattern arrival final (some failure) request := by
  obtain ⟨more, rfl, refused, -⟩ := met.since
  refine (facts.failing failure).later fun met member => .inl ?_
  rw [Except.error.inj (refused met member)]

theorem Facts.found (facts : Facts pattern arrival past none request) {mark : Exchanged → α → Prop}
    {final : List Exchanged} {value : α} (met : Met mark past final (.ok value)) :
    Facts pattern arrival final none request := by
  obtain ⟨more, rfl, refused, -⟩ := met.since
  exact facts.later fun met member => nomatch refused met member

/-- A failure that is passed over leaves nothing raised behind. -/
theorem Facts.cleared {failure : Option Failure} (facts : Facts pattern arrival past failure request)
    (unraised : ∀ raised, Failure.passed failure ≠ .failed raised) : Facts pattern arrival past none request := by
  refine ⟨facts.method, facts.query, facts.wholeTarget, facts.identified, facts.granted, fun met member => ?_⟩
  rcases facts.failed met member with rfl | quiet
  · exact .inr (unraised met)
  · exact .inr quiet

theorem Facts.tenanted (facts : Facts pattern arrival past none request) {grant : Grant}
    (granted : Granted pattern arrival past grant) :
    Facts pattern arrival (past ++ [⟨.attachTenant grant.tenant, ()⟩]) none
      { request with tenant := some grant.tenant } := by
  have later := facts.asked (.attachTenant grant.tenant) () trivial
  refine ⟨later.method, later.query, later.wholeTarget, later.identified, fun tenant attached => ?_, later.failed⟩
  cases Option.some.inj attached
  exact ⟨grant, granted.later (List.prefix_append _ _), rfl⟩

def Confirms (user organization : String) (asked : Exchanged) (found : Option Role) : Prop :=
  ∀ role, found = some role → ∃ session row rows, asked =
    ⟨.query session Membership.statement (some [.text user, .text organization]), .ok (row :: rows)⟩ ∧
    (Fields.get? row "role").bind Role.ofJson? = some role

/-- A role comes from the first row, and a stored role that is none makes no member. -/
theorem ofRows_reads (user organization : String) (rows : List Fields) (past : List Exchanged) :
    Safe (Allowed arrival) (fun final found => ∃ more, final = past ++ more ∧ failures more = [] ∧
      ∀ role, found = some role → ∃ row rest, rows = row :: rest ∧
        (Fields.get? row "role").bind Role.ofJson? = some role)
      past (Membership.ofRows user organization rows) := by
  cases rows with
  | nil => exact ⟨[], (List.append_nil past).symm, rfl, nofun⟩
  | cons row rest =>
    simp only [Membership.ofRows]
    split
    next role found =>
      refine ⟨[], (List.append_nil past).symm, rfl, fun other same => ⟨row, rest, rfl, ?_⟩⟩
      cases same
      exact found
    next => exact Safe.report (.plain (plain_report (by decide))) ⟨_, rfl, rfl, nofun⟩

theorem lookup_met (session : SessionKind) (user organization : String) (past : List Exchanged) :
    Safe (Allowed arrival) (Met (Confirms user organization) past) past
      (Membership.lookup session user organization) := by
  refine Safe.request (.housekeeping (.inl rfl)) fun reply => ?_
  cases reply with
  | error failure => exact Met.refused _ past (by simp [failures, databaseFailure?])
  | ok rows =>
    refine Safe.bind (ofRows_reads user organization rows _) ?_
    rintro current found - ⟨more, rfl, clean, first⟩
    refine ⟨_ :: more, by rw [List.append_assoc]; rfl, ?_, fun value same => ⟨_, List.mem_cons_self, ?_⟩⟩
    · intro met member
      rw [← List.singleton_append, failures_append, clean] at member
      cases member
    · cases same
      intro role held
      obtain ⟨row, rest, rfl, stored⟩ := first role held
      exact ⟨session, row, rest, rfl, stored⟩

theorem grant_confirmed (facts : Facts pattern arrival past none request)
    (seen : Seen pattern arrival request.params) {method : AuthMethod} {identity : Identity}
    (identified : request.auth = some ⟨method, some identity⟩) {resolved : ResolvedTenant}
    (resolves : ResolvedTenant.resolve identity request.params request.query = .ok resolved)
    {final : List Exchanged} {role : Role}
    (met : Met (Confirms identity.subject resolved.organization) past final (.ok (some role))) :
    Granted pattern arrival final ⟨identity, resolved, role⟩ := by
  obtain ⟨more, rfl, -, found⟩ := met.since
  obtain ⟨asked, member, confirms⟩ := found (some role) rfl
  obtain ⟨session, row, rows, rfl, stored⟩ := confirms role rfl
  obtain ⟨first, between, rfl⟩ := List.append_of_mem (facts.identified method identity identified)
  obtain ⟨second, third, rfl⟩ := List.append_of_mem member
  refine ⟨⟨first, method, between ++ second, session, row, rows, third, by simp, stored⟩,
    request.params, seen, ?_⟩
  rw [← facts.query]
  exact resolves

theorem resolution_refused (failure : ResolutionFailure) :
    failure.status ≠ 200 ∧ failure.message ≠ unhandledMessage := by
  cases failure <;> exact ⟨by decide, by decide⟩

theorem isolation_keeps (pattern : Pattern) (arrival : Request) (stage : Isolation) :
    Keeps pattern arrival stage.run := by
  intro past request next facts seen resume
  unfold Isolation.run
  split
  · exact proceed_serves resume facts
  · split
    next => exact report_serves facts (by decide) fun _ facts => respond_error_serves facts _ (by decide)
    next => exact report_serves facts (by decide) fun _ facts => respond_error_serves facts _ (by decide)
    next method identity identified =>
      unfold Isolation.resolve
      split
      next failure _ =>
        obtain ⟨refused, other⟩ := resolution_refused failure
        exact report_serves facts other fun _ facts => respond_error_serves facts _ refused
      next resolved resolves =>
        refine Safe.bind (inSession_met stage.lender request.ownSession past fun session current _ =>
          lookup_met session identity.subject resolved.organization current) ?_
        intro current outcome _ met
        cases outcome with
        | error failure => exact raise_serves resume (facts.refused met)
        | ok found =>
          cases found with
          | none =>
            exact report_serves (facts.found met) (by decide) fun _ facts =>
              respond_error_serves facts _ (by decide)
          | some role =>
            have granted := grant_confirmed facts seen identified resolves met
            refine ⟨.plain trivial, fun _ => ?_⟩
            exact report_serves ((facts.found met).tenanted granted) (by decide) fun _ facts =>
              proceed_serves resume facts

end
end TenantAccess.Proofs
