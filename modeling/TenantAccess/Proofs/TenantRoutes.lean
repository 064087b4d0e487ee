import TenantAccess.Proofs.GuardedStages

/-! The routes behind the tenant stage. They read data only under the organization that
was granted, and what they read is the only thing they answer with success. -/

namespace TenantAccess.Proofs

section
variable {pattern : Pattern} {arrival request : Request} {past : List Exchanged} {next : Next}

/-- A route that serves whenever what comes after it does. -/
def Routed (pattern : Pattern) (arrival : Request) (route : Route) : Prop :=
  ∀ past request leave, Facts pattern arrival past none request →
    (∀ current failure inner, Facts pattern arrival current failure inner →
      Serves arrival current (leave failure inner)) →
    Serves arrival past (Route.chain route.stages leave none request)

theorem allowed_serves (facts : Facts pattern arrival past none request)
    (polite : Route.isReading arrival.method = false) : Serves arrival past (Flow.respond Route.allowed) := by
  refine respond_serves facts (fun fields same => nomatch same) fun _ reading _ => ?_
  rw [polite] at reading
  cases reading

theorem dispatch_passed (routes : List Route) (asked : Bool) (leave : Next) (failure : Option Failure)
    (request : Request) : Route.dispatch routes asked leave failure request =
      match Failure.passed failure with
      | .failed raised => leave (some raised) request
      | .leaves => leave none request
      | .clear => Route.dispatch routes asked leave none request := by
  cases routes <;> simp only [Route.dispatch] <;> cases Failure.passed failure <;> rfl

/-- One failure is passed on as it is, a word to leave is not, and without either the
routes are tried. -/
theorem routes_settle {routes : List Route} {asked : Bool} {leave : Next} {failure : Option Failure}
    (resume : ∀ current failure inner, Facts pattern arrival current failure inner →
      Serves arrival current (leave failure inner))
    (tried : Facts pattern arrival past none request →
      Serves arrival past (Route.dispatch routes asked leave none request))
    (facts : Facts pattern arrival past failure request) :
    Serves arrival past (Route.dispatch routes asked leave failure request) := by
  rw [dispatch_passed]
  cases passed : Failure.passed failure with
  | failed raised =>
    rw [passed_failed passed] at facts
    exact resume _ _ _ facts
  | leaves => exact resume _ _ _ (facts.cleared fun raised same => by simp [passed] at same)
  | clear => exact tried (facts.cleared fun raised same => by simp [passed] at same)

theorem routes_serve {routes : List Route} (routed : ∀ route ∈ routes, Routed pattern arrival route)
    {asked : Bool} (polite : asked = true → Route.isReading arrival.method = false) {leave : Next}
    (resume : ∀ current failure inner, Facts pattern arrival current failure inner →
      Serves arrival current (leave failure inner))
    (facts : Facts pattern arrival past none request) :
    Serves arrival past (Route.dispatch routes asked leave none request) := by
  induction routes generalizing past request asked with
  | nil =>
    simp only [Route.dispatch, Failure.passed]
    split
    next polled => exact allowed_serves facts (polite polled)
    next => exact resume _ _ _ facts
  | cons route rest ih =>
    have others : ∀ other ∈ rest, Routed pattern arrival other :=
      fun other member => routed other (List.mem_cons_of_mem _ member)
    simp only [Route.dispatch, Failure.passed]
    split
    · exact ih others polite facts
    · split
      next =>
        refine routed route List.mem_cons_self _ _ _ facts fun _ _ _ inside => ?_
        exact routes_settle resume (ih others polite) inside
      next unread =>
        refine ih others (fun _ => ?_) facts
        rw [← facts.method]
        simpa using unread

theorem router_keeps {routes : List Route} (routed : ∀ route ∈ routes, Routed pattern arrival route) :
    Keeps pattern arrival (Route.router routes) :=
  fun _ _ _ facts _ resume => routes_serve routed (fun asked => nomatch (asked : false = true)) resume facts

def Reads (text : String) (asked : Exchanged) (_ : List Fields) : Prop :=
  ∃ session parameters, asked.question = .query session text parameters

theorem query_met (session : SessionKind) (text : String) (parameters : List Json)
    (permitted : Allowed arrival past (.query session text (some parameters))) :
    Safe (Allowed arrival) (Met (Reads text) past) past
      (Flow.request (.query session text (some parameters))) := by
  refine ⟨permitted, fun reply => ?_⟩
  cases reply with
  | error failure => exact Met.refused _ past (by simp [failures, databaseFailure?])
  | ok rows =>
    refine ⟨_, rfl, by simp [failures, databaseFailure?], fun value _ => ?_⟩
    exact ⟨_, List.mem_singleton_self _, session, some parameters, rfl⟩

theorem read_serves (lender : Sql.Lender) {statement : Request → TenantContext → Organizations.Statement}
    {answer : TenantContext → List Fields → Except Failure Answer}
    (facts : Facts pattern arrival past none request)
    (resume : ∀ current failure inner, Facts pattern arrival current failure inner →
      Serves arrival current (next failure inner))
    (permitted : ∀ tenant, request.tenant = some tenant → ∀ session current, past <+: current →
      Allowed arrival current (.query session (statement request tenant).text
        (some (statement request tenant).parameters)))
    (data : ∀ tenant, ReadsOrganization (statement request tenant).text ∨
      ReadsMembers (statement request tenant).text)
    (untold : ∀ tenant rows given, answer tenant rows = .ok given → Untold given) :
    Serves arrival past (Organizations.read lender statement answer request next) := by
  unfold Organizations.read
  split
  next => exact respond_error_serves facts _ (by decide)
  next tenant attached =>
    refine Safe.bind (inSession_met lender request.ownSession past fun session current later =>
      query_met session _ _ (permitted tenant attached session current later)) ?_
    intro current outcome _ met
    cases outcome with
    | error failure => exact raise_serves resume (facts.refused met)
    | ok rows =>
      simp only [Except.bind]
      split
      next failure _ => exact raise_serves resume ((facts.found met).failing failure)
      next given made =>
        refine respond_serves (facts.found met) (untold tenant rows given made) fun _ _ _ => ?_
        obtain ⟨more, rfl, -, found⟩ := met.since
        obtain ⟨asked, member, session, parameters, same⟩ := found rows rfl
        exact ⟨asked, List.mem_append_right _ member, session, _, parameters, same, data tenant⟩

theorem details_untold {tenant : TenantContext} {rows : List Fields} {given : Answer}
    (made : Organizations.details rows.head? tenant.role = .ok given) : Untold given := by
  unfold Organizations.details at made
  split at made
  · cases made
    exact error_untold _ _
  next row _ =>
    cases read : Organizations.ofRow row with
    | error failure => simp [read, Except.map] at made
    | ok organization =>
      simp only [read, Except.map, Except.ok.injEq] at made
      subst made
      intro fields content
      cases content
      rfl

theorem members_untold {rows : List Fields} {given : Answer} (made : Organizations.members rows = .ok given) :
    Untold given := by
  unfold Organizations.members at made
  cases read : rows.mapM Organizations.memberOfRow with
  | error failure => simp [read, Except.map] at made
  | ok members =>
    simp only [read, Except.map, Except.ok.injEq] at made
    subst made
    intro fields content
    cases content
    rfl

@[simp] theorem organizationStatement_parameters (tenant : TenantContext) :
    (Organizations.organizationStatement tenant).parameters = [.text tenant.organization] := rfl

@[simp] theorem membersStatement_parameters (tenant : TenantContext) (limit : Int) :
    (Organizations.membersStatement tenant limit).parameters = [.text tenant.organization] := rfl

theorem organization_routed (arrival : Request) (lender : Sql.Lender) :
    Routed Service.organizationPattern arrival ⟨[], [Organizations.readOrganization lender]⟩ := by
  intro past request leave facts resume
  change Serves arrival past (Organizations.read lender (fun _ tenant => Organizations.organizationStatement tenant)
    (fun tenant rows => Organizations.details rows.head? tenant.role) request leave)
  refine read_serves lender facts resume ?_ (fun tenant => .inl ⟨tenant, rfl⟩) fun _ _ _ => details_untold
  intro tenant attached session current later
  obtain ⟨grant, granted, rfl⟩ := facts.granted tenant attached
  simp only [organizationStatement_parameters]
  exact Allowed.organization (granted.later later)

theorem administers {role : Role} (meets : Role.nameMeets role.toText Role.admin.toText = true) :
    role = .owner ∨ role = .admin := by
  rw [Role.nameMeets_toText] at meets
  cases role with
  | owner => exact .inl rfl
  | admin => exact .inr rfl
  | member => exact absurd meets (by decide)

theorem administers_not {role : Role} (unmet : Role.nameMeets role.toText Role.admin.toText = false) :
    role = .member := by
  rw [Role.nameMeets_toText] at unmet
  cases role with
  | member => rfl
  | owner => exact absurd unmet (by decide)
  | admin => exact absurd unmet (by decide)

theorem members_routed (arrival : Request) (lender : Sql.Lender) :
    Routed Service.organizationPattern arrival
      ⟨[.literal "memberships"], [RoleGuard.run Role.admin.toText, Organizations.readMembers lender]⟩ := by
  intro past request leave facts resume
  change Serves arrival past (RoleGuard.run Role.admin.toText request
    (Route.chain [Organizations.readMembers lender] leave))
  unfold RoleGuard.run
  split
  next => exact report_serves facts (by decide) fun _ facts => respond_error_serves facts _ (by decide)
  next tenant attached =>
    split
    next meets =>
      refine ⟨.plain trivial, fun _ => ?_⟩
      change Serves arrival _ (Organizations.read lender
        (fun request tenant => Organizations.membersStatement tenant
          (Organizations.limitOf (request.query.get? "limit")))
        (fun _ rows => Organizations.members rows) request leave)
      refine read_serves lender (facts.asked (.pass none) () trivial) resume ?_
        (fun tenant => .inr ⟨tenant, _, rfl⟩) fun _ _ _ => members_untold
      intro other same session current later
      cases attached.symm.trans same
      obtain ⟨grant, granted, rfl⟩ := facts.granted tenant attached
      simp only [membersStatement_parameters]
      exact Allowed.members (granted.later ((List.prefix_append _ _).trans later)) (administers meets)
    next => exact report_serves facts (by decide) fun _ facts => respond_error_serves facts _ (by decide)

theorem organizations_keep (arrival : Request) (lender : Sql.Lender) :
    Keeps Service.organizationPattern arrival (Route.router (Organizations.routes lender)) := by
  refine router_keeps fun route member => ?_
  simp only [Organizations.routes, List.mem_cons, List.not_mem_nil, or_false] at member
  rcases member with rfl | rfl
  · exact organization_routed arrival lender
  · exact members_routed arrival lender

theorem under_opens {path : String} (under : organizationsPattern.mounted path ≠ .no) :
    ∃ one two rest, Opens "v1" "orgs" path.toList one two rest := by
  cases taken : Pattern.take? organizationsPattern path.toList with
  | none => exact absurd (mounted_no taken) under
  | some parts =>
    obtain ⟨one, two, rest, _, opens, -⟩ := take?_opens taken
    exact ⟨one, two, rest, opens⟩

/-- A request that sees the context was not found under the organizations. -/
theorem context_apart {arrival : Request} {params : List (String × Option Json)}
    (seen : Seen Service.contextPattern arrival params) : ¬ UnderOrganizations arrival := by
  rintro ⟨path, found, under⟩
  obtain ⟨other, taken, given, same, matched⟩ := seen.entered
  cases found.symm.trans same
  obtain ⟨one, two, rest, opens⟩ := under_opens under
  have apart : Pattern.take? Service.contextPattern path.toList = none := opens.excludes opens.notContext.2
  rw [show Service.contextPattern.mounted path = .no from mounted_no apart] at matched
  cases matched

theorem tell_routed (apart : ¬ UnderOrganizations arrival) :
    Routed Service.contextPattern arrival ⟨[], [CallerContext.tell]⟩ := by
  intro past request leave facts _
  refine ⟨.plain trivial, fun _ => ⟨fun under => absurd under apart, ?_, ?_⟩⟩
  · intro given fields tenant same content told set
    cases same
    cases content
    have shown : tenant = (request.tenant.map CallerContext.ofTenant).getD .null := by
      simpa [Fields.get?] using told.symm
    cases attached : request.tenant with
    | none => simp [attached, shown] at set
    | some known =>
      obtain ⟨grant, granted, rfl⟩ := facts.granted known attached
      exact ⟨grant, granted.later (List.prefix_append _ _), by simp [shown, attached]⟩
  · intro _ met member unhandled
    exact absurd unhandled ((facts.asked (.answer _) () trivial).settled member)

theorem context_keeps (arrival : Request) :
    Keeps Service.contextPattern arrival (Route.router CallerContext.routes) := by
  intro past request next facts seen resume
  refine router_keeps (fun route member => ?_) past request next facts seen resume
  simp only [CallerContext.routes, List.mem_singleton] at member
  subst member
  exact tell_routed (context_apart seen)

end
end TenantAccess.Proofs
