import TenantAccess.Proofs.AgreeingIdentities
import TenantAccess.Proofs.SmallLetters
import TenantAccess.Proofs.StageCourses

/-! Identifiers of users and organizations on their way from an identity stage through the tenant stage. Whatever they
were read from, both are kept in their one form, and so the texts that name a tenant's organization are those that
differ from it in the case of ASCII letters only. -/

namespace TenantAccess.Proofs

/-- What a payload may name: the tenant's organization, in any case of its ASCII letters, and nothing else. -/
structure OwnsByName (tenant : TenantContext) : Prop where
  accepts : ∀ text, tenant.refusal? text = none ↔
    text.toList.map Char.toLower = tenant.organization.toList.map Char.toLower
  plain : ∀ text, tenant.refusal? text = none → Grouped hexDigits text.toList ∧ ∀ c ∈ text.toList, c.toNat < 0x80

theorem owns_by_name {tenant : TenantContext} (canonical : Canonical tenant.organization) : OwnsByName tenant := by
  have accepts (text : String) : tenant.refusal? text = none ↔
      text.toList.map Char.toLower = tenant.organization.toList := by
    rw [← lowercase_canonical canonical, TenantContext.refusal?]
    split
    next same => exact iff_of_true rfl same
    next other => exact iff_of_false nofun other
  refine ⟨fun text => by rw [canonical.lowered, accepts], fun text accepted => ?_⟩
  have same := (accepts text).mp accepted
  exact ⟨canonical.grouped same, canonical.ascii same⟩

structure CanonicalIdentity (identity : Identity) : Prop where
  subject : Canonical identity.subject
  organization : ∀ organization, identity.organization = some organization → Canonical organization

theorem Affiliates.canonical {subject : String} {named : Option Json} {organization : Option String}
    {entries : List LogEntry} (affiliates : Affiliates subject named organization entries) :
    ∀ own, organization = some own → Canonical own := by
  rintro own rfl
  cases affiliates with
  | named held => exact held.canonical

/-- An identity is attached in its one form, whether it was told by claims or by headers. -/
theorem Attaches.canonical {choice : IdentityChoice} {request : Request} {outcome : Option Outcome}
    {method : AuthMethod} {identity : Identity}
    (attaches : Attaches choice request outcome ⟨method, some identity⟩) : CanonicalIdentity identity := by
  cases attaches with
  | forwarded identified =>
    obtain ⟨⟨text, -, held⟩, -, affiliates⟩ := (ofHeaders_ok ..).mp identified
    exact ⟨held.canonical, affiliates.canonical⟩
  | @bearer _ _ claims mapped usable =>
    have mapping := ofClaims_mapping claims
    rw [usable] at mapping
    dsimp only [Except.map] at mapping
    generalize mapped.identity = identity at mapping ⊢
    cases mapping with
    | mapped subjected addressed naming affiliates =>
      obtain ⟨text, -, held⟩ := subjected
      exact ⟨held.canonical, affiliates.canonical⟩

theorem resolve_canonical {identity : Identity} {params : List (String × Option Json)} {query : Fields}
    {resolved : ResolvedTenant} (canonical : CanonicalIdentity identity)
    (resolves : ResolvedTenant.resolve identity params query = .ok resolved) : Canonical resolved.organization := by
  have ranked := resolve_ranked identity params query
  rw [resolves] at ranked
  by_cases affiliated : ∃ own, Owns identity own
  · obtain ⟨own, owned⟩ := affiliated
    obtain ⟨rfl, -⟩ := Ruling.found.inj (ranked.own own owned)
    exact canonical.organization _ owned.1
  · have unaffiliated : Unaffiliated identity := fun own owned => affiliated ⟨own, owned⟩
    cases given : params.lookup "org_id" with
    | some value => exact (ranked.path unaffiliated value given).canonical
    | none => exact (ranked.query unaffiliated given).canonical

/-- A stage's own steps in front of the steps of those it handed the request to, if it did. -/
def Exit.Followed (next : Next) (own taken : List Exchanged) (result : Option Answer) : Exit → Prop
  | .answered answer => taken = own ∧ result = some answer
  | .gone => taken = own ∧ result = none
  | .handed failure request =>
    ∃ history, Runs (next failure request) history result ∧ taken = own ++ steps history

/-- One stage, and the other with the request that the first hands on. -/
inductive AfterCourse (first second : StageCourse) (request : Request) : List Exchanged → Exit → Prop where
  | answered {own : List Exchanged} {answer : Answer} (course : first request own (.answered answer)) :
      AfterCourse first second request own (.answered answer)
  | gone {own : List Exchanged} (course : first request own .gone) : AfterCourse first second request own .gone
  | handed {own more : List Exchanged} {inner : Request} {exit : Exit} (course : first request own (.handed none inner))
      (later : second inner more exit) : AfterCourse first second request (own ++ more) exit

theorem Takes.after {run more : Stage} {first second : StageCourse} (takes : Takes run first)
    (follows : Takes more second)
    (clear : ∀ request own failure inner, first request own (.handed failure inner) → failure = none) :
    Takes (fun request next => Route.chain [run, more] next none request) (AfterCourse first second) := by
  intro post done request next all
  refine takes post done request _ fun own exit course => ?_
  cases exit with
  | answered answer => exact all _ _ (.answered course)
  | gone => exact all _ _ (.gone course)
  | handed failure inner =>
    obtain rfl := clear _ _ _ _ course
    refine follows post (done ++ own) inner next fun more exit later => ?_
    rw [List.append_assoc]
    exact all _ _ (.handed course later)

theorem Comes.ran (flow : Flow α) (done : List Exchanged) :
    Comes (fun later value => ∃ history, Runs flow history value ∧ later = done ++ steps history) done flow := by
  induction flow generalizing done with
  | done value => exact ⟨[], .done value, (List.append_nil done).symm⟩
  | ask question next ih =>
    intro reply
    refine (ih reply _).weaken ?_
    rintro later value ⟨history, runs, rfl⟩
    exact ⟨_, .ask reply runs, (steps_cons ⟨question, reply⟩ history done).symm⟩

theorem Takes.followed {run : Stage} {course : StageCourse} (takes : Takes run course) (request : Request) (next : Next)
    (world : World σ) (state : σ) : ∃ own exit, course request own exit ∧
      exit.Followed next own (steps ((run request next).trace world state)) ((run request next).run world state).1 := by
  have comes : Comes (fun taken result => ∃ own exit, course request own exit ∧ exit.Followed next own taken result) []
      (run request next) := by
    refine takes _ [] request next fun own exit course => ?_
    cases exit with
    | answered answer => exact ⟨own, _, course, rfl, rfl⟩
    | gone => exact ⟨own, _, course, rfl, rfl⟩
    | handed failure inner => exact (Comes.ran _ _).weaken fun taken result ran => ⟨own, _, course, ran⟩
  exact comes.holds world state

/-- Whatever is attached or looked up is in its one form, and the user of a tenant is somebody who was identified. -/
def Canonically (identified : Identity → Prop) : Ask → Prop
  | .attachAuth ⟨_, some identity⟩ => CanonicalIdentity identity
  | .attachTenant tenant =>
    Canonical tenant.organization ∧ ∃ identity, identified identity ∧ tenant.user = identity.subject
  | .query _ text (some parameters) => text = Membership.statement ∧
    ∃ user organization, parameters = [.text user, .text organization] ∧ Canonical user ∧ Canonical organization
  | _ => True

section
variable {identified : Identity → Prop} {own : List Exchanged} {exit : Exit}

theorem Verified.canonically {choice : IdentityChoice} {outcome : Option Outcome}
    (verified : Verified choice own outcome) : ∀ step ∈ own, Canonically identified step.question := by
  cases verified with
  | unasked => exact List.forall_mem_nil _
  | begun => simp [Canonically]
  | consulted => simp [Canonically]

theorem IdentityCourse.canonically {choice : IdentityChoice} {request : Request}
    (course : IdentityCourse choice request own exit) : ∀ step ∈ own, Canonically identified step.question := by
  cases course with
  | refused verified refuses =>
    exact List.forall_mem_append.mpr ⟨verified.canonically, by simp [Canonically, answering]⟩
  | gone verified => exact verified.canonically
  | @attached _ _ auth verified attaches =>
    refine List.forall_mem_append.mpr ⟨verified.canonically, List.forall_mem_singleton.mpr ?_⟩
    obtain ⟨method, identity⟩ := auth
    cases identity with
    | none => trivial
    | some identity => exact attaches.canonical

theorem IdentityCourse.hands {choice : IdentityChoice} {request inner : Request} {failure : Option Failure}
    (course : IdentityCourse choice request own (.handed failure inner)) : failure = none ∧
      ∀ method identity, inner.auth = some ⟨method, some identity⟩ → CanonicalIdentity identity ∧
        (⟨.attachAuth ⟨method, some identity⟩, ()⟩ : Exchanged) ∈ own := by
  cases course with
  | attached verified attaches =>
    refine ⟨rfl, fun method identity same => ?_⟩
    obtain rfl := Option.some.inj same
    exact ⟨attaches.canonical, by simp⟩

theorem Opening.canonically {lender : Sql.Lender} {failure : Option Failure} (opening : Opening lender own failure) :
    ∀ step ∈ own, Canonically identified step.question := by
  cases opening <;> simp [Canonically]

theorem LooksUp.canonically {isolation : Isolation} {request : Request} {identity : Identity}
    {resolved : ResolvedTenant} {reply : Except Failure (List Fields)}
    (looksUp : LooksUp isolation request identity resolved own reply) (canonical : CanonicalIdentity identity) :
    ∀ step ∈ own, Canonically identified step.question := by
  have organization := resolve_canonical canonical looksUp.resolves
  have lookup (session : SessionKind) : Canonically identified
      (.query session Membership.statement (some [.text identity.subject, .text resolved.organization])) :=
    ⟨rfl, _, _, rfl, canonical.subject, organization⟩
  cases looksUp.asked with
  | own reply => exact List.forall_mem_singleton.mpr (lookup .request)
  | unopened borrowed refused => exact refused.canonically
  | opened reply borrowed ready =>
    exact List.forall_mem_append.mpr ⟨ready.canonically, List.forall_mem_singleton.mpr (lookup .pool)⟩

theorem TenantCourse.canonically {isolation : Isolation} {request : Request}
    (course : TenantCourse isolation request own exit)
    (attached : ∀ method identity, request.auth = some ⟨method, some identity⟩ →
      CanonicalIdentity identity ∧ identified identity) : ∀ step ∈ own, Canonically identified step.question := by
  have attaches {identity : Identity} {resolved : ResolvedTenant} {looked : List Exchanged}
      {reply : Except Failure (List Fields)} (looksUp : LooksUp isolation request identity resolved looked reply) :
      CanonicalIdentity identity ∧ identified identity := by
    obtain ⟨method, same⟩ := looksUp.identified
    exact attached method identity same
  cases course with
  | bypassed => exact List.forall_mem_nil _
  | unattached => simp [Canonically, answering]
  | anonymous => simp [Canonically, answering]
  | unresolved => simp [Canonically, answering]
  | unreachable looksUp => exact looksUp.canonically (attaches looksUp).1
  | stranger looksUp =>
    exact List.forall_mem_append.mpr ⟨looksUp.canonically (attaches looksUp).1, by simp [Canonically, answering]⟩
  | member grant looksUp =>
    obtain ⟨canonical, known⟩ := attaches looksUp
    refine List.forall_mem_append.mpr ⟨looksUp.canonically canonical, List.forall_mem_singleton.mpr ?_⟩
    exact ⟨resolve_canonical canonical looksUp.resolves, grant.identity, known, rfl⟩

theorem AfterCourse.canonically {choice : IdentityChoice} {isolation : Isolation} {request : Request}
    (course : AfterCourse (IdentityCourse choice) (TenantCourse isolation) request own exit) :
    ∀ step ∈ own, Canonically
      (fun identity => ∃ method, (⟨.attachAuth ⟨method, some identity⟩, ()⟩ : Exchanged) ∈ own) step.question := by
  cases course with
  | answered course => exact course.canonically
  | gone course => exact course.canonically
  | handed course later =>
    refine List.forall_mem_append.mpr ⟨course.canonically, later.canonically fun method identity same => ?_⟩
    obtain ⟨canonical, member⟩ := course.hands.2 method identity same
    exact ⟨canonical, method, List.mem_append_left _ member⟩

end

/-- Behind either identity stage, whatever the tenant stage attaches and looks up is in its one form, and so is what the
identity stage attached before. A payload may therefore name the organization of such a tenant in any case of its ASCII
letters, and no text but these passes for it. -/
theorem tenants_canonical (choice : IdentityChoice) (isolation : Isolation) (request : Request) (next : Next)
    (world : World σ) (state : σ) :
    ∃ (own : List Exchanged) (exit : Exit),
      exit.Followed next own (steps ((Route.chain [choice.stage, isolation.run] next none request).trace world state))
        ((Route.chain [choice.stage, isolation.run] next none request).run world state).1 ∧
      (∀ step ∈ own, Canonically
        (fun identity => ∃ method, (⟨.attachAuth ⟨method, some identity⟩, ()⟩ : Exchanged) ∈ own) step.question) ∧
      ∀ tenant, (⟨.attachTenant tenant, ()⟩ : Exchanged) ∈ own → OwnsByName tenant := by
  have takes := Takes.after (identity_takes choice) (isolation_takes isolation)
    fun request own failure inner course => course.hands.1
  obtain ⟨own, exit, course, followed⟩ := takes.followed request next world state
  refine ⟨own, exit, followed, course.canonically, fun tenant member => ?_⟩
  obtain ⟨organization, -⟩ := course.canonically _ member
  exact owns_by_name organization

end TenantAccess.Proofs
