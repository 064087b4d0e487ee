import TenantAccess.Proofs.ServiceWalk
import TenantAccess.Rehearsal.World

/-! No data of an organization reaches anybody but its members. Whoever is answered was
identified before, and looked up as a member of the very organization that is read. -/

namespace TenantAccess.Proofs

theorem organization_begins (tenant : TenantContext) :
    ∃ rest, (Organizations.organizationStatement tenant).text = "SELECT \"" ++ ("id" ++ rest) := by
  have cut : "SELECT \"id\", \"name\"\n      FROM \"organization\"\n      " =
      "SELECT \"" ++ ("id" ++ "\", \"name\"\n      FROM \"organization\"\n      ") := rfl
  unfold Organizations.organizationStatement
  simp only
  rw [cut, String.append_assoc, String.append_assoc, String.append_assoc]
  exact ⟨_, rfl⟩

theorem members_begins (tenant : TenantContext) (limit : Int) :
    ∃ rest, (Organizations.membersStatement tenant limit).text = "SELECT \"" ++ ("user" ++ rest) := by
  have cut : "SELECT \"user_id\", \"role\"\n      FROM \"membership\"\n      " =
      "SELECT \"" ++ ("user" ++ "_id\", \"role\"\n      FROM \"membership\"\n      ") := rfl
  unfold Organizations.membersStatement
  simp only
  rw [cut, String.append_assoc, String.append_assoc, String.append_assoc, String.append_assoc]
  exact ⟨_, rfl⟩

theorem organization_notMembers {text : String} (organization : ReadsOrganization text) :
    ¬ ReadsMembers text := by
  rintro ⟨other, limit, same⟩
  obtain ⟨tenant, rfl⟩ := organization
  obtain ⟨rest, begins⟩ := organization_begins tenant
  obtain ⟨more, opens⟩ := members_begins other limit
  have letters := congrArg String.toList (begins.symm.trans (same.trans opens))
  simp at letters

/-- No other statement begins like those that read data. -/
theorem other_statement {text : String} (differ : ∀ rest, text ≠ "SELECT \"" ++ rest) :
    ¬ ReadsOrganization text ∧ ¬ ReadsMembers text := by
  constructor
  · rintro ⟨tenant, rfl⟩
    obtain ⟨rest, same⟩ := organization_begins tenant
    exact differ _ same
  · rintro ⟨tenant, limit, rfl⟩
    obtain ⟨rest, same⟩ := members_begins tenant limit
    exact differ _ same

theorem Housekeeping.reads_none {text : String} (keeps : Housekeeping text) :
    ¬ ReadsOrganization text ∧ ¬ ReadsMembers text := by
  refine other_statement fun rest same => ?_
  rcases keeps with rfl | ⟨limit, rfl⟩ | rfl
  · have letters := congrArg String.toList same
    simp [Membership.statement] at letters
  · have cut : "SET statement_timeout = " = "SET" ++ " statement_timeout = " := rfl
    unfold Sql.timeoutStatement at same
    rw [cut, String.append_assoc] at same
    have letters := congrArg String.toList same
    simp at letters
  · have letters := congrArg String.toList same
    simp [Health.statement] at letters

/-- A query on an organization was asked for a caller who had been granted it. -/
structure ReadFor (arrival : Request) (before : List Exchanged) (parameters : Option (List Json))
    (grant : Grant) : Prop where
  granted : Granted Service.organizationPattern arrival before grant
  own : parameters = some [.text grant.resolved.organization]

/-- What the whole exchange of one request tells about tenants. -/
structure Isolated (arrival : Request) (trace : List Exchanged) (response : Option Response) : Prop where
  statements : ∀ asked ∈ trace, ∀ session text parameters, asked.question = .query session text parameters →
    Housekeeping text ∨ ReadsOrganization text ∨ ReadsMembers text
  organization : ∀ before session text parameters reply after,
    trace = before ++ ⟨.query session text parameters, reply⟩ :: after → ReadsOrganization text →
    ∃ grant, ReadFor arrival before parameters grant
  members : ∀ before session text parameters reply after,
    trace = before ++ ⟨.query session text parameters, reply⟩ :: after → ReadsMembers text →
    ∃ grant, ReadFor arrival before parameters grant ∧ (grant.role = .owner ∨ grant.role = .admin)
  success : UnderOrganizations arrival → arrival.method = "GET" ∨ arrival.method = "HEAD" →
    ∀ given, response = some given → given.status = 200 →
    ∃ before session text parameters reply after grant,
      trace = before ++ ⟨.query session text parameters, reply⟩ :: after ∧ ReadFor arrival before parameters grant ∧
      (ReadsOrganization text ∨ ReadsMembers text ∧ (grant.role = .owner ∨ grant.role = .admin))
  context : ∀ given fields tenant, response = some given → given.content = some (.json (.record fields)) →
    Fields.get? fields "tenant" = some tenant → tenant ≠ .null →
    ∃ grant, Granted Service.contextPattern arrival trace grant ∧
      tenant = .record [("organizationId", .text grant.resolved.organization),
        ("userId", .text grant.identity.subject), ("role", .text grant.role.toText)]

section
variable {arrival : Request} {past : List Exchanged} {session : SessionKind} {text : String}
  {parameters : Option (List Json)}

theorem Allowed.statement (allowed : Allowed arrival past (.query session text parameters)) :
    Housekeeping text ∨ ReadsOrganization text ∨ ReadsMembers text := by
  cases allowed with
  | plain plain => exact plain.elim
  | housekeeping keeps => exact .inl keeps
  | organization granted => exact .inr (.inl ⟨_, rfl⟩)
  | members granted administers => exact .inr (.inr ⟨_, _, rfl⟩)

theorem Allowed.reads (allowed : Allowed arrival past (.query session text parameters))
    (data : ReadsOrganization text ∨ ReadsMembers text) :
    ∃ grant, ReadFor arrival past parameters grant ∧
      (ReadsOrganization text ∨ ReadsMembers text ∧ (grant.role = .owner ∨ grant.role = .admin)) := by
  cases allowed with
  | plain plain => exact plain.elim
  | housekeeping keeps =>
    rcases data with organization | members
    · exact absurd organization keeps.reads_none.1
    · exact absurd members keeps.reads_none.2
  | organization granted => exact ⟨_, ⟨granted, rfl⟩, .inl ⟨_, rfl⟩⟩
  | members granted administers => exact ⟨_, ⟨granted, rfl⟩, .inr ⟨⟨_, _, rfl⟩, administers⟩⟩

end

theorem reading_method {method : String} (reading : method = "GET" ∨ method = "HEAD") :
    Route.isReading method = true := by
  rcases reading with rfl | rfl
  · rfl
  · rfl

/-- Whatever is asked of the service and whatever the world replies, each organization is
read and named only for its own members, and its list of members only for those who
administer it. -/
theorem tenants_isolated (choice : IdentityChoice) (isolation : Isolation) (lender : Sql.Lender) (header : String)
    (world : World σ) (state : σ) (incoming : Incoming) :
    Isolated incoming.toRequest
      (((service choice isolation lender header).handle incoming).trace world state)
      (((service choice isolation lender header).handle incoming).run world state).1 := by
  obtain ⟨within, answer, held, answered, sent⟩ :=
    (handle_responds choice isolation lender header incoming).holds world state
  rw [List.nil_append] at answered
  constructor
  · intro asked member session text parameters question
    obtain ⟨before, after, found⟩ := List.append_of_mem member
    have allowed := within before asked after found
    rw [question] at allowed
    exact allowed.statement
  · intro before session text parameters reply after found organization
    obtain ⟨grant, reads, -⟩ := (within before _ after found).reads (.inl organization)
    exact ⟨grant, reads⟩
  · intro before session text parameters reply after found members
    obtain ⟨grant, reads, organization | ⟨-, administers⟩⟩ := (within before _ after found).reads (.inr members)
    · exact absurd members (organization_notMembers organization)
    · exact ⟨grant, reads, administers⟩
  · intro under reading given same success
    obtain ⟨told, rfl, rfl⟩ := Option.map_eq_some_iff.mp (sent.symm.trans same)
    obtain ⟨asked, member, session, text, parameters, question, data⟩ :=
      answered.read under (reading_method reading) told rfl (ofAnswer_success success)
    obtain ⟨before, after, found⟩ := List.append_of_mem member
    obtain ⟨question, reply⟩ := asked
    obtain rfl := question
    obtain ⟨grant, reads, kind⟩ := (within before _ after found).reads data
    exact ⟨before, session, text, parameters, reply, after, grant, found, reads, kind⟩
  · intro given fields tenant same content told set
    obtain ⟨shown, rfl, rfl⟩ := Option.map_eq_some_iff.mp (sent.symm.trans same)
    exact answered.told shown fields tenant rfl (ofAnswer_content content) told set

def owning : Rehearsal.Props :=
  ⟨.ok (), fun _ _ => .ok [[("role", .text "owner"), ("user_id", .text "11111111-1111-1111-1111-111111111111")]],
    fun _ => .ok none, none, .ok (), "id"⟩

example : ((gatewayService.handle ⟨"GET", "/v1/orgs/22222222-2222-2222-2222-222222222222/memberships",
    [("X-User-ID", "11111111-1111-1111-1111-111111111111"), ("X-Email", "ada@example.test")], none⟩).run
      owning.world (.begin 0 [])).1.map (·.status) = some 200 := by decide +kernel

end TenantAccess.Proofs
