import TenantAccess.Proofs.GoneCallers
import TenantAccess.Proofs.MappedClaims
import TenantAccess.Stage.GatewayIdentity

/-! A gateway's headers and the claims of a token are read apart, and name the same callers. The one difference is an
organization that cannot be read: among claims it is left out with a warning, in a header it turns the request away. -/

namespace TenantAccess.Proofs

/-- A header as a claim in front of others; one that was not sent claims nothing. -/
def claiming (name : String) (header : Option String) (rest : Fields) : Fields :=
  match header with
  | none => rest
  | some text => (name, .text text) :: rest

def forwardedClaims (request : Request) : Fields :=
  claiming "sub" (request.header? "x-user-id") <| claiming "email" (request.header? "x-email") <|
    claiming "org_id" (request.header? "x-selected-org") []

def Lacks (request : Request) (name : String) : Prop :=
  request.header? name = none ∨ request.header? name = some ""

instance (request : Request) (name : String) : Decidable (Lacks request name) :=
  inferInstanceAs (Decidable (_ ∨ _))

def SelectsReadably (request : Request) : Prop :=
  Lacks request "x-selected-org" ∨
    ∃ text organization, request.header? "x-selected-org" = some text ∧ Holds text organization

def forwardedEntry (identity : Identity) : LogEntry :=
  ⟨.debug, [LogEntry.text "userId" identity.subject, LogEntry.optional "organizationId" identity.organization,
    LogEntry.text "source" "x-selected-org"], "gateway identity accepted"⟩

/-- The stage attached the identity and handed the request on. -/
def LetsIn (request : Request) (next : Next) (history : List Exchanged) (result : Option Answer)
    (identity : Identity) : Prop :=
  ∃ rest, history = ⟨.attachAuth ⟨.headers, some identity⟩, ()⟩ :: reporting (forwardedEntry identity) ::
      ⟨.pass none, ()⟩ :: rest ∧
    Runs (next none { request with auth := some ⟨.headers, some identity⟩ }) rest result

def TurnsAway (history : List Exchanged) (result : Option Answer) (answer : Answer) : Prop :=
  history = [answering answer] ∧ result = some answer

section
variable {request : Request}

theorem get?_claiming (claim name : String) (header : Option String) (rest : Fields) :
    (claiming claim header rest).get? name =
      if claim = name then (header.map Json.text).or (rest.get? name) else rest.get? name := by
  cases header with
  | none => simp [claiming]
  | some text =>
    by_cases same : claim = name
    · simp [claiming, Fields.get?, same]
    · simp [claiming, Fields.get?, same]

theorem forwarded_get? (request : Request) :
    (forwardedClaims request).get? "sub" = (request.header? "x-user-id").map .text ∧
    (forwardedClaims request).get? "email" = (request.header? "x-email").map .text ∧
    (forwardedClaims request).get? "preferred_username" = none ∧
    (forwardedClaims request).get? "org_id" = (request.header? "x-selected-org").map .text ∧
    (forwardedClaims request).get? "organization_id" = none := by
  have nothing (name : String) : Fields.get? [] name = none := rfl
  simp [forwardedClaims, get?_claiming, nothing]

theorem nonemptyHeader?_some {name text : String} :
    request.nonemptyHeader? name = some text ↔ request.header? name = some text ∧ text ≠ "" := by
  simp [Request.nonemptyHeader?, Option.filter_eq_some_iff]

theorem nonemptyHeader?_none {name : String} : request.nonemptyHeader? name = none ↔ Lacks request name := by
  unfold Request.nonemptyHeader? Lacks
  cases request.header? name with
  | none => simp
  | some text => simp [Option.filter]

/-- A header that is empty counts as not sent, and so does a claim. -/
theorem claim?_header {claims : Fields} {claim name : String}
    (said : claims.get? claim = (request.header? name).map .text) :
    Identity.claim? claims claim = (request.nonemptyHeader? name).map .text := by
  unfold Identity.claim? Request.nonemptyHeader?
  rw [said]
  cases request.header? name with
  | none => rfl
  | some text => by_cases empty : text = "" <;> simp [Option.filter, empty]

theorem firstGiven_alone {claims : Fields} {first second : String} {value : Option Json}
    (bare : claims.get? second = none) :
    FirstGiven claims first second value ↔ value = Identity.claim? claims first := by
  have found := firstClaim?_first claims first second
  have nothing : Identity.claim? claims second = none := by rw [Identity.claim?, bare]
  have only : Identity.firstClaim? claims [first, second] = Identity.claim? claims first := by
    rw [Identity.firstClaim?, List.findSome?_cons, List.findSome?_cons, nothing]
    cases Identity.claim? claims first <;> rfl
  rw [only] at found
  exact ⟨fun given => given.unique found, fun same => same ▸ found⟩

theorem forwarded_names (request : Request) (subject : String) : NamesSubject (forwardedClaims request) subject ↔
    ∃ text, request.nonemptyHeader? "x-user-id" = some text ∧ Holds text subject := by
  unfold NamesSubject
  rw [(forwarded_get? request).1]
  constructor
  · rintro ⟨text, sent, held⟩
    obtain ⟨user, found, same⟩ := Option.map_eq_some_iff.mp sent
    cases same
    exact ⟨text, nonemptyHeader?_some.mpr ⟨found, held.filled⟩, held⟩
  · rintro ⟨text, sent, held⟩
    exact ⟨text, by rw [(nonemptyHeader?_some.mp sent).1]; rfl, held⟩

theorem forwarded_mapping (request : Request) (identity : Identity) (entries : List LogEntry) :
    Mapping (forwardedClaims request) (.ok identity) entries ↔
      (∃ text, request.nonemptyHeader? "x-user-id" = some text ∧ Holds text identity.subject) ∧
        request.nonemptyHeader? "x-email" = some identity.email ∧
        Affiliates identity.subject ((request.nonemptyHeader? "x-selected-org").map .text) identity.organization
          entries := by
  obtain ⟨-, email, preferred, organization, other⟩ := forwarded_get? request
  have address := claim?_header email
  have named := claim?_header organization
  constructor
  · rintro (@⟨subject, email, given, organization, _, subjected, addressed, naming, affiliates⟩)
    rw [firstGiven_alone preferred, address] at addressed
    rw [firstGiven_alone other, named] at naming
    refine ⟨(forwarded_names request _).mp subjected, ?_, naming ▸ affiliates⟩
    obtain ⟨text, sent, same⟩ := Option.map_eq_some_iff.mp addressed.symm
    rw [sent, Json.text.inj same]
  · rintro ⟨subjected, sent, affiliates⟩
    refine .mapped ((forwarded_names request _).mpr subjected) ?_ ((firstGiven_alone other).mpr named.symm) affiliates
    rw [firstGiven_alone preferred, address, sent]
    rfl

theorem organization?_ok (subject : String) (selected organization : Option String) :
    GatewayIdentity.organization? selected = .ok organization ↔
      Affiliates subject (selected.map .text) organization [] := by
  cases selected with
  | none =>
    constructor
    · rintro ⟨⟩
      exact .unaffiliated
    · rintro ⟨⟩
      rfl
  | some text =>
    have held (organization : String) := parse?_holds text organization
    cases parsed : Uuid.parse? text with
    | none =>
      have refused : GatewayIdentity.organization? (some text) = .error .malformedOrganization := by
        simp only [GatewayIdentity.organization?, parsed]
      rw [refused]
      refine ⟨nofun, fun affiliates => ?_⟩
      cases affiliates with
      | named holds =>
        rw [(held _).mpr holds] at parsed
        cases parsed
    | some found =>
      have accepted : GatewayIdentity.organization? (some text) = .ok (some found) := by
        simp only [GatewayIdentity.organization?, parsed]
      rw [accepted]
      constructor
      · rintro ⟨⟩
        exact .named ((held _).mp parsed)
      · intro affiliates
        cases affiliates with
        | named holds => rw [((held _).mp parsed).unique holds]

theorem ofHeaders_ok (user email selected : Option String) (identity : Identity) :
    GatewayIdentity.ofHeaders user email selected = .ok identity ↔
      (∃ text, user = some text ∧ Holds text identity.subject) ∧ email = some identity.email ∧
        Affiliates identity.subject (selected.map .text) identity.organization [] := by
  constructor
  · intro read
    unfold GatewayIdentity.ofHeaders at read
    split at read
    next user email =>
      split at read
      next => cases read
      next subject parsed =>
        split at read
        next => cases read
        next organization found =>
          cases read
          exact ⟨⟨user, rfl, (parse?_holds ..).mp parsed⟩, rfl, (organization?_ok ..).mp found⟩
    next => cases read
  · rintro ⟨⟨text, rfl, held⟩, rfl, affiliates⟩
    simp only [GatewayIdentity.ofHeaders, (parse?_holds ..).mpr held, (organization?_ok ..).mpr affiliates]

theorem organization?_error {selected : Option String} {rejection : GatewayIdentity.Rejection}
    (rejected : GatewayIdentity.organization? selected = .error rejection) : rejection = .malformedOrganization := by
  unfold GatewayIdentity.organization? at rejected
  split at rejected
  · cases rejected
  · split at rejected
    · cases rejected
      rfl
    · cases rejected

theorem ofHeaders_error {user email selected : Option String} {rejection : GatewayIdentity.Rejection}
    (rejected : GatewayIdentity.ofHeaders user email selected = .error rejection) :
    rejection.answer.status = if user = none ∨ email = none then 401 else 400 := by
  unfold GatewayIdentity.ofHeaders at rejected
  split at rejected
  next user email =>
    rw [if_neg (by simp)]
    split at rejected
    next =>
      cases rejected
      rfl
    next =>
      split at rejected
      next unread =>
        cases rejected
        rw [organization?_error unread]
        rfl
      next => cases rejected
  next lacking =>
    cases rejected
    have missing : user = none ∨ email = none := by
      cases user with
      | none => exact .inl rfl
      | some user => cases email with
        | none => exact .inr rfl
        | some email => exact absurd rfl (lacking user email rfl)
    rw [if_pos missing]
    rfl

end

theorem gateway_runs (stage : GatewayIdentity) (request : Request) (next : Next) {history : List Exchanged}
    {result : Option Answer} (guarded : isPublicPath request.fullPath stage.publicPaths = false)
    (runs : Runs (stage.run request next) history result) :
    match GatewayIdentity.identityOf request with
    | .ok identity => LetsIn request next history result identity
    | .error rejection => TurnsAway history result rejection.answer := by
  unfold GatewayIdentity.run at runs
  rw [guarded] at runs
  cases identified : GatewayIdentity.identityOf request with
  | error rejection =>
    simp only [identified, Bool.false_eq_true, if_false] at runs ⊢
    obtain ⟨-, rest, rfl, ended⟩ := runs.asked
    obtain ⟨rfl, rfl⟩ := ended.ended
    exact ⟨rfl, rfl⟩
  | ok identity =>
    simp only [identified, Bool.false_eq_true, if_false] at runs ⊢
    obtain ⟨-, rest, rfl, reports⟩ := runs.asked
    obtain ⟨-, rest, rfl, passes⟩ := reports.asked
    obtain ⟨-, rest, rfl, later⟩ := passes.asked
    exact ⟨rest, rfl, later⟩

theorem LetsIn.unturned {request : Request} {next : Next} {history : List Exchanged} {result : Option Answer}
    {answer : Answer} {identity : Identity} (turned : TurnsAway history result answer) :
    ¬ LetsIn request next history result identity := by
  rintro ⟨rest, attached, -⟩
  rw [turned.1] at attached
  cases attached

theorem LetsIn.unique {request : Request} {next : Next} {history : List Exchanged} {result : Option Answer}
    {identity other : Identity} (one : LetsIn request next history result identity)
    (two : LetsIn request next history result other) : identity = other := by
  obtain ⟨rest, attached, -⟩ := one
  obtain ⟨more, again, -⟩ := two
  cases attached.symm.trans again
  rfl

/-- The headers name the same caller as their claims do when nothing is reported of the claims. -/
theorem identityOf_readClaims (request : Request) (identity : Identity) :
    GatewayIdentity.identityOf request = .ok identity ↔
      Runs (Identity.readClaims (forwardedClaims request)) [] (.ok identity) := by
  rw [GatewayIdentity.identityOf, ofHeaders_ok, ← forwarded_mapping]
  exact (readClaims_iff (forwardedClaims request) (.ok identity) []).symm

theorem readClaims_unreported {request : Request} {identity : Identity} {reports : List Exchanged}
    (runs : Runs (Identity.readClaims (forwardedClaims request)) reports (.ok identity))
    (readable : SelectsReadably request) : reports = [] := by
  obtain ⟨rfl, -⟩ := readClaims_settled runs
  obtain ⟨-, -, affiliates⟩ := (forwarded_mapping ..).mp ((readClaims_iff ..).mp runs)
  rw [List.map_eq_nil_iff]
  obtain lacking | ⟨text, organization, selected, held⟩ := readable
  · rw [nonemptyHeader?_none.mpr lacking] at affiliates
    exact (affiliates.unique .unaffiliated).2
  · rw [nonemptyHeader?_some.mpr ⟨selected, held.filled⟩] at affiliates
    exact (affiliates.unique (.named held)).2

/-- Behind a path that is not public, a gateway's headers let in exactly those whom the same claims name without a
warning. Claims whose organization cannot be read name somebody all the same; headers do not. Whoever is not let in is
answered, and nothing is attached: without a user or an address as one who did not say who it is, and else as one who
said it wrongly. -/
theorem identities_agree (stage : GatewayIdentity) (request : Request) (next : Next) (world : World σ) (state : σ)
    (guarded : isPublicPath request.fullPath stage.publicPaths = false) :
    (∀ identity, LetsIn request next ((stage.run request next).trace world state)
        ((stage.run request next).run world state).1 identity ↔
      Runs (Identity.readClaims (forwardedClaims request)) [] (.ok identity)) ∧
    (∀ identity reports, Runs (Identity.readClaims (forwardedClaims request)) reports (.ok identity) →
      SelectsReadably request → LetsIn request next ((stage.run request next).trace world state)
        ((stage.run request next).run world state).1 identity) ∧
    ((∀ identity, ¬ LetsIn request next ((stage.run request next).trace world state)
        ((stage.run request next).run world state).1 identity) →
      ∃ answer, TurnsAway ((stage.run request next).trace world state) ((stage.run request next).run world state).1
        answer ∧ answer.status = if Lacks request "x-user-id" ∨ Lacks request "x-email" then 401 else 400) := by
  have ran := gateway_runs stage request next guarded (trace_runs (stage.run request next) world state)
  have agree (identity : Identity) : LetsIn request next ((stage.run request next).trace world state)
      ((stage.run request next).run world state).1 identity ↔
        Runs (Identity.readClaims (forwardedClaims request)) [] (.ok identity) := by
    rw [← identityOf_readClaims]
    cases identified : GatewayIdentity.identityOf request with
    | error rejection =>
      simp only [identified] at ran
      exact ⟨fun admitted => absurd admitted (LetsIn.unturned ran), nofun⟩
    | ok found =>
      simp only [identified] at ran
      constructor
      · intro admitted
        rw [ran.unique admitted]
      · rintro ⟨⟩
        exact ran
  refine ⟨agree, fun identity reports runs readable => ?_, fun refused => ?_⟩
  · obtain rfl := readClaims_unreported runs readable
    exact (agree identity).mpr runs
  · cases identified : GatewayIdentity.identityOf request with
    | ok identity =>
      simp only [identified] at ran
      exact absurd ran (refused identity)
    | error rejection =>
      simp only [identified] at ran
      refine ⟨rejection.answer, ran, ?_⟩
      rw [ofHeaders_error identified]
      simp only [nonemptyHeader?_none]

/-- A caller whom a gateway forwards with an organization that is written in capitals, with blanks around it. -/
def forwardedRequest : Request :=
  (⟨"GET", "/v1/context", [("X-User-ID", "11111111-1111-1111-1111-11111111111A"), ("X-Email", "user@example.test"),
    ("X-Selected-Org", " 22222222-2222-2222-2222-22222222222B ")], none⟩ : Incoming).toRequest

theorem identities_agree_forwarded :
    isPublicPath forwardedRequest.fullPath [] = false ∧
    LetsIn forwardedRequest nobodyNext
      (((GatewayIdentity.mk []).run forwardedRequest nobodyNext).trace (leaving (.ok none)).world (.begin 0 []))
      (((GatewayIdentity.mk []).run forwardedRequest nobodyNext).run (leaving (.ok none)).world (.begin 0 [])).1
      ⟨"11111111-1111-1111-1111-11111111111a", "user@example.test",
        some "22222222-2222-2222-2222-22222222222b"⟩ := by
  have unlisted : isPublicPath forwardedRequest.fullPath [] = false := by decide +kernel
  obtain ⟨agree, -, -⟩ := identities_agree (GatewayIdentity.mk []) forwardedRequest nobodyNext
    (leaving (.ok none)).world (.begin 0 []) unlisted
  refine ⟨unlisted, (agree _).mpr ?_⟩
  rw [← identityOf_readClaims]
  decide +kernel

end TenantAccess.Proofs
