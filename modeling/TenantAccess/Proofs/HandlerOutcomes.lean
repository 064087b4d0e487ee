import TenantAccess.Proofs.GoneCallers
import TenantAccess.Proofs.ServiceRuns

/-! How each handler comes to its end. Of all that is done from its call on some is its own and the rest is done by
those after it, whoever they are. Of its own doing there is one answer or one call of those after it, never both, and
neither only where the caller went away from a verification. -/

namespace TenantAccess.Proofs

/-- Everything that is mounted and ends with an answer or with a call of what comes next. -/
inductive Handler where
  | identity (choice : IdentityChoice)
  | tenant (isolation : Isolation)
  | role (required : String)
  | organization (lender : Sql.Lender)
  | members (lender : Sql.Lender)

def Handler.run : Handler → Stage
  | .identity choice => choice.stage
  | .tenant isolation => isolation.run
  | .role required => RoleGuard.run required
  | .organization lender => Organizations.readOrganization lender
  | .members lender => Organizations.readMembers lender

def Handler.Identifies : Handler → Prop
  | .identity _ => True
  | _ => False

def passing (failure : Option Failure) : Exchanged := ⟨.pass failure, ()⟩

/-- What of a history is a stage's own, and how the stage came to its end. Those who are called do what they do in the
middle of it. -/
inductive Splits (next : Next) : List Exchanged → Option Answer → List Exchanged → Exit → Prop where
  | answered (own : List Exchanged) (answer : Answer) : Splits next own (some answer) own (.answered answer)
  | gone (own : List Exchanged) : Splits next own none own .gone
  | handed (before after : List Exchanged) {inner : List Exchanged} {result : Option Answer} {failure : Option Failure}
      {request : Request} (called : Runs (next failure request) inner result) :
      Splits next (before ++ passing failure :: (inner ++ after)) result (before ++ passing failure :: after)
        (.handed failure request)

/-- Every run of the flow has a part of its own, of which this can be said. -/
def Leads (next : Next) (post : List Exchanged → Exit → Prop) (flow : Flow (Option Answer)) : Prop :=
  ∀ history result, Runs flow history result → ∃ own exit, Splits next history result own exit ∧ post own exit

section
variable {next : Next} {history own : List Exchanged} {result : Option Answer} {exit : Exit}

theorem Splits.append (splits : Splits next history result own exit) (first : List Exchanged) :
    Splits next (first ++ history) result (first ++ own) exit := by
  cases splits with
  | answered => exact .answered _ _
  | gone => exact .gone _
  | handed before after called =>
    rw [← List.append_assoc, ← List.append_assoc]
    exact .handed _ after called

theorem Splits.followed (splits : Splits next history result own exit) (last : List Exchanged) :
    Splits next (history ++ last) result (own ++ last) exit := by
  cases splits with
  | answered => exact .answered _ _
  | gone => exact .gone _
  | handed before after called =>
    have split := Splits.handed before (after ++ last) called
    simpa using split

variable {post : List Exchanged → Exit → Prop}

theorem Leads.respond {answer : Answer} (held : post [answering answer] (.answered answer)) :
    Leads next post (Flow.respond answer) := by
  intro history result runs
  obtain ⟨-, rest, rfl, ended⟩ := runs.asked
  obtain ⟨rfl, rfl⟩ := ended.ended
  exact ⟨_, _, .answered _ _, held⟩

theorem Leads.gone (held : post [] .gone) : Leads next post (.done none) := by
  rintro history result ⟨⟩
  exact ⟨_, _, .gone _, held⟩

theorem Leads.pass {failure : Option Failure} {request : Request}
    (held : post [passing failure] (.handed failure request)) :
    Leads next post (.ask (.pass failure) fun _ => next failure request) := by
  intro history result runs
  obtain ⟨-, inner, rfl, called⟩ := runs.asked
  have split := Splits.handed [] [] called
  rw [List.append_nil] at split
  exact ⟨_, _, split, held⟩

theorem Leads.ask {question : Ask} {rest : question.Reply → Flow (Option Answer)}
    (leads : ∀ reply, Leads next (fun own exit => post (⟨question, reply⟩ :: own) exit) (rest reply)) :
    Leads next post (.ask question rest) := by
  intro history result runs
  obtain ⟨reply, later, rfl, ran⟩ := runs.asked
  obtain ⟨own, exit, splits, held⟩ := leads reply later result ran
  exact ⟨_, _, splits.append [⟨question, reply⟩], held⟩

theorem Leads.bind {flow : Flow α} {rest : α → Flow (Option Answer)}
    (leads : ∀ first value, Runs flow first value →
      Leads next (fun own exit => post (first ++ own) exit) (rest value)) : Leads next post (flow >>= rest) := by
  intro history result runs
  obtain ⟨first, value, later, rfl, earlier, ran⟩ := runs.bind
  obtain ⟨own, exit, splits, held⟩ := leads first value earlier later result ran
  exact ⟨_, _, splits.append first, held⟩

/-- What is done last of all is the stage's own. -/
theorem Leads.unwatch {flow : Flow (Option Answer)}
    (leads : Leads next (fun own exit => post (own ++ [⟨.unwatchClose, ()⟩]) exit) flow) :
    Leads next post (do
      let answer ← flow
      Flow.request .unwatchClose
      pure answer) := by
  intro history result runs
  obtain ⟨first, answer, later, rfl, earlier, unwatches⟩ := runs.bind
  obtain ⟨-, last, rfl, ended⟩ := unwatches.asked
  obtain ⟨rfl, rfl⟩ := ended.ended
  obtain ⟨own, exit, splits, held⟩ := leads first _ earlier
  exact ⟨_, _, splits.followed _, held⟩

end

/-- What the caller, the request or those after a stage get to see of its doing. -/
inductive Mark where
  | identified (auth : AuthState)
  | joined (tenant : TenantContext)
  | called (failure : Option Failure)
  | answered (answer : Answer)

def mark? : Ask → Option Mark
  | .attachAuth auth => some (.identified auth)
  | .attachTenant tenant => some (.joined tenant)
  | .pass failure => some (.called failure)
  | .answer answer => some (.answered answer)
  | _ => none

def marks (history : List Exchanged) : List Mark := history.filterMap fun asked => mark? asked.question

theorem marks_append (first second : List Exchanged) : marks (first ++ second) = marks first ++ marks second :=
  List.filterMap_append ..

theorem marks_silent {history : List Exchanged} (silent : Silent history) : marks history = [] := by
  refine List.filterMap_eq_nil_iff.mpr fun asked member => ?_
  have unseen := silent asked member
  generalize asked.question = question at unseen
  cases question <;> first | rfl | exact absurd trivial unseen

theorem Runs.unmarked {flow : Flow α} {history : List Exchanged} {value : α} (runs : Runs flow history value)
    (asks : Asks (fun question => ¬ Outward question) flow) : marks history = [] :=
  marks_silent (runs.within asks)

/-- What can be seen of a handler's own doing, and the end it comes to. -/
inductive Conduct : Handler → Request → List Exchanged → Exit → Prop where
  | answers {handler : Handler} {request : Request} {own : List Exchanged} {answer : Answer}
      (seen : marks own = [.answered answer]) : Conduct handler request own (.answered answer)
  | leaves {stage : TokenIdentity} {request : Request} {own : List Exchanged} {token : String}
      (presents : Presents stage request token) (left : (⟨.closed, some false⟩ : Exchanged) ∈ own)
      (seen : marks own = []) : Conduct (.identity (.token stage)) request own .gone
  | identifies {choice : IdentityChoice} {request : Request} {own : List Exchanged} {auth : AuthState}
      (seen : marks own = [.identified auth, .called none]) :
      Conduct (.identity choice) request own (.handed none { request with auth := some auth })
  | joins {isolation : Isolation} {request : Request} {own : List Exchanged} {tenant : TenantContext}
      (seen : marks own = [.joined tenant, .called none]) :
      Conduct (.tenant isolation) request own (.handed none { request with tenant := some tenant })
  | passes {handler : Handler} {request : Request} {own : List Exchanged} {failure : Option Failure}
      (unidentifying : ¬ handler.Identifies) (seen : marks own = [.called failure]) :
      Conduct handler request own (.handed failure request)

section
variable {request : Request} {next : Next}

theorem Asks.silent {flow : Flow α} (inward : Asks Inward flow) : Asks (fun question => ¬ Outward question) flow := by
  refine inward.weaken fun question kept => ?_
  cases question <;> first | exact kept.elim | exact id

theorem Lending.silent (question : Ask) (lending : Lending question) : ¬ Outward question := by
  cases question <;> first | exact lending.elim | exact id

theorem admitPublic_leads (choice : IdentityChoice) :
    Leads next (Conduct (.identity choice) request) (Stage.admitPublic request next) :=
  .ask fun _ => .pass (.identifies rfl)

theorem gateway_leads (stage : GatewayIdentity) :
    Leads next (Conduct (.identity (.gateway stage)) request) (stage.run request next) := by
  unfold GatewayIdentity.run
  split
  · exact admitPublic_leads _
  · split
    · exact .respond (.answers rfl)
    · exact .ask fun _ => .ask fun _ => .pass (.identifies rfl)

section
variable {stage : TokenIdentity} {before : List Exchanged}

theorem judgeClaims_leads (claims : Option Fields) (unseen : marks before = []) :
    Leads next (fun own exit => Conduct (.identity (.token stage)) request
      (before ++ (own ++ [⟨.unwatchClose, ()⟩])) exit) (TokenIdentity.judgeClaims request claims next) := by
  unfold TokenIdentity.judgeClaims
  split
  · exact .respond (.answers (by rw [marks_append, unseen]; rfl))
  next claims =>
    refine .bind fun reading outcome reads => ?_
    have quiet : marks reading = [] := reads.unmarked (readClaims_inward claims).silent
    cases outcome with
    | error rejection =>
      refine .ask fun _ => .respond (.answers ?_)
      rw [List.append_assoc, marks_append, marks_append, unseen, quiet]
      rfl
    | ok identity =>
      refine .ask fun _ => .ask fun _ => .pass (.identifies ?_)
      rw [List.append_assoc, marks_append, marks_append, unseen, quiet]
      rfl

theorem signalOf_during {closing : Option Bool} : signalOf closing = .duringRequest ↔ Gone closing := by
  unfold signalOf
  split
  next gone => exact iff_of_true rfl gone
  next there => exact iff_of_false nofun there

/-- A verification ends unseen only when its caller was told to be gone. -/
theorem conclude_leads {token : String} (presents : Presents stage request token) {closing : Option Bool}
    (left : Gone closing → (⟨.closed, some false⟩ : Exchanged) ∈ before) (outcome : Outcome)
    (unseen : marks before = []) :
    Leads next (fun own exit => Conduct (.identity (.token stage)) request
        (before ++ (own ++ [⟨.unwatchClose, ()⟩])) exit)
      (stage.conclude request (signalOf closing) outcome next) := by
  unfold TokenIdentity.conclude
  split
  · exact .ask fun _ => .respond (.answers (by rw [marks_append, unseen]; rfl))
  · split
    next during =>
      have told := left (signalOf_during.mp during)
      refine .ask fun _ => .gone (.leaves presents (List.mem_append_left _ told) ?_)
      rw [marks_append, unseen]
      rfl
    next => exact judgeClaims_leads _ unseen

theorem token_leads (stage : TokenIdentity) :
    Leads next (Conduct (.identity (.token stage)) request) (stage.run request next) := by
  unfold TokenIdentity.run
  split
  · exact .ask fun _ => .pass (.identifies rfl)
  next provided =>
    split
    · exact admitPublic_leads _
    next guarded =>
      split
      · exact .respond (.answers rfl)
      next token presented =>
        refine .bind fun watching signal watches => ?_
        obtain ⟨closing, rfl, rfl⟩ := watch_tells watches
        refine .bind fun verifying outcome verifies => .unwatch ?_
        have quiet : marks verifying = [] := verifies.unmarked <|
          (verifier_apart stage.verifier token _).weaken fun _ apart outward => apart outward.work
        simp only [← List.append_assoc (watched closing)]
        refine conclude_leads ⟨provided, by simpa using guarded, presented⟩ (fun gone => ?_) outcome ?_
        · obtain rfl := gone
          simp [watched]
        · rw [marks_append, marks_silent (watched_silent closing), quiet]
          rfl

end

theorem isolation_leads (isolation : Isolation) :
    Leads next (Conduct (.tenant isolation) request) (isolation.run request next) := by
  unfold Isolation.run
  split
  · exact .pass (.passes id rfl)
  · split
    · exact .ask fun _ => .respond (.answers rfl)
    · exact .ask fun _ => .respond (.answers rfl)
    next identity _ =>
      unfold Isolation.resolve
      split
      · exact .ask fun _ => .respond (.answers rfl)
      next resolved _ =>
        refine .bind fun looking outcome looks => ?_
        have silent (session : SessionKind) : Asks (fun question => ¬ Outward question)
            (Membership.lookup session identity.subject resolved.organization) :=
          lookup_asks session _ _ (fun _ _ => id) fun _ => id
        have quiet : marks looking = [] := looks.unmarked (inSession_asks Lending.silent _ _ silent)
        match outcome with
        | .error failure => exact .pass (.passes id (by rw [marks_append, quiet]; rfl))
        | .ok none => exact .ask fun _ => .respond (.answers (by rw [marks_append, quiet]; rfl))
        | .ok (some role) =>
          exact .ask fun _ => .ask fun _ => .pass (.joins (by rw [marks_append, quiet]; rfl))

theorem guard_leads (required : String) :
    Leads next (Conduct (.role required) request) (RoleGuard.run required request next) := by
  unfold RoleGuard.run
  split
  · exact .ask fun _ => .respond (.answers rfl)
  · split
    · exact .pass (.passes id rfl)
    · exact .ask fun _ => .respond (.answers rfl)

theorem read_leads (handler : Handler) (unidentifying : ¬ handler.Identifies) (lender : Sql.Lender)
    (statement : Request → TenantContext → Organizations.Statement)
    (answer : TenantContext → List Fields → Except Failure Answer) :
    Leads next (Conduct handler request) (Organizations.read lender statement answer request next) := by
  unfold Organizations.read
  split
  · exact .respond (.answers rfl)
  · refine .bind fun reading outcome reads => ?_
    have quiet : marks reading = [] :=
      reads.unmarked (inSession_asks Lending.silent _ _ fun _ => ⟨id, fun _ => trivial⟩)
    split
    · exact .pass (.passes unidentifying (by rw [marks_append, quiet]; rfl))
    · exact .respond (.answers (by rw [marks_append, quiet]; rfl))

theorem handler_leads (handler : Handler) : Leads next (Conduct handler request) (handler.run request next) := by
  cases handler with
  | identity choice => cases choice with
    | token stage => exact token_leads stage
    | gateway stage => exact gateway_leads stage
  | tenant isolation => exact isolation_leads isolation
  | role required => exact guard_leads required
  | organization lender =>
    change Leads next _ (Organizations.readOrganization lender request next)
    unfold Organizations.readOrganization
    exact read_leads _ id lender _ _
  | members lender =>
    change Leads next _ (Organizations.readMembers lender request next)
    unfold Organizations.readMembers
    exact read_leads _ id lender _ _

end

def Mark.call? : Mark → Option (Option Failure)
  | .called failure => some failure
  | _ => none

def Mark.answer? : Mark → Option Answer
  | .answered answer => some answer
  | _ => none

/-- How often those who come next are called, and with which failures. -/
def calls (history : List Exchanged) : List (Option Failure) := (marks history).filterMap Mark.call?

def answersOf (history : List Exchanged) : List Answer := (marks history).filterMap Mark.answer?

/-- One end for each call of a handler, and nothing attached but on the way to those who come next. -/
structure ConcludesOnce (handler : Handler) (request : Request) (own : List Exchanged) (exit : Exit) : Prop where
  answers : ∀ answer, exit = .answered answer → answersOf own = [answer] ∧ calls own = []
  hands : ∀ failure inner, exit = .handed failure inner → calls own = [failure] ∧ answersOf own = []
  leaves : exit = .gone → answersOf own = [] ∧ calls own = [] ∧
    ∃ stage token, handler = .identity (.token stage) ∧ Presents stage request token ∧
      (⟨.closed, some false⟩ : Exchanged) ∈ own
  identifies : (∃ auth, .identified auth ∈ marks own) ↔
    handler.Identifies ∧ ∃ failure inner, exit = .handed failure inner
  attaches : ∀ auth, .identified auth ∈ marks own → exit = .handed none { request with auth := some auth }
  joins : ∀ tenant, .joined tenant ∈ marks own →
    (∃ isolation, handler = .tenant isolation) ∧ exit = .handed none { request with tenant := some tenant }

theorem Conduct.once {handler : Handler} {request : Request} {own : List Exchanged} {exit : Exit}
    (conduct : Conduct handler request own exit) : ConcludesOnce handler request own exit := by
  cases conduct with
  | @answers _ _ _ answer seen =>
    have called : calls own = [] := by rw [calls, seen]; rfl
    have told : answersOf own = [answer] := by rw [answersOf, seen]; rfl
    constructor <;> simp [called, told, seen]
  | leaves presents left seen =>
    have called : calls own = [] := by rw [calls, seen]; rfl
    have told : answersOf own = [] := by rw [answersOf, seen]; rfl
    refine ⟨?_, ?_, fun _ => ⟨told, called, _, _, rfl, presents, left⟩, ?_, ?_, ?_⟩ <;> simp [seen]
  | identifies seen =>
    have called : calls own = [none] := by rw [calls, seen]; rfl
    have told : answersOf own = [] := by rw [answersOf, seen]; rfl
    constructor <;> simp [called, told, seen, Handler.Identifies]
  | joins seen =>
    have called : calls own = [none] := by rw [calls, seen]; rfl
    have told : answersOf own = [] := by rw [answersOf, seen]; rfl
    constructor <;> simp [called, told, seen, Handler.Identifies]
  | @passes _ _ _ failure unidentifying seen =>
    have called : calls own = [failure] := by rw [calls, seen]; rfl
    have told : answersOf own = [] := by rw [answersOf, seen]; rfl
    constructor <;> simp [called, told, seen, unidentifying]

/-- Whatever the verifier, the membership and the database come to, and whoever comes next, a handler either writes one
answer and calls nobody or calls those who come next once and writes no answer. Neither is done only for a caller who
went away from a verification. An identity is attached exactly by the identity stages that hand a request on, and a
tenant only by a tenant stage that does so without a failure. -/
theorem handlers_conclude_once (handler : Handler) (request : Request) (next : Next) (world : World σ) (state : σ) :
    ∃ own exit,
      Splits next ((handler.run request next).trace world state) ((handler.run request next).run world state).1
        own exit ∧ ConcludesOnce handler request own exit := by
  obtain ⟨own, exit, splits, conduct⟩ :=
    handler_leads handler _ _ (trace_runs (handler.run request next) world state)
  exact ⟨own, exit, splits, conduct.once⟩

end TenantAccess.Proofs
