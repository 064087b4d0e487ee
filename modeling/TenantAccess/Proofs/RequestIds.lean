import TenantAccess.Log.Line
import TenantAccess.Proofs.AnsweredCallers
import TenantAccess.Proofs.ServiceCourses
import TenantAccess.Rehearsal.Transcript

/-! The identifier of a request, in its response and in the line that is written once it is answered. Whoever
is let in has one. A request without a path and one whose body cannot be read are turned away before any is
chosen: their answers carry none, and no line is written for them. -/

namespace TenantAccess.Proofs
open Rehearsal

/-- Headers that an answer sets or takes away by itself. -/
def answerHeaders : List String :=
  ["allow", "content-type", "content-length", "transfer-encoding", "etag", "content-security-policy",
    "x-content-type-options"]

section
variable {name other : String}

theorem without_other (apart : other ≠ name) (held : List (String × String)) :
    (Response.without name held).lookup other = held.lookup other := by
  induction held with
  | nil => rfl
  | cons header rest ih =>
    obtain ⟨first, value⟩ := header
    unfold Response.without at ih ⊢
    by_cases same : first = name
    · subst same
      have different : (other == first) = false := beq_false_of_ne apart
      simpa [List.lookup_cons, different] using ih
    · simp only [List.filter_cons, bne_iff_ne, ne_eq, same, not_false_eq_true, if_true, List.lookup_cons, ih]

theorem put_other (apart : other ≠ name) (held : List (String × String)) (value : String) :
    (Response.put held name value).lookup other = held.lookup other := by
  have different : (other == name) = false := beq_false_of_ne apart
  simp [Response.put, List.lookup_append, without_other apart, different]

theorem ofAnswer_keeps (apart : name ∉ answerHeaders) (answer : Answer) (request : Request)
    (held : List (String × String)) : (Response.ofAnswer answer request held).header? name = held.lookup name := by
  simp only [answerHeaders, List.mem_cons, List.not_mem_nil, or_false, not_or] at apart
  obtain ⟨allow, type, length, encoding, tag, policy, options⟩ := apart
  have written (type text : String) :
      (Response.sent answer request held type text).header? name = held.lookup name := by
    simp only [Response.sent, Response.header?]
    split <;> split <;>
      simp [Response.contentHeaders, put_other, without_other, *]
  have paged (text : String) : (Response.page answer held text).header? name = held.lookup name := by
    simp [Response.page, Response.header?, put_other, *]
  unfold Response.ofAnswer
  split <;> split
  all_goals first | exact written _ _ | exact paged _

end

def answeredEntry (request : Request) (id : String) (status : Nat) : LogEntry :=
  ⟨.info,
    [("req", .plain (.record [("id", .text id), ("method", .text request.method),
        ("url", .text request.wholeTarget), ("query", .record request.query), ("params", .record []),
        ("headers", .record (request.headers.map fun (name, value) => (name, .text value)))])),
      ("res", .plain (.record [("statusCode", .ofNat status)]))],
    if 500 ≤ status then "request errored" else "request completed"⟩

def shownHeader (name value : String) : Json :=
  if name = "authorization" ∨ name = "x-email" then LogLine.redacted else .text value

def answeredLine (request : Request) (id : String) (status : Nat) : Fields :=
  [("level", .ofNat 30),
    ("req", .record [("id", .text id), ("method", .text request.method), ("url", .text request.wholeTarget),
      ("query", .record request.query), ("params", .record []),
      ("headers", .record (request.headers.map fun (name, value) => (name, shownHeader name value)))]),
    ("res", .record [("statusCode", .ofNat status)]),
    ("msg", .text (if 500 ≤ status then "request errored" else "request completed"))]

def informs (threshold : LogLevel) : Bool := threshold.gravity?.any (· ≤ 30)

theorem answered_composed (request : Request) (id : String) (status : Nat) :
    LogLine.compose 30 [("req", .record [("id", .text id), ("method", .text request.method),
        ("url", .text request.wholeTarget), ("query", .record request.query), ("params", .record []),
        ("headers", .record (request.headers.map fun (name, value) => (name, .text value)))]),
      ("res", .record [("statusCode", .ofNat status)])]
      (some (.text (if 500 ≤ status then "request errored" else "request completed"))) =
    answeredLine request id status := by
  have covered (name value : String) : (if name = "x-email" then LogLine.redacted
      else if name = "authorization" then LogLine.redacted else Json.text value) = shownHeader name value := by
    unfold shownHeader
    grind
  simp [LogLine.compose, LogLine.redact, LogLine.coveredPaths, LogLine.cover, LogShown.fields, LogShown.isRequest,
    LogShown.truthy?, Fields.get?, LogShown.messageOf?, Fields.put, Fields.ofList, Json.record?, answeredLine,
    List.map_map, Function.comp_def, covered]

theorem answered_written (threshold : LogLevel) (request : Request) (id : String) (status : Nat) :
    LogLine.ofEntry? threshold (answeredEntry request id status) =
      if informs threshold then some (answeredLine request id status) else none := by
  rw [← answered_composed]
  cases threshold <;> rfl

section
variable {choice : IdentityChoice} {isolation : Isolation} {lender : Sql.Lender} {own header : String}
  {request : Request} {incoming : Incoming} {history : List Exchanged} {response : Option Response}

/-- Where the identifier of a request comes from: its caller sent it, or else it is the first thing drawn. -/
inductive Identifies (header : String) (request : Request) : List Exchanged → String → Prop where
  | sent {id : String} (history : List Exchanged) (sent : RequestId.sent? request header = some id) :
      Identifies header request history id
  | drawn (id : String) (rest : List Exchanged) (unsent : RequestId.sent? request header = none) :
      Identifies header request (⟨.freshId, id⟩ :: rest) id

theorem Identifies.eq_sent {id other : String} (identifies : Identifies header request history id)
    (sent : RequestId.sent? request header = some other) : id = other := by
  cases identifies with
  | sent _ same => exact Option.some.inj (same.symm.trans sent)
  | drawn _ _ unsent => cases unsent.symm.trans sent

theorem choose_identifies {choosing rest : List Exchanged} {id : String}
    (chosen : Runs (RequestId.choose request header) choosing id) :
    Identifies header request (choosing ++ rest) id := by
  unfold RequestId.choose at chosen
  split at chosen
  next sent =>
    obtain ⟨rfl, rfl⟩ := chosen.ended
    exact .sent _ sent
  next unsent =>
    obtain ⟨reply, later, rfl, ended⟩ := chosen.asked
    obtain ⟨rfl, rfl⟩ := ended.ended
    exact .drawn _ _ unsent

/-- Whoever is served has an identifier; the response carries it, and the last thing done is to write it down. -/
structure Labelled (header : String) (request : Request) (history : List Exchanged) (response : Option Response)
    (id : String) : Prop where
  identifies : Identifies header request history id
  carried : ∀ given, response = some given → ∃ answer, given = .ofAnswer answer request [(header, id)]
  written : ∀ given, response = some given →
    ∃ before, history = before ++ [⟨.report (answeredEntry request id given.status), ()⟩]

theorem serve_labelled (runs : Runs ((service choice isolation lender own).serve request header) history response) :
    ∃ id, Labelled header request history response id := by
  obtain ⟨choosing, id, rest, rfl, chosen, served⟩ := runs.bind
  obtain ⟨dispatching, result, last, rfl, -, ending⟩ := served.bind
  cases result with
  | none =>
    obtain ⟨rfl, rfl⟩ := ending.ended
    exact ⟨id, choose_identifies chosen, nofun, nofun⟩
  | some answer =>
    obtain ⟨-, after, rfl, ended⟩ := ending.asked
    obtain ⟨rfl, rfl⟩ := ended.ended
    refine ⟨id, choose_identifies chosen, ?_, ?_⟩
    · rintro _ ⟨⟩
      exact ⟨answer, rfl⟩
    · rintro _ ⟨⟩
      exact ⟨choosing ++ dispatching, (List.append_assoc _ _ _).symm⟩

def Unwritten (request : Request) (history : List Exchanged) : Prop :=
  ∀ asked ∈ history, ∀ id status, asked.question ≠ .report (answeredEntry request id status)

/-- A failure with which a request comes is reported and answered for, past everything that is mounted. -/
theorem raised_dispatched {failure : Failure} {path : String} (counts : Raised failure)
    (rooted : request.path = some path) : (service choice isolation lender own).dispatch (some failure) request =
      FailureAnswer.report failure (Mount.enter request [] []) >>= fun _ =>
        Flow.respond (FailureAnswer.answer failure) := by
  have passed : Failure.passed (some failure) = .failed failure := counts
  rw [Service.dispatch, pipelineOn_organizations]
  simp only [pipelineOn, contextMounts, raised_skips counts rooted]
  unfold Mount.dispatch
  simp only [passed, rooted, mounted_everywhere]
  rfl

theorem refuse_unlabelled {kind message path : String} (rooted : request.path = some path)
    (runs : Runs ((service choice isolation lender own).refuse (.error kind message) request) history response) :
    Unwritten request history ∧ ∃ answer, response = some (.ofAnswer answer request []) := by
  obtain ⟨dispatching, result, last, rfl, dispatched, ending⟩ := runs.bind
  obtain ⟨rfl, rfl⟩ := ending.ended
  have counts : Raised (.error kind message) := rfl
  rw [raised_dispatched counts rooted] at dispatched
  obtain ⟨-, rest, rfl, responded⟩ := dispatched.asked
  obtain ⟨-, more, rfl, ended⟩ := responded.asked
  obtain ⟨rfl, rfl⟩ := ended.ended
  refine ⟨fun asked member id status same => ?_, _, rfl⟩
  simp only [List.append_nil, List.mem_cons, List.not_mem_nil, or_false] at member
  rcases member with rfl | rfl
  · cases same
  · cases same

/-- Whoever has a path, and a body that can be read if it is to be read, is let in. -/
structure Admitted (incoming : Incoming) : Prop where
  located : ∃ path, Target.path? incoming.target = some path
  readable : Body.check incoming.toRequest incoming.body = .ok ()

theorem handle_labelled (named : Header.isName (Header.key header) = true) (admitted : Admitted incoming)
    (runs : Runs ((service choice isolation lender header).handle incoming) history response) :
    ∃ id, Labelled (Header.key header) incoming.toRequest history response id := by
  obtain ⟨path, found⟩ := admitted.located
  have rooted : incoming.toRequest.path.isNone = false := by simp [Incoming.toRequest, found]
  unfold Service.handle at runs
  simp only [rooted, admitted.readable, show (service choice isolation lender header).requestIdHeader = header from rfl,
    named, if_true, Bool.false_eq_true, if_false] at runs
  exact serve_labelled runs

theorem handle_unlabelled (unadmitted : ¬ Admitted incoming)
    (runs : Runs ((service choice isolation lender header).handle incoming) history response) :
    Unwritten incoming.toRequest history ∧ ∃ answer, response = some (.ofAnswer answer incoming.toRequest []) := by
  unfold Service.handle at runs
  simp only at runs
  split at runs
  · obtain ⟨leaving, result, rest, rfl, left, ending⟩ := runs.bind
    obtain ⟨-, last, rfl, answered⟩ := left.asked
    obtain ⟨rfl, rfl⟩ := answered.ended
    obtain ⟨rfl, rfl⟩ := ending.ended
    refine ⟨fun asked member id status same => ?_, _, rfl⟩
    rw [List.mem_singleton.mp member] at same
    cases same
  next rooted =>
    obtain ⟨path, found⟩ : ∃ path, Target.path? incoming.target = some path := by
      simpa [Option.isNone_iff_eq_none, Option.ne_none_iff_exists'] using! rooted
    split at runs
    next problem unreadable => exact refuse_unlabelled found runs
    next readable => exact absurd ⟨⟨path, found⟩, readable⟩ unadmitted

end

def Version4 (id : String) : Prop :=
  Uuid.canonical? id.toList = some id.toList ∧ id.toList[14]? = some '4' ∧
    id.toList[19]? ∈ [some '8', some '9', some 'a', some 'b']

instance (id : String) : Decidable (Version4 id) :=
  inferInstanceAs (Decidable (Uuid.canonical? id.toList = some id.toList ∧ _ ∧ _))

theorem trace_replied (flow : Flow α) (world : World σ) (state : σ) :
    ∀ asked ∈ flow.trace world state, ∃ later, asked.reply = (world.reply asked.question later).1 := by
  induction flow generalizing state with
  | done value => exact fun _ member => absurd member List.not_mem_nil
  | ask question next ih =>
    intro asked member
    rcases List.mem_cons.mp member with rfl | later
    · exact ⟨state, rfl⟩
    · exact ih _ _ asked later

theorem standard_key : Header.key RequestId.standardHeader = RequestId.standardHeader := by decide +kernel

theorem standard_name : Header.isName (Header.key RequestId.standardHeader) = true := by decide +kernel

/-- Whoever stays is answered. The response to a request that is let in carries the identifier its caller sent, or
a fresh one, and the last line written names the same; any other response carries none, and no line is written. -/
theorem request_ids_carried (choice : IdentityChoice) (isolation : Isolation) (lender : Sql.Lender)
    (incoming : Incoming) (world : World σ) (state : σ) :
    let handled := (service choice isolation lender RequestId.standardHeader).handle incoming
    (Stays (handled.trace world state) → (handled.run world state).1.isSome = true) ∧
    (Admitted incoming → ∃ id, Identifies RequestId.standardHeader incoming.toRequest (handled.trace world state) id ∧
      ((∀ state, Version4 (world.reply .freshId state).1) →
        RequestId.sent? incoming.toRequest RequestId.standardHeader = none → Version4 id) ∧
      ∀ given, (handled.run world state).1 = some given →
        given.header? RequestId.standardHeader = some id ∧
        (∃ before, handled.trace world state =
          before ++ [⟨.report (answeredEntry incoming.toRequest id given.status), ()⟩]) ∧
        ∀ threshold, informs threshold → LogLine.ofEntry? threshold (answeredEntry incoming.toRequest id given.status) =
          some (answeredLine incoming.toRequest id given.status)) ∧
    (¬ Admitted incoming → Unwritten incoming.toRequest (handled.trace world state) ∧
      ∃ given, (handled.run world state).1 = some given ∧ given.header? RequestId.standardHeader = none) := by
  intro handled
  have runs := trace_runs handled world state
  have apart : RequestId.standardHeader ∉ answerHeaders := by decide
  refine ⟨handle_answers choice isolation lender _ incoming _ _ runs, fun admitted => ?_, fun unadmitted => ?_⟩
  · obtain ⟨id, labelled⟩ := handle_labelled standard_name admitted runs
    rw [standard_key] at labelled
    refine ⟨id, labelled.identifies, fun versioned unsent => ?_, fun given same =>
      ⟨?_, labelled.written given same, ?_⟩⟩
    · have identifies := labelled.identifies
      have replied := trace_replied handled world state
      generalize handled.trace world state = history at identifies replied
      cases identifies with
      | sent _ sent => cases unsent.symm.trans sent
      | drawn _ rest _ =>
        obtain ⟨later, drawn⟩ := replied _ List.mem_cons_self
        have drawn : id = (world.reply .freshId later).1 := drawn
        exact drawn ▸ versioned later
    · obtain ⟨answer, rfl⟩ := labelled.carried given same
      rw [ofAnswer_keeps apart]
      simp
    · intro threshold informed
      rw [answered_written, if_pos informed]
  · obtain ⟨unwritten, answer, answered⟩ := handle_unlabelled unadmitted runs
    exact ⟨unwritten, _, answered, ofAnswer_keeps apart _ _ _⟩

def labelling : Props :=
  ⟨.ok (), fun _ _ => .ok [], fun _ => .ok none, none, .ok (), "0b8f3c1e-5a2d-4e6f-9c3b-7d1a2f4e6b80"⟩

def labelled (incoming : Incoming) : Option Response :=
  ((gatewayService.handle incoming).run labelling.world (.begin 0 [])).1

def pingAs (id : String) : Incoming := ⟨"GET", "/ping", [("X-Request-ID", id)], none⟩

/-- An identifier in front of a body that says to be a record and ends within it. -/
def brokenOff : Incoming :=
  ⟨"POST", "/ping", [("Content-Type", "application/json"), ("X-Request-ID", "req-123")], some [123]⟩

theorem brokenOff_unadmitted : ¬ Admitted brokenOff := by
  intro admitted
  have broken : (Body.check brokenOff.toRequest brokenOff.body).isOk = false := by decide +kernel
  rw [admitted.readable] at broken
  cases broken

theorem labelling_stays (flow : Flow α) : Stays (flow.trace labelling.world (.begin 0 [])) := by
  intro member
  obtain ⟨later, told⟩ := trace_replied flow labelling.world (.begin 0 []) _ member
  cases told

theorem request_ids_carried_ping :
    Stays ((gatewayService.handle (pingAs " ")).trace labelling.world (.begin 0 [])) ∧
    Admitted (pingAs " req-123 ") ∧ Admitted (pingAs " ") ∧ ¬ Admitted brokenOff ∧ informs .info ∧
    (∀ state, Version4 (labelling.world.reply .freshId state).1) ∧
    RequestId.sent? (pingAs " ").toRequest RequestId.standardHeader = none ∧
    ((labelled (pingAs " req-123 ")).map (·.header? RequestId.standardHeader) = some (some "req-123")) ∧
    (∃ id, Version4 id ∧ (labelled (pingAs " ")).map (·.header? RequestId.standardHeader) = some (some id)) ∧
    ∃ given, labelled brokenOff = some given ∧ given.header? RequestId.standardHeader = none := by
  have carried (incoming : Incoming) := request_ids_carried (.gateway ⟨standardPublicPaths⟩)
    ⟨.plain, true, standardPublicPaths⟩ .plain incoming labelling.world (.begin 0 [])
  have answered (incoming : Incoming) : ∃ given, labelled incoming = some given :=
    Option.isSome_iff_exists.mp ((carried incoming).1 (labelling_stays _))
  have pathed : Target.path? "/ping" = some "/ping" := by decide +kernel
  have named : Admitted (pingAs " req-123 ") := ⟨⟨_, pathed⟩, by with_unfolding_all rfl⟩
  have blank : Admitted (pingAs " ") := ⟨⟨_, pathed⟩, by with_unfolding_all rfl⟩
  have versioned : ∀ state, Version4 (labelling.world.reply .freshId state).1 := by
    have version : Version4 "0b8f3c1e-5a2d-4e6f-9c3b-7d1a2f4e6b80" := by decide +kernel
    exact fun _ => version
  have unsent : RequestId.sent? (pingAs " ").toRequest RequestId.standardHeader = none := by decide +kernel
  have sent : RequestId.sent? (pingAs " req-123 ").toRequest RequestId.standardHeader = some "req-123" := by
    decide +kernel
  refine ⟨labelling_stays _, named, blank, brokenOff_unadmitted, rfl, versioned, unsent, ?_, ?_,
    ((carried _).2.2 brokenOff_unadmitted).2⟩
  · obtain ⟨id, identifies, -, told⟩ := (carried _).2.1 named
    obtain ⟨given, same⟩ := answered (pingAs " req-123 ")
    cases identifies.eq_sent sent
    rw [same, Option.map_some, (told given same).1]
  · obtain ⟨id, identifies, fresh, told⟩ := (carried _).2.1 blank
    obtain ⟨given, same⟩ := answered (pingAs " ")
    exact ⟨id, fresh versioned unsent, by rw [same, Option.map_some, (told given same).1]⟩

/-- The caller's own identifier is neither sent back nor written down. -/
theorem broken_body_unlabelled :
    RequestId.sent? brokenOff.toRequest RequestId.standardHeader = some "req-123" ∧
    (labelled brokenOff).map (fun given => (given.status, given.header? RequestId.standardHeader)) =
      some (500, none) ∧
    (Transcript.reports ((gatewayService.handle brokenOff).trace labelling.world (.begin 0 []))).map (·.message) =
      ["unhandled request error"] := by
  refine ⟨?_, ?_, ?_⟩ <;> decide +kernel

end TenantAccess.Proofs
