import TenantAccess.Proofs.MirroredStages
import TenantAccess.Proofs.UniformRefusals

/-! What is logged of a request says nothing of its caller's address, nor of any claim that identifies nobody.
Two things give it away. A caller who names the tag of an answer that shows the address is told whether the tag
still fits, and the status of that answer is logged; and a service can be told to take a covered header for the
name of a request. -/

namespace TenantAccess.Proofs
open Rehearsal

/-- Two requests as they arrive, of callers who are told apart by private things alone. -/
structure ArrivalsAlike (one two : String) (incoming other : Incoming) : Prop where
  method : other.method = incoming.method
  target : other.target = incoming.target
  body : other.body = incoming.body
  headers : HeadersAlike one two incoming.toRequest.headers other.toRequest.headers

/-- A caller who only reads, and names what it holds already. -/
def Conditional (request : Request) : Prop :=
  Route.isReading request.method = true ∧ (request.nonemptyHeader? "if-none-match").isSome = true

def Discloses (request : Request) (response : Option Response) : Prop :=
  ∃ inner held, response = some (.ofAnswer (.json 200 (CallerContext.ofRequest inner)) request held)

/-- The same entries, the one for the answered request apart, which is about the one request and about the other.
Its status can differ where a response tells its caller of itself, and the caller may hold that already. -/
inductive LogsAlike (request other : Request) (history others : List Exchanged) (response answer : Option Response) :
    Prop where
  | same (same : Transcript.reports history = Transcript.reports others)
  | answered (entries : List LogEntry) (id : String) (status : Nat)
      (reported : Transcript.reports history = entries ++ [answeredEntry request id status])
      (again : Transcript.reports others = entries ++ [answeredEntry other id status])
  | renewed (entries : List LogEntry) (id : String) {status held : Nat} (conditional : Conditional request)
      (tells : Discloses request response) (told : Discloses request answer)
      (statuses : status = 200 ∧ held = 304 ∨ status = 304 ∧ held = 200)
      (reported : Transcript.reports history = entries ++ [answeredEntry request id status])
      (again : Transcript.reports others = entries ++ [answeredEntry other id held])

variable {one two : String}

theorem ArrivalsAlike.requests {incoming other : Incoming} (alike : ArrivalsAlike one two incoming other) :
    RequestsAlike one two incoming.toRequest other.toRequest := by
  have same : other.toRequest = { incoming.toRequest with headers := other.toRequest.headers, auth := none } := by
    simp only [Incoming.toRequest, alike.method, alike.target]
  rw [same]
  exact .intro alike.headers .none

section
variable {request other : Request} (alike : RequestsAlike one two request other)
include alike

theorem RequestsAlike.header {name : String} (bare : name ∉ coveredNames) : other.header? name = request.header? name :=
  (shown_lookup alike.headers.shown bare).symm

theorem RequestsAlike.line (threshold : LogLevel) (id : String) (status : Nat) :
    LogLine.ofEntry? threshold (answeredEntry request id status) =
      LogLine.ofEntry? threshold (answeredEntry other id status) := by
  have shown := alike.headers.shown
  unfold shownHeaders at shown
  rw [answered_written, answered_written]
  unfold answeredLine
  rw [alike.method, alike.wholeTarget, alike.query, shown]

theorem RequestsAlike.checked (body : Option (List UInt8)) : Body.check other body = Body.check request body := by
  unfold Body.check Body.announced Request.nonemptyHeader?
  rw [alike.header (by decide : "transfer-encoding" ∉ coveredNames),
    alike.header (by decide : "content-length" ∉ coveredNames),
    alike.header (by decide : "content-type" ∉ coveredNames),
    alike.header (by decide : "content-encoding" ∉ coveredNames)]

theorem RequestsAlike.fresh (tag changed : Option String) :
    Freshness.isFresh other.header? tag changed = Freshness.isFresh request.header? tag changed := by
  unfold Freshness.isFresh
  simp only [alike.header (by decide : "if-none-match" ∉ coveredNames),
    alike.header (by decide : "if-modified-since" ∉ coveredNames),
    alike.header (by decide : "cache-control" ∉ coveredNames)]

theorem RequestsAlike.sent (answer : Answer) (held : List (String × String)) :
    Response.ofAnswer answer other held = Response.ofAnswer answer request held := by
  unfold Response.ofAnswer Response.sent
  simp only [alike.method, alike.fresh]

end

theorem json_status (request : Request) (held : List (String × String)) (value : Json) :
    (Response.ofAnswer (.json 200 value) request held).status =
      if Route.isReading request.method && Freshness.isFresh request.header?
          (some ((held.lookup "etag").getD (Freshness.tag (Utf8.encode value.render)))) (held.lookup "last-modified")
      then 304 else 200 := by
  have kept (response : Response) :
      (if request.method = "HEAD" then { response with content := none } else response).status = response.status := by
    split <;> rfl
  unfold Response.ofAnswer
  rw [kept]
  simp only [Answer.json, Response.sent, decide_true, Bool.and_true, Nat.le_refl, Nat.reduceLT]
  split <;> rfl

/-- Without the tags of what its caller holds a request is fresh or not whatever its answer says. -/
theorem tagless_fresh {request : Request} (unnamed : request.nonemptyHeader? "if-none-match" = none)
    (tag other changed : Option String) :
    Freshness.isFresh request.header? tag changed = Freshness.isFresh request.header? other changed := by
  unfold Request.nonemptyHeader? at unnamed
  simp only [Freshness.isFresh, unnamed, Option.map_none]

/-- The status of an answer depends on what it says only for a caller who names what it holds. -/
theorem told_status (request : Request) (held : List (String × String)) (value other : Json) :
    (Response.ofAnswer (.json 200 value) request held).status =
      (Response.ofAnswer (.json 200 other) request held).status ∨
    Conditional request ∧
      ((Response.ofAnswer (.json 200 value) request held).status = 200 ∧
          (Response.ofAnswer (.json 200 other) request held).status = 304 ∨
        (Response.ofAnswer (.json 200 value) request held).status = 304 ∧
          (Response.ofAnswer (.json 200 other) request held).status = 200) := by
  rw [json_status, json_status]
  cases reading : Route.isReading request.method with
  | false => exact .inl (by simp only [Bool.false_and])
  | true =>
    cases named : request.nonemptyHeader? "if-none-match" with
    | none => exact .inl (by rw [tagless_fresh named])
    | some list =>
      have conditional : Conditional request := ⟨reading, by rw [named]; rfl⟩
      split <;> split
      · exact .inl rfl
      · exact .inr ⟨conditional, .inr ⟨rfl, rfl⟩⟩
      · exact .inr ⟨conditional, .inl ⟨rfl, rfl⟩⟩
      · exact .inl rfl

theorem reports_append (history : List Exchanged) (entry : LogEntry) :
    Transcript.reports (history ++ [⟨.report entry, ()⟩]) = Transcript.reports history ++ [entry] :=
  List.filterMap_append

theorem RequestsAlike.ended {request other : Request} (alike : RequestsAlike one two request other)
    {history others : List Exchanged} (same : Transcript.reports history = Transcript.reports others)
    {answer mirror : Answer} (answersAlike : AnswersAlike answer mirror) (id : String) (held : List (String × String)) :
    LogsAlike request other
      (history ++ [⟨.report (answeredEntry request id (Response.ofAnswer answer request held).status), ()⟩])
      (others ++ [⟨.report (answeredEntry other id (Response.ofAnswer mirror other held).status), ()⟩])
      (some (.ofAnswer answer request held)) (some (.ofAnswer mirror other held)) := by
  rw [alike.sent]
  have again (status : Nat) := same ▸ reports_append others (answeredEntry other id status)
  cases answersAlike with
  | same => exact .answered _ id _ (reports_append _ _) (again _)
  | told inner kept =>
    rcases told_status request held (CallerContext.ofRequest inner) (CallerContext.ofRequest kept) with
      same | ⟨conditional, statuses⟩
    · rw [same]
      exact .answered _ id _ (reports_append _ _) (again _)
    · exact .renewed _ id conditional ⟨inner, held, rfl⟩ ⟨kept, held, rfl⟩ statuses (reports_append _ _) (again _)

section
variable {choice : IdentityChoice} {isolation : Isolation} {lender : Sql.Lender} {own header : String}
  {request other : Request} {history others : List Exchanged} {response answer : Option Response}

theorem serve_logs (tokens : TokensAlike one two) (impartial : ChoiceImpartial one two choice)
    (alike : RequestsAlike one two request other) (bare : header ∉ coveredNames)
    (runs : Runs ((service choice isolation lender own).serve request header) history response)
    (again : Runs ((service choice isolation lender own).serve other header) others answer)
    (concur : Concur one two history others) : LogsAlike request other history others response answer := by
  have chosen : RequestId.choose other header = RequestId.choose request header := by
    unfold RequestId.choose RequestId.sent?
    rw [alike.header bare]
  have plain : Asks Plainly (RequestId.choose request header) := by
    unfold RequestId.choose
    split
    · trivial
    · exact ⟨trivial, fun _ => trivial⟩
  obtain ⟨choosing, id, rest, rfl, chose, serves⟩ := runs.bind
  obtain ⟨picking, named, more, rfl, picked, mirrored⟩ := again.bind
  rw [chosen] at picked
  obtain ⟨first, rfl, concur⟩ := (Mirrors.itself plain).together chose picked concur
  obtain ⟨dispatching, result, last, rfl, dispatched, ending⟩ := serves.bind
  obtain ⟨sending, mirror, final, rfl, sent, closing⟩ := mirrored.bind
  obtain ⟨second, results, -⟩ :=
    (dispatch_mirrors tokens impartial isolation lender own none _ _ alike).together dispatched sent concur
  have reported := echoes_report (List.rel_append first second)
  cases results with
  | none =>
    obtain ⟨rfl, rfl⟩ := ending.ended
    obtain ⟨rfl, rfl⟩ := closing.ended
    simp only [List.append_nil]
    exact .same reported
  | some answers =>
    obtain ⟨-, after, rfl, ended⟩ := ending.asked
    obtain ⟨-, later, rfl, closed⟩ := closing.asked
    obtain ⟨rfl, rfl⟩ := ended.ended
    obtain ⟨rfl, rfl⟩ := closed.ended
    rw [← List.append_assoc, ← List.append_assoc]
    exact alike.ended reported answers id _

theorem refuse_logs (tokens : TokensAlike one two) (impartial : ChoiceImpartial one two choice)
    (alike : RequestsAlike one two request other) {failure : Failure}
    (runs : Runs ((service choice isolation lender own).refuse failure request) history response)
    (again : Runs ((service choice isolation lender own).refuse failure other) others answer)
    (concur : Concur one two history others) : LogsAlike request other history others response answer := by
  obtain ⟨dispatching, result, last, rfl, dispatched, ending⟩ := runs.bind
  obtain ⟨sending, mirror, final, rfl, sent, closing⟩ := again.bind
  obtain ⟨rfl, rfl⟩ := ending.ended
  obtain ⟨rfl, rfl⟩ := closing.ended
  obtain ⟨echoes, -, -⟩ :=
    (dispatch_mirrors tokens impartial isolation lender own (some failure) _ _ alike).together dispatched sent concur
  simp only [List.append_nil]
  exact .same (echoes_report echoes)

theorem handle_logs {incoming other : Incoming} (tokens : TokensAlike one two)
    (impartial : ChoiceImpartial one two choice) (alike : ArrivalsAlike one two incoming other)
    (bare : Header.key header ∉ coveredNames)
    (runs : Runs ((service choice isolation lender header).handle incoming) history response)
    (again : Runs ((service choice isolation lender header).handle other) others answer)
    (concur : Concur one two history others) :
    LogsAlike incoming.toRequest other.toRequest history others response answer := by
  have requests := alike.requests
  unfold Service.handle at runs again
  simp only [requests.path, alike.body, requests.checked] at runs again
  split at runs
  next pathless =>
    rw [if_pos pathless] at again
    obtain ⟨leaving, result, last, rfl, left, ending⟩ := runs.bind
    obtain ⟨going, mirror, final, rfl, gone, closing⟩ := again.bind
    obtain ⟨rfl, rfl⟩ := ending.ended
    obtain ⟨rfl, rfl⟩ := closing.ended
    obtain ⟨echoes, -, -⟩ := (leave_mirrors none _ _ requests).together left gone concur
    simp only [List.append_nil]
    exact .same (echoes_report echoes)
  next pathed =>
    rw [if_neg pathed] at again
    split at runs
    next problem unreadable =>
      simp only [unreadable] at again
      exact refuse_logs tokens impartial requests runs again concur
    next readable =>
      simp only [readable] at again
      split at runs
      next named =>
        rw [if_pos named] at again
        exact serve_logs tokens impartial requests bare runs again concur
      next unnamed =>
        rw [if_neg unnamed] at again
        exact refuse_logs tokens impartial requests runs again concur

end

/-- Two runs that agree in everything but the private claims and the address of their callers write the same lines,
unless a caller names the tag of an answer that tells it of itself: the status of that answer is the one thing
in which the lines can differ. -/
theorem private_claims_unlogged (choice : IdentityChoice) (isolation : Isolation) (lender : Sql.Lender)
    (header : String) (bare : Header.key header ∉ coveredNames) {incoming other : Incoming}
    (tokens : TokensAlike one two) (impartial : ChoiceImpartial one two choice)
    (alike : ArrivalsAlike one two incoming other) (world : World σ) (state : σ) (again : World τ) (later : τ)
    (concur : Concur one two (((service choice isolation lender header).handle incoming).trace world state)
      (((service choice isolation lender header).handle other).trace again later)) :
    LogsAlike incoming.toRequest other.toRequest
      (((service choice isolation lender header).handle incoming).trace world state)
      (((service choice isolation lender header).handle other).trace again later)
      (((service choice isolation lender header).handle incoming).run world state).1
      (((service choice isolation lender header).handle other).run again later).1 ∧
    ∀ threshold id status, LogLine.ofEntry? threshold (answeredEntry incoming.toRequest id status) =
      LogLine.ofEntry? threshold (answeredEntry other.toRequest id status) :=
  ⟨handle_logs tokens impartial alike bare (trace_runs _ world state) (trace_runs _ again later) concur,
    alike.requests.line⟩

theorem impartial_alone (token : String) (key : Crypto.PublicKey) : Impartial token token key := by
  intro first second read again algorithm
  cases read.symm.trans again
  rfl

structure PropsAlike (token : String) (props others : Props) : Prop where
  borrow : props.borrow = others.borrow
  query : props.query = others.query
  closed : props.closed = others.closed
  endPool : props.endPool = others.endPool
  freshId : props.freshId = others.freshId
  consult : OutcomesAlike (props.consult token) (others.consult token)

structure ScenesAlike (scene other : Scene) : Prop where
  now : scene.now = other.now
  cues : scene.cues = other.cues
  keys : scene.keys = other.keys

theorem Inquiry.alone {token : String} {request other : FetchRequest} (inquiry : Inquiry token token request other) :
    request = other := by
  cases inquiry <;> rfl

theorem ScenesAlike.fetched {scene other : Scene} (alike : ScenesAlike scene other) (request : FetchRequest) :
    (scene.answerFetch request).1 = (other.answerFetch request).1 ∧
      ScenesAlike (scene.answerFetch request).2 (other.answerFetch request).2 := by
  unfold Scene.answerFetch
  split
  · exact ⟨rfl, alike⟩
  · rw [← alike.cues]
    split
    · exact ⟨rfl, alike⟩
    · exact ⟨rfl, congrArg (Number.add · _) alike.now, rfl, alike.keys⟩

section
variable {token : String} {props others : Props} (laid : PropsAlike token props others) {scene other : Scene}
  (alike : ScenesAlike scene other)
include laid alike

theorem rehearsed_plainly {question : Ask} (plain : Plainly question) :
    (props.world.reply question scene).1 = (others.world.reply question other).1 ∧
      ScenesAlike (props.world.reply question scene).2 (others.world.reply question other).2 := by
  obtain ⟨now, cues, keys⟩ := alike
  cases question with
  | fetch | recallKeys | consult | attachAuth | answer => exact plain.elim
  | clock => exact ⟨now, now, cues, keys⟩
  | borrow => exact ⟨laid.borrow, now, cues, keys⟩
  | query _ statement parameters => exact ⟨congrFun (congrFun laid.query statement) _, now, cues, keys⟩
  | freshId => exact ⟨laid.freshId, now, cues, keys⟩
  | closed => exact ⟨laid.closed, now, cues, keys⟩
  | endPool => exact ⟨laid.endPool, now, cues, keys⟩
  | storeKeys => exact ⟨rfl, now, cues, rfl⟩
  | _ => exact ⟨rfl, now, cues, keys⟩

theorem rehearsed_echo {question mirror : Ask} (paired : Paired token token question mirror) :
    Echo token token ⟨question, (props.world.reply question scene).1⟩ ⟨mirror, (others.world.reply mirror other).1⟩ ∧
      ScenesAlike (props.world.reply question scene).2 (others.world.reply mirror other).2 := by
  obtain ⟨reply, answer, echo⟩ := paired
  have impartial (candidates : List Fields) : ImpartialKeys token token candidates :=
    fun _ _ _ key _ _ => impartial_alone token key
  obtain ⟨now, cues, keys⟩ := alike
  generalize first : (⟨question, reply⟩ : Exchanged) = asked at echo
  generalize last : (⟨mirror, answer⟩ : Exchanged) = again at echo
  cases echo with
  | same _ plain =>
    cases first
    cases last
    obtain ⟨reply, scenes⟩ := rehearsed_plainly laid ⟨now, cues, keys⟩ plain
    rw [← reply]
    exact ⟨.same _ plain, scenes⟩
  | recalled =>
    cases first
    cases last
    refine ⟨?_, now, cues, keys⟩
    change Echo token token ⟨.recallKeys, scene.keys⟩ ⟨.recallKeys, other.keys⟩
    rw [← keys]
    exact .recalled _ fun held _ => impartial held.keys
  | fetched inquiry _ _ =>
    cases first
    cases last
    obtain ⟨reply, after, later, kept⟩ := ScenesAlike.fetched ⟨now, cues, keys⟩ _
    cases inquiry.alone
    exact ⟨.fetched inquiry (reply ▸ .same _) fun _ _ _ => ⟨reply, fun published _ => impartial published⟩,
      after, later, kept⟩
  | consulted signal _ =>
    cases first
    cases last
    exact ⟨.consulted signal laid.consult, now, cues, keys⟩
  | attached alike =>
    cases first
    cases last
    exact ⟨.attached alike, now, cues, keys⟩
  | answered alike =>
    cases first
    cases last
    exact ⟨.answered alike, now, cues, keys⟩

end

/-- Rehearsals over replies that are laid down alike agree wherever their questions correspond. -/
theorem rehearsals_concur {token : String} {props others : Props} (laid : PropsAlike token props others)
    (flow : Flow α) (mirror : Flow β) {scene other : Scene} (alike : ScenesAlike scene other) :
    Concur token token (flow.trace props.world scene) (mirror.trace others.world other) := by
  induction flow generalizing mirror scene other with
  | done value => exact trivial
  | ask question next ih =>
    cases mirror with
    | done value => exact trivial
    | ask again rest =>
      intro paired
      obtain ⟨echo, scenes⟩ := rehearsed_echo laid alike paired
      exact ⟨echo, ih _ _ scenes⟩

def renamedClaims : Fields :=
  [("sub", .text "11111111-1111-1111-1111-111111111111"), ("preferred_username", .text "robert@example.test"),
    ("org_id", .text "22222222-2222-2222-2222-222222222222"), ("name", .text "Bob")]

theorem renamed_alike : ClaimsAlike acceptedClaims renamedClaims :=
  ⟨by decide +kernel, iff_of_true ⟨"ada@example.test", rfl⟩ ⟨"robert@example.test", rfl⟩⟩

def knowing (claims : Fields) : Props := judging (.ok (some claims)) (.ok ())

theorem knowing_alike {claims others : Fields} (alike : ClaimsAlike claims others) (token : String) :
    PropsAlike token (knowing claims) (knowing others) :=
  ⟨rfl, rfl, rfl, rfl, rfl, .found (.some alike)⟩

theorem private_claims_unlogged_renamed :
    Header.key RequestId.standardHeader ∉ coveredNames ∧ TokensAlike "first" "first" ∧
    ChoiceImpartial "first" "first" (.token judgedIdentity) ∧
    ArrivalsAlike "first" "first" (bearing "first") (bearing "first") ∧
    Concur "first" "first" (judgedTrace (knowing acceptedClaims) (bearing "first"))
      (judgedTrace (knowing renamedClaims) (bearing "first")) ∧
    LogsAlike (bearing "first").toRequest (bearing "first").toRequest
      (judgedTrace (knowing acceptedClaims) (bearing "first")) (judgedTrace (knowing renamedClaims) (bearing "first"))
      (judgedResponse (knowing acceptedClaims) (bearing "first"))
      (judgedResponse (knowing renamedClaims) (bearing "first")) := by
  have bare : Header.key RequestId.standardHeader ∉ coveredNames := by decide +kernel
  have impartial : ChoiceImpartial "first" "first" (.token judgedIdentity) := trivial
  have presented : presentedToken (bearing "first").toRequest.headers = some "first" := by decide +kernel
  have alike : ArrivalsAlike "first" "first" (bearing "first") (bearing "first") :=
    ⟨rfl, rfl, rfl, rfl, rfl, presented ▸ .some⟩
  have begun : ScenesAlike (.begin 0 []) (.begin 0 []) := ⟨rfl, rfl, rfl⟩
  have concur := rehearsals_concur (knowing_alike renamed_alike "first") (judgedService.handle (bearing "first"))
    (judgedService.handle (bearing "first")) begun
  exact ⟨bare, .same rfl, impartial, alike, concur,
    (private_claims_unlogged _ _ _ _ bare (.same rfl) impartial alike _ _ _ _ concur).1⟩

theorem unpresented {headers others : List (String × String)} (bare : presentedToken headers = none)
    (unsent : presentedToken others = none) :
    PresentedAlike one two (presentedToken headers) (presentedToken others) := by
  rw [bare, unsent]
  exact .none

def joined : Props :=
  ⟨.ok (), fun _ _ => .ok [[("role", .text "member")]], fun _ => .ok none, none, .ok (), "id"⟩

/-- A caller who names the tag of what is answered to the first address. -/
def holding (email : String) : Incoming :=
  ⟨"GET", "/v1/context", [("X-User-ID", "11111111-1111-1111-1111-111111111111"), ("X-Email", email),
    ("X-Selected-Org", "22222222-2222-2222-2222-222222222222"),
    ("If-None-Match", "W/\"10c-1pBJm7ifZS1SAMWBLyIjYN0ckOg\""), ("X-Request-ID", "one")], none⟩

def pingFrom (email : String) : Incoming := ⟨"GET", "/ping", [("X-Email", email)], none⟩

/-- A service that takes the address for the name of a request. -/
def misnamedService : Service :=
  service (.gateway ⟨standardPublicPaths⟩) ⟨.plain, true, standardPublicPaths⟩ .plain "x-email"

def linesOf (service : Service) (incoming : Incoming) : List Fields :=
  (Transcript.reports ((service.handle incoming).trace joined.world (.begin 0 []))).filterMap (LogLine.ofEntry? .info)

/-- The address decides whether the caller is told again, and it is written down as the name of the request. -/
theorem address_logged :
    ArrivalsAlike "" "" (holding "ada@example.test") (holding "robert@example.test") ∧
    linesOf gatewayService (holding "ada@example.test") ≠ linesOf gatewayService (holding "robert@example.test") ∧
    ArrivalsAlike "" "" (pingFrom "ada@example.test") (pingFrom "robert@example.test") ∧
    linesOf misnamedService (pingFrom "ada@example.test") ≠
      linesOf misnamedService (pingFrom "robert@example.test") := by
  have renewed : HeadersAlike "" "" (holding "ada@example.test").toRequest.headers
      (holding "robert@example.test").toRequest.headers :=
    ⟨by decide +kernel, by decide +kernel, unpresented (by decide +kernel) (by decide +kernel)⟩
  have named : HeadersAlike "" "" (pingFrom "ada@example.test").toRequest.headers
      (pingFrom "robert@example.test").toRequest.headers :=
    ⟨by decide +kernel, by decide +kernel, unpresented (by decide +kernel) (by decide +kernel)⟩
  exact ⟨⟨rfl, rfl, rfl, renewed⟩, by decide +kernel, ⟨rfl, rfl, rfl, named⟩, by decide +kernel⟩

end TenantAccess.Proofs
