import Mathlib.Data.List.Forall2
import TenantAccess.Proofs.FlowRuns
import TenantAccess.Proofs.RequestIds
import TenantAccess.Proofs.StageCourses
import TenantAccess.Rehearsal.Transcript

/-! Two runs that tell their callers apart by private things alone: by the address, and by the claims that
identify nobody. One run is the mirror of the other when, for as long as the replies correspond, it asks the
corresponding question at every step. -/

namespace TenantAccess.Proofs
open Rehearsal

/-- The claims that are not private. -/
def commonClaims : List String := ["sub", "org_id", "organization_id", "active", "iss", "exp", "nbf", "iat"]

def Addressed (claims : Fields) : Prop :=
  ∃ email, Identity.firstClaim? claims ["email", "preferred_username"] = some (.text email)

structure ClaimsAlike (claims others : Fields) : Prop where
  common : ∀ name ∈ commonClaims, claims.get? name = others.get? name
  addressed : Addressed claims ↔ Addressed others

theorem ClaimsAlike.refl (claims : Fields) : ClaimsAlike claims claims := ⟨fun _ _ => rfl, Iff.rfl⟩

abbrev FoundAlike : Option Fields → Option Fields → Prop := Option.Rel ClaimsAlike

theorem found_itself (found : Option Fields) : FoundAlike found found := by
  cases found with
  | none => exact .none
  | some claims => exact .some (.refl claims)

inductive OutcomesAlike : Outcome → Outcome → Prop where
  | failed (failure : Failure) : OutcomesAlike (.error failure) (.error failure)
  | found {found other : Option Fields} (alike : FoundAlike found other) : OutcomesAlike (.ok found) (.ok other)

theorem outcome_itself (outcome : Outcome) : OutcomesAlike outcome outcome := by
  cases outcome with
  | error failure => exact .failed failure
  | ok found => exact .found (found_itself found)

inductive BodiesAlike : Option Json → Option Json → Prop where
  | same (body : Option Json) : BodiesAlike body body
  | claims {claims others : Fields} (alike : ClaimsAlike claims others) :
      BodiesAlike (some (.record claims)) (some (.record others))

inductive RepliesAlike : FetchReply → FetchReply → Prop where
  | same (reply : FetchReply) : RepliesAlike reply reply
  | answered (status : Nat) {text other : String}
      (alike : BodiesAlike (JsonResponse.readBody text) (JsonResponse.readBody other)) :
      RepliesAlike (.answered status (.ok text)) (.answered status (.ok other))

/-- Two tokens with the same header, of callers who are told apart by private claims alone. -/
structure PayloadsAlike (first second : SignedToken) : Prop where
  header : first.header = second.header
  payload : ∃ claims others, SignedToken.decodePart? first.payload = some (.record claims) ∧
    SignedToken.decodePart? second.payload = some (.record others) ∧ ClaimsAlike claims others

inductive TokensAlike (one two : String) : Prop where
  | same (same : one = two)
  | signed {first second : SignedToken} (read : SignedToken.ofText? one = some first)
      (other : SignedToken.ofText? two = some second) (alike : PayloadsAlike first second)

/-- A key that either signed both tokens or neither. -/
def Impartial (one two : String) (key : Crypto.PublicKey) : Prop :=
  ∀ first second, SignedToken.ofText? one = some first → SignedToken.ofText? two = some second →
    ∀ algorithm, key.verify algorithm first.message (Base64.decode first.signature) =
      key.verify algorithm second.message (Base64.decode second.signature)

def ImpartialKeys (one two : String) (candidates : List Fields) : Prop :=
  ∀ fields ∈ candidates, ∀ configured key algorithm,
    PublishedKeys.inspect fields configured = .usable key algorithm → Impartial one two key

structure IdentitiesAlike (identity other : Identity) : Prop where
  subject : identity.subject = other.subject
  organization : identity.organization = other.organization

structure AuthsAlike (auth other : AuthState) : Prop where
  method : auth.method = other.method
  identity : Option.Rel IdentitiesAlike auth.identity other.identity

/-- Of all that is answered only what a caller is told of itself can differ. -/
inductive AnswersAlike : Answer → Answer → Prop where
  | same (answer : Answer) : AnswersAlike answer answer
  | told (request other : Request) :
      AnswersAlike (.json 200 (CallerContext.ofRequest request)) (.json 200 (CallerContext.ofRequest other))

/-- Whatever is neither asked about a token nor tells of a caller. -/
def Plainly : Ask → Prop
  | .fetch _ | .recallKeys | .consult _ _ | .attachAuth _ | .answer _ => False
  | _ => True

/-- What the outside is asked: for the published keys, or about the one token and about the other. -/
inductive Inquiry (one two : String) : FetchRequest → FetchRequest → Prop where
  | keys (url : String) (signal : Signal) :
      Inquiry one two (Keys.publishedKeysRequest url signal) (Keys.publishedKeysRequest url signal)
  | introspection (url : String) (signal : Signal) :
      Inquiry one two (Introspection.request url one signal) (Introspection.request url two signal)
  | userinfo (url : String) (signal : Signal) :
      Inquiry one two (Userinfo.request url one signal) (Userinfo.request url two signal)

/-- One exchange of each run, about the one token and about the other. -/
inductive Echo (one two : String) : Exchanged → Exchanged → Prop where
  | same {question : Ask} (reply : question.Reply) (plain : Plainly question) :
      Echo one two ⟨question, reply⟩ ⟨question, reply⟩
  | recalled (entry : Option CachedKeys) (impartial : ∀ held, entry = some held → ImpartialKeys one two held.keys) :
      Echo one two ⟨.recallKeys, entry⟩ ⟨.recallKeys, entry⟩
  | fetched {request again : FetchRequest} {reply other : FetchReply} (inquiry : Inquiry one two request again)
      (alike : RepliesAlike reply other)
      (impartial : ∀ url signal, request = Keys.publishedKeysRequest url signal → reply = other ∧
        ∀ keys, Keys.ofOutcome (JsonResponse.ofReply reply) = .ok keys → ImpartialKeys one two keys) :
      Echo one two ⟨.fetch request, reply⟩ ⟨.fetch again, other⟩
  | consulted (signal : Signal) {outcome other : Outcome} (alike : OutcomesAlike outcome other) :
      Echo one two ⟨.consult one signal, outcome⟩ ⟨.consult two signal, other⟩
  | attached {auth other : AuthState} (alike : AuthsAlike auth other) :
      Echo one two ⟨.attachAuth auth, ()⟩ ⟨.attachAuth other, ()⟩
  | answered {answer other : Answer} (alike : AnswersAlike answer other) :
      Echo one two ⟨.answer answer, ()⟩ ⟨.answer other, ()⟩

def Paired (one two : String) (question other : Ask) : Prop :=
  ∃ reply answer, Echo one two ⟨question, reply⟩ ⟨other, answer⟩

/-- For as long as the questions correspond, so do the replies. -/
def Concur (one two : String) : List Exchanged → List Exchanged → Prop
  | asked :: history, other :: others =>
    Paired one two asked.question other.question → Echo one two asked other ∧ Concur one two history others
  | _, _ => True

/-- The second flow asks what corresponds to the first, to which every reply corresponds, and comes to what
corresponds to its result. -/
inductive Mirrors (one two : String) (alike : α → β → Prop) : Flow α → Flow β → Prop where
  | done {value : α} {result : β} (same : alike value result) : Mirrors one two alike (.done value) (.done result)
  | ask {question other : Ask} {next : question.Reply → Flow α} {again : other.Reply → Flow β}
      (paired : Paired one two question other)
      (rest : ∀ reply answer, Echo one two ⟨question, reply⟩ ⟨other, answer⟩ →
        Mirrors one two alike (next reply) (again answer)) :
      Mirrors one two alike (.ask question next) (.ask other again)

variable {one two : String}

theorem Echo.plainly {asked other : Exchanged} (echo : Echo one two asked other) (plain : Plainly asked.question) :
    asked = other := by
  cases echo <;> first | rfl | exact plain.elim

theorem Echo.impartially {entry other : Option CachedKeys}
    (echo : Echo one two ⟨.recallKeys, entry⟩ ⟨.recallKeys, other⟩) :
    entry = other ∧ ∀ held, entry = some held → ImpartialKeys one two held.keys := by
  cases echo with
  | same _ plain => exact plain.elim
  | recalled _ impartial => exact ⟨rfl, impartial⟩

theorem Echo.fetching {asked again : Exchanged} (echo : Echo one two asked again) {request inquiry : FetchRequest}
    {reply other : FetchReply} (first : asked = ⟨.fetch request, reply⟩) (last : again = ⟨.fetch inquiry, other⟩) :
    RepliesAlike reply other ∧ ∀ url signal, request = Keys.publishedKeysRequest url signal → reply = other ∧
      ∀ keys, Keys.ofOutcome (JsonResponse.ofReply reply) = .ok keys → ImpartialKeys one two keys := by
  cases echo with
  | same _ plain =>
    cases first
    exact plain.elim
  | fetched _ alike impartial =>
    cases first
    cases last
    exact ⟨alike, impartial⟩
  | recalled | consulted | attached | answered => cases first

theorem Echo.consulting {asked again : Exchanged} (echo : Echo one two asked again) {signal : Signal}
    {outcome other : Outcome} (first : asked = ⟨.consult one signal, outcome⟩)
    (last : again = ⟨.consult two signal, other⟩) : OutcomesAlike outcome other := by
  cases echo with
  | same _ plain =>
    cases first
    exact plain.elim
  | consulted _ alike =>
    cases first
    cases last
    exact alike
  | recalled | fetched | attached | answered => cases first

section
variable {alike : α → β → Prop} {flow : Flow α} {mirror : Flow β}

theorem Mirrors.weaken {wider : α → β → Prop} (mirrors : Mirrors one two alike flow mirror)
    (widens : ∀ value result, alike value result → wider value result) : Mirrors one two wider flow mirror := by
  induction mirrors with
  | done same => exact .done (widens _ _ same)
  | ask paired _ ih => exact .ask paired ih

theorem Mirrors.bind {further : γ → δ → Prop} {next : α → Flow γ} {again : β → Flow δ}
    (mirrors : Mirrors one two alike flow mirror)
    (rest : ∀ value result, alike value result → Mirrors one two further (next value) (again result)) :
    Mirrors one two further (flow >>= next) (mirror >>= again) := by
  induction mirrors with
  | done same => exact rest _ _ same
  | ask paired _ ih => exact .ask paired ih

theorem replied (question : Ask) : Nonempty question.Reply := by
  cases question with
  | clock => exact ⟨.ofInt 0⟩
  | fetch => exact ⟨.unanswered⟩
  | recallKeys | closed => exact ⟨none⟩
  | borrow | endPool => exact ⟨.ok ()⟩
  | query => exact ⟨.ok []⟩
  | freshId => exact ⟨""⟩
  | consult => exact ⟨.ok none⟩
  | _ => exact ⟨()⟩

theorem Mirrors.plain {question : Ask} {next : question.Reply → Flow α} {again : question.Reply → Flow β}
    (plain : Plainly question) (rest : ∀ reply, Mirrors one two alike (next reply) (again reply)) :
    Mirrors one two alike (.ask question next) (.ask question again) := by
  obtain ⟨reply⟩ := replied question
  refine .ask ⟨reply, reply, .same reply plain⟩ fun reply answer echo => ?_
  cases echo.plainly plain
  exact rest reply

theorem Mirrors.request {question : Ask} {next : question.Reply → Flow α} {again : question.Reply → Flow β}
    (plain : Plainly question) (rest : ∀ reply, Mirrors one two alike (next reply) (again reply)) :
    Mirrors one two alike (Flow.request question >>= next) (Flow.request question >>= again) :=
  .plain plain rest

theorem Mirrors.asked {question other : Ask} {next : question.Reply → Flow α} {again : other.Reply → Flow β}
    (paired : Paired one two question other)
    (rest : ∀ reply answer, Echo one two ⟨question, reply⟩ ⟨other, answer⟩ →
      Mirrors one two alike (next reply) (again answer)) :
    Mirrors one two alike (Flow.request question >>= next) (Flow.request other >>= again) :=
  .ask paired rest

end

/-- A flow that asks nothing private is its own mirror. -/
theorem Mirrors.itself {flow : Flow α} (plain : Asks Plainly flow) : Mirrors one two (· = ·) flow flow := by
  induction flow with
  | done value => exact .done rfl
  | ask question next ih => exact .plain plain.1 fun reply => ih reply (plain.2 reply)

/-- Runs of flows that mirror each other go step by step together. -/
theorem Mirrors.together {alike : α → β → Prop} {flow : Flow α} {mirror : Flow β}
    {history others rest more : List Exchanged} {value : α} {result : β}
    (mirrors : Mirrors one two alike flow mirror) (runs : Runs flow history value)
    (again : Runs mirror others result) (concur : Concur one two (history ++ rest) (others ++ more)) :
    List.Forall₂ (Echo one two) history others ∧ alike value result ∧ Concur one two rest more := by
  induction mirrors generalizing history others with
  | done same =>
    cases runs
    cases again
    exact ⟨.nil, same, concur⟩
  | ask paired _ ih =>
    cases runs with
    | ask reply later =>
      cases again with
      | ask answer last =>
        obtain ⟨echo, onward⟩ := concur paired
        obtain ⟨echoes, same, after⟩ := ih reply answer echo later last onward
        exact ⟨.cons echo echoes, same, after⟩

theorem Echo.reports {asked other : Exchanged} (echo : Echo one two asked other) :
    Transcript.reports [asked] = Transcript.reports [other] := by
  cases echo <;> rfl

theorem echoes_report {history others : List Exchanged} (echoes : List.Forall₂ (Echo one two) history others) :
    Transcript.reports history = Transcript.reports others := by
  induction echoes with
  | nil => rfl
  | @cons asked other history others echo _ ih =>
    have first := echo.reports
    rw [← List.singleton_append, ← @List.singleton_append _ other]
    unfold Transcript.reports at first ih ⊢
    rw [List.filterMap_append, List.filterMap_append, first, ih]

end TenantAccess.Proofs
