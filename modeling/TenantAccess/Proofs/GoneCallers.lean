import TenantAccess.Proofs.FlowRuns
import TenantAccess.Proofs.StageCourses
import TenantAccess.Proofs.VerifierBounds

/-! Callers who go away while their token is verified. The verification is told to stop, and every
watch on a connection is taken back. A verification that came to a result ends in silence; one that
failed is answered all the same. -/

namespace TenantAccess.Proofs
open Rehearsal

/-- What a stage does with its caller and with those after it. A verifier does none of this. -/
def StageWork : Ask → Prop
  | .watchClose | .unwatchClose | .attachAuth _ | .attachTenant _ | .pass _ | .answer _ => True
  | _ => False

/-- What the caller, the request or the stages after this one get to see. -/
def Outward : Ask → Prop
  | .attachAuth _ | .attachTenant _ | .pass _ | .answer _ => True
  | _ => False

/-- What goes on to the stages after this one. -/
def Onward : Ask → Prop
  | .attachAuth _ | .attachTenant _ | .pass _ => True
  | _ => False

def Free (asks : Ask → Prop) (history : List Exchanged) : Prop := ∀ asked ∈ history, ¬ asks asked.question

def Silent (history : List Exchanged) : Prop := Free Outward history

structure Presents (stage : TokenIdentity) (request : Request) (token : String) : Prop where
  provided : stage.provider ≠ .none
  guarded : isPublicPath request.fullPath stage.publicPaths = false
  presented : (request.header? "authorization").bind Bearer.token? = some token

/-- The caller went away, and the answer had not ended by then. -/
def Gone (closing : Option Bool) : Prop := closing = some false

instance (closing : Option Bool) : Decidable (Gone closing) := inferInstanceAs (Decidable (closing = some false))

def signalOf (closing : Option Bool) : Signal := if Gone closing then .duringRequest else .never

/-- The watch on the connection, up to what it tells while the token is verified. -/
def watched (closing : Option Bool) : List Exchanged :=
  [⟨.watchClose, ()⟩, ⟨.closed, closing⟩] ++ if Gone closing then [⟨.abort, ()⟩] else []

structure Attended (stage : TokenIdentity) (request : Request) (token : String) (next : Next)
    (history : List Exchanged) (result : Option Answer) (closing : Option Bool) (outcome : Outcome)
    (concluding : List Exchanged) : Prop where
  spans : ∃ verifying, history = watched closing ++ (verifying ++ (concluding ++ [⟨.unwatchClose, ()⟩])) ∧
    Runs (stage.verifier.verify token (signalOf closing)) verifying outcome
  concluded : Runs (stage.conclude request (signalOf closing) outcome next) concluding result

def goneEntry (stage : TokenIdentity) : LogEntry :=
  ⟨.info, [LogEntry.text "method" stage.verifier.method], "client disconnected during token verification"⟩

def failedEntry (failure : Failure) : LogEntry :=
  ⟨.warn, [("error", .failure failure)], "token verification failed"⟩

/-- What follows a verification whose caller is gone, and what the stage comes back with. -/
def farewell (stage : TokenIdentity) : Outcome → List Exchanged × Option Answer
  | .ok _ => ([⟨.report (goneEntry stage), ()⟩], none)
  | .error failure =>
    ([⟨.report (failedEntry failure), ()⟩, answering TokenIdentity.refusedToken], some TokenIdentity.refusedToken)

theorem watch_tells {history : List Exchanged} {signal : Signal} (runs : Runs TokenIdentity.watch history signal) :
    ∃ closing, history = watched closing ∧ signal = signalOf closing := by
  obtain ⟨-, rest, rfl, asked⟩ := runs.asked
  obtain ⟨closing, more, rfl, told⟩ := asked.asked
  refine ⟨closing, ?_⟩
  match closing with
  | some false =>
    obtain ⟨-, last, rfl, ended⟩ := told.asked
    obtain ⟨rfl, rfl⟩ := ended.ended
    exact ⟨rfl, rfl⟩
  | some true | none =>
    obtain ⟨rfl, rfl⟩ := told.ended
    exact ⟨rfl, rfl⟩

/-- A verifier keeps its hands off what belongs to the stage. -/
theorem verifier_apart (verifier : Verifier) (token : String) (signal : Signal) :
    Asks (fun question => ¬ StageWork question) (verifier.verify token signal) := by
  cases verifier with
  | consulted method => exact ⟨id, fun _ => trivial⟩
  | _ =>
    refine (verifier_inward (fun _ same => by cases same) token signal).weaken fun question inward => ?_
    cases question <;> first | exact inward.elim | exact id

section
variable {stage : TokenIdentity} {request : Request} {token : String} {next : Next} {history : List Exchanged}
  {result : Option Answer} {closing : Option Bool} {outcome : Outcome} {concluding : List Exchanged}

theorem token_attended (presents : Presents stage request token) (runs : Runs (stage.run request next) history result) :
    ∃ closing outcome concluding, Attended stage request token next history result closing outcome concluding := by
  unfold TokenIdentity.run at runs
  simp only [if_neg presents.provided, presents.guarded, presents.presented, Bool.false_eq_true, if_false] at runs
  obtain ⟨watching, signal, rest, rfl, watches, verifies⟩ := runs.bind
  obtain ⟨closing, rfl, rfl⟩ := watch_tells watches
  obtain ⟨verifying, outcome, rest, rfl, verified, concludes⟩ := verifies.bind
  obtain ⟨concluding, answer, last, rfl, concluded, unwatches⟩ := concludes.bind
  obtain ⟨-, none, rfl, ended⟩ := unwatches.asked
  obtain ⟨rfl, rfl⟩ := ended.ended
  exact ⟨closing, outcome, concluding, ⟨verifying, rfl, verified⟩, concluded⟩

/-- Nothing but a report follows a result that came too late, and no answer is kept from one who failed. -/
theorem conclude_gone (runs : Runs (stage.conclude request .duringRequest outcome next) concluding result) :
    (concluding, result) = farewell stage outcome := by
  match outcome with
  | .error failure =>
    obtain ⟨-, rest, rfl, responds⟩ := runs.asked
    obtain ⟨-, last, rfl, ended⟩ := responds.asked
    obtain ⟨rfl, rfl⟩ := ended.ended
    rfl
  | .ok claims =>
    obtain ⟨-, rest, rfl, ended⟩ := runs.asked
    obtain ⟨rfl, rfl⟩ := ended.ended
    rfl

theorem watched_silent (closing : Option Bool) : Silent (watched closing) := by
  intro asked member
  unfold watched at member
  split at member
  · simp only [List.cons_append, List.nil_append, List.mem_cons, List.not_mem_nil, or_false] at member
    rcases member with rfl | rfl | rfl <;> exact id
  · simp only [List.append_nil, List.mem_cons, List.not_mem_nil, or_false] at member
    rcases member with rfl | rfl <;> exact id

theorem Outward.work {question : Ask} (outward : Outward question) : StageWork question := by
  cases question <;> first | exact outward.elim | trivial

theorem Onward.outward {question : Ask} (onward : Onward question) : Outward question := by
  cases question <;> first | exact onward.elim | trivial

/-- Whether anything is seen of a verification is decided by how it is concluded. -/
theorem Attended.free_iff {asks : Ask → Prop} (outward : ∀ question, asks question → Outward question)
    (attended : Attended stage request token next history result closing outcome concluding) :
    Free asks history ↔ Free asks concluding := by
  obtain ⟨⟨verifying, rfl, verified⟩, -⟩ := attended
  have watching : Free asks (watched closing) := fun asked member seen =>
    watched_silent closing asked member (outward _ seen)
  have quiet : Free asks verifying := fun asked member seen =>
    verified.within (verifier_apart _ _ _) asked member (outward _ seen).work
  have unwatching : Free asks [⟨.unwatchClose, ()⟩] := by
    intro asked member seen
    rw [List.mem_singleton.mp member] at seen
    exact outward _ seen
  simp only [Free, List.forall_mem_append] at watching quiet unwatching ⊢
  exact ⟨fun all => all.2.2.1, fun free => ⟨watching, quiet, free, unwatching⟩⟩

theorem Attended.farewell (gone : Gone closing)
    (attended : Attended stage request token next history result closing outcome concluding) :
    (concluding, result) = Proofs.farewell stage outcome := by
  have signal : signalOf closing = .duringRequest := if_pos gone
  exact conclude_gone (signal ▸ attended.concluded)

theorem farewell_silent_iff (stage : TokenIdentity) (outcome : Outcome) :
    Silent (Proofs.farewell stage outcome).1 ↔ ∃ claims, outcome = .ok claims := by
  match outcome with
  | .ok claims =>
    refine iff_of_true (fun asked member => ?_) ⟨claims, rfl⟩
    rw [List.mem_singleton.mp member]
    exact id
  | .error failure =>
    refine iff_of_false (fun silent => ?_) (by rintro ⟨claims, same⟩; cases same)
    exact silent (answering TokenIdentity.refusedToken) (by simp [Proofs.farewell]) trivial

theorem farewell_kept (stage : TokenIdentity) (outcome : Outcome) :
    Free Onward (Proofs.farewell stage outcome).1 := by
  intro asked member
  match outcome with
  | .ok claims =>
    rw [List.mem_singleton.mp member]
    exact id
  | .error failure =>
    simp only [Proofs.farewell, List.mem_cons, List.not_mem_nil, or_false] at member
    rcases member with rfl | rfl <;> exact id

end

/-- A flow that takes back every watch it begins. -/
def Tidy (flow : Flow α) : Prop := ∀ history value, Runs flow history value → Transcript.watchesLeft history = 0

theorem Tidy.bind {flow : Flow α} {next : α → Flow β} (tidy : Tidy flow) (rest : ∀ value, Tidy (next value)) :
    Tidy (flow >>= next) := by
  intro history value runs
  obtain ⟨first, middle, second, rfl, earlier, later⟩ := runs.bind
  rw [watchesLeft_append, tidy first middle earlier, rest middle second value later]
  rfl

theorem unwatching_tidy {history : List Exchanged} (apart : ∀ asked ∈ history, ¬ StageWork asked.question) :
    Transcript.watchesLeft history = 0 := by
  induction history with
  | nil => rfl
  | cons asked rest ih =>
    have alone : Transcript.watchesLeft [asked] = 0 := by
      have other := apart asked List.mem_cons_self
      obtain ⟨question, reply⟩ := asked
      cases question <;> first | rfl | exact absurd trivial other
    rw [← List.singleton_append, watchesLeft_append, alone,
      ih fun other member => apart other (List.mem_cons_of_mem _ member)]
    rfl

theorem Tidy.quiet {flow : Flow α} (apart : Asks (fun question => ¬ StageWork question) flow) : Tidy flow :=
  fun _ _ runs => unwatching_tidy (runs.within apart)

theorem Tidy.ask {question : Ask} {next : question.Reply → Flow α}
    (even : ∀ reply, Transcript.watchesLeft [⟨question, reply⟩] = 0) (rest : ∀ reply, Tidy (next reply)) :
    Tidy (.ask question next) := by
  intro history value runs
  cases runs with
  | @ask _ _ reply rest' _ later =>
    rw [← List.singleton_append, watchesLeft_append, even reply, rest reply _ _ later]
    rfl

theorem Tidy.done (value : α) : Tidy (.done value) := by
  rintro history other ⟨⟩
  rfl

theorem Tidy.report {severity : Severity} {fields : List (String × LogValue)} {message : String}
    {next : Unit → Flow α} (rest : Tidy (next ())) : Tidy (Flow.report severity fields message >>= next) :=
  .ask (fun _ => rfl) fun _ => rest

theorem Tidy.respond (answer : Answer) : Tidy (Flow.respond answer) := .ask (fun _ => rfl) fun _ => .done _

section
variable {request : Request} {next : Next} (tidy : ∀ failure inner, Tidy (next failure inner))
include tidy

theorem proceed_tidy (inner : Request) : Tidy (Stage.proceed next inner) := .ask (fun _ => rfl) fun _ => tidy none inner

theorem judgeClaims_tidy (claims : Option Fields) : Tidy (TokenIdentity.judgeClaims request claims next) := by
  unfold TokenIdentity.judgeClaims
  split
  · exact .respond _
  next claims =>
    have read : Tidy (Identity.readClaims claims) := by
      refine .quiet ((readClaims_inward claims).weaken fun question inward => ?_)
      cases question <;> first | exact inward.elim | exact id
    refine read.bind fun outcome => ?_
    cases outcome with
    | error rejection => exact .report (.respond _)
    | ok identity => exact .ask (fun _ => rfl) fun _ => .report (proceed_tidy tidy _)

theorem conclude_tidy (stage : TokenIdentity) (signal : Signal) (outcome : Outcome) :
    Tidy (stage.conclude request signal outcome next) := by
  unfold TokenIdentity.conclude
  split
  · exact .report (.respond _)
  · split
    · exact .report (.done _)
    · exact judgeClaims_tidy tidy _

theorem token_tidy (stage : TokenIdentity) (request : Request) : Tidy (stage.run request next) := by
  by_cases providerless : stage.provider = .none
  · unfold TokenIdentity.run
    rw [if_pos providerless]
    exact .ask (fun _ => rfl) fun _ => proceed_tidy tidy _
  by_cases isPublic : isPublicPath request.fullPath stage.publicPaths = true
  · unfold TokenIdentity.run
    rw [if_neg providerless, if_pos isPublic]
    exact .ask (fun _ => rfl) fun _ => proceed_tidy tidy _
  cases presented : (request.header? "authorization").bind Bearer.token? with
  | none =>
    unfold TokenIdentity.run
    simp only [if_neg providerless, if_neg isPublic, presented]
    exact .respond _
  | some token =>
    -- The watch is the first thing that is asked and its end the last; nothing in between begins one.
    intro history result runs
    obtain ⟨closing, outcome, concluding, ⟨verifying, rfl, verified⟩, concluded⟩ :=
      token_attended ⟨providerless, by simpa using isPublic, presented⟩ runs
    have begun : Transcript.watchesLeft (watched closing) = 1 := by
      unfold watched
      split <;> rfl
    have ended : Transcript.watchesLeft [⟨.unwatchClose, ()⟩] = -1 := rfl
    rw [watchesLeft_append, watchesLeft_append, watchesLeft_append, begun, ended,
      unwatching_tidy (verified.within (verifier_apart _ _ _)), conclude_tidy tidy stage _ _ _ _ concluded]
    rfl

end

/-- Of a verification whose caller is gone nothing is seen exactly when it came to a result, with claims or
without any. One that failed, for whatever reason, is answered, but identifies nobody and hands on nothing.
On every way the last thing that is done is to take back the watch. -/
theorem gone_callers_untold (stage : TokenIdentity) (request : Request) (next : Next) (world : World σ) (state : σ) :
    (∀ token, Presents stage request token → ∃ closing outcome concluding,
      Attended stage request token next ((stage.run request next).trace world state)
        ((stage.run request next).run world state).1 closing outcome concluding) ∧
    (∀ token closing outcome concluding, Gone closing →
      Attended stage request token next ((stage.run request next).trace world state)
        ((stage.run request next).run world state).1 closing outcome concluding →
      (concluding, ((stage.run request next).run world state).1) = farewell stage outcome ∧
      Free Onward ((stage.run request next).trace world state) ∧
      (Silent ((stage.run request next).trace world state) ↔ ∃ claims, outcome = .ok claims)) ∧
    ((∀ failure inner, Tidy (next failure inner)) →
      Transcript.watchesLeft ((stage.run request next).trace world state) = 0) := by
  have runs := trace_runs (stage.run request next) world state
  refine ⟨fun token presents => token_attended presents runs, fun token closing outcome concluding gone attended => ?_,
    fun tidy => token_tidy tidy stage request _ _ runs⟩
  have told := attended.farewell gone
  have told_first : concluding = (farewell stage outcome).1 := congrArg Prod.fst told
  refine ⟨told, (attended.free_iff fun _ => Onward.outward).mpr ?_, (attended.free_iff fun _ => id).trans ?_⟩
  · exact told_first ▸ farewell_kept stage outcome
  · rw [told_first]
    exact farewell_silent_iff stage outcome

def leftIdentity : TokenIdentity := ⟨.consulted "stub", .auth0, []⟩

def leftRequest : Request :=
  (⟨"GET", "/v1/context", [("Authorization", "Bearer good-token")], none⟩ : Incoming).toRequest

def nobodyNext : Next := fun _ _ => .done none

def leaving (outcome : Outcome) : Props :=
  ⟨.ok (), fun _ _ => .ok [], fun _ => outcome, some false, .ok (), "id"⟩

def leftTrace (outcome : Outcome) : List Exchanged :=
  (leftIdentity.run leftRequest nobodyNext).trace (leaving outcome).world (.begin 0 [])

def leftAnswer (outcome : Outcome) : Option Answer :=
  ((leftIdentity.run leftRequest nobodyNext).run (leaving outcome).world (.begin 0 [])).1

theorem left_presents : Presents leftIdentity leftRequest "good-token" :=
  ⟨nofun, by decide +kernel, by decide +kernel⟩

theorem farewell_runs (stage : TokenIdentity) (request : Request) (outcome : Outcome) (next : Next) :
    Runs (stage.conclude request .duringRequest outcome next) (farewell stage outcome).1
      (farewell stage outcome).2 := by
  match outcome with
  | .error failure => exact .ask _ (.ask _ (.done _))
  | .ok claims => exact .ask _ (.done none)

theorem left_attended (outcome : Outcome)
    (spans : leftTrace outcome = watched (some false) ++ ([⟨.consult "good-token" .duringRequest, outcome⟩] ++
      ((farewell leftIdentity outcome).1 ++ [⟨.unwatchClose, ()⟩])))
    (answered : leftAnswer outcome = (farewell leftIdentity outcome).2) :
    Attended leftIdentity leftRequest "good-token" nobodyNext (leftTrace outcome) (leftAnswer outcome) (some false)
      outcome (farewell leftIdentity outcome).1 :=
  ⟨⟨_, spans, .ask _ (.done _)⟩, answered ▸ farewell_runs leftIdentity leftRequest outcome nobodyNext⟩

theorem gone_callers_untold_stub :
    Presents leftIdentity leftRequest "good-token" ∧ Gone (some false) ∧
    (∀ failure inner, Tidy (nobodyNext failure inner)) ∧
    (∃ closing outcome concluding, Attended leftIdentity leftRequest "good-token" nobodyNext
      (leftTrace (.ok none)) (leftAnswer (.ok none)) closing outcome concluding) ∧
    Attended leftIdentity leftRequest "good-token" nobodyNext (leftTrace (.ok none)) (leftAnswer (.ok none))
      (some false) (.ok none) (farewell leftIdentity (.ok none)).1 ∧
    Silent (leftTrace (.ok none)) ∧ Transcript.watchesLeft (leftTrace (.ok none)) = 0 := by
  have untold := gone_callers_untold leftIdentity leftRequest nobodyNext (leaving (.ok none)).world (.begin 0 [])
  have tidy : ∀ failure inner, Tidy (nobodyNext failure inner) := fun _ _ => .done none
  have attended := left_attended (.ok none) (by with_unfolding_all rfl) (by with_unfolding_all rfl)
  exact ⟨left_presents, rfl, tidy, untold.1 _ left_presents, attended,
    (untold.2.1 _ _ _ _ rfl attended).2.2.mpr ⟨none, rfl⟩, untold.2.2 tidy⟩

/-- A caller who goes away from a verification that fails is told that the token is refused. -/
theorem failed_verification_told :
    Presents leftIdentity leftRequest "good-token" ∧
    Attended leftIdentity leftRequest "good-token" nobodyNext (leftTrace (.error (.error "Error" "boom")))
      (leftAnswer (.error (.error "Error" "boom"))) (some false) (.error (.error "Error" "boom"))
      (farewell leftIdentity (.error (.error "Error" "boom"))).1 ∧
    ¬ Silent (leftTrace (.error (.error "Error" "boom"))) ∧
    leftAnswer (.error (.error "Error" "boom")) = some TokenIdentity.refusedToken := by
  have attended := left_attended (.error (.error "Error" "boom")) (by with_unfolding_all rfl)
    (by with_unfolding_all rfl)
  refine ⟨left_presents, attended, fun silent => ?_, by with_unfolding_all rfl⟩
  exact silent (answering TokenIdentity.refusedToken)
    (by rw [attended.spans.choose_spec.1]; simp [farewell]) trivial

end TenantAccess.Proofs
