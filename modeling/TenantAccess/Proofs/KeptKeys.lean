import TenantAccess.Proofs.KeyLookups
import TenantAccess.Proofs.VerifierBounds

/-! Verifications that share one entry. What a verification comes to is what it would come to
with nothing held, however the entry was filled, replaced, cleared or outlived in between. -/

namespace TenantAccess.Proofs

/-- A question whose reply nothing but the time has a say in. -/
def Timely : Ask → Prop
  | .clock | .report _ => True
  | _ => False

def Offline : Ask → Prop
  | .fetch _ => False
  | _ => True

section
variable {world : World σ} {state after : σ}

theorem run_resumes (flow : Flow α) (world : World σ) (state : σ) :
    flow.run world state = match flow.toFetch world state with
      | (.finished value, after) => (value, after)
      | (.waiting request next, after) =>
        (next (world.reply (.fetch request) after).1).run world (world.reply (.fetch request) after).2 := by
  induction flow generalizing state with
  | done value => rfl
  | ask question next ih => cases question <;> first | rfl | exact ih _ _

theorem toFetch_finished {flow : Flow α} {next : α → Flow β} {value : α}
    (ended : flow.toFetch world state = (.finished value, after)) :
    (flow >>= next).toFetch world state = (next value).toFetch world after := by
  induction flow generalizing state with
  | done value => cases ended; rfl
  | ask question rest ih => cases question <;> first | exact ih _ ended | cases ended

theorem toFetch_waiting {flow : Flow α} {next : α → Flow β} {request : FetchRequest}
    {rest : FetchReply → Flow α} (paused : flow.toFetch world state = (.waiting request rest, after)) :
    (flow >>= next).toFetch world state = (.waiting request fun reply => rest reply >>= next, after) := by
  induction flow generalizing state with
  | done value => cases paused
  | ask question rest ih => cases question <;> first | exact ih _ paused | (cases paused; rfl)

theorem offline_finishes {flow : Flow α} (offline : Asks Offline flow) (world : World σ) (state : σ) :
    flow.toFetch world state = (.finished (flow.run world state).1, (flow.run world state).2) := by
  induction flow generalizing state with
  | done value => rfl
  | ask question next ih => cases question <;> first | exact absurd offline.1 id | exact ih _ (offline.2 _) _

end

/-- What is timely ends alike whatever is held, and leaves it as it is. -/
theorem timely_run {flow : Flow α} (timely : Asks Timely flow) (others bare : (question : Ask) → question.Reply)
    (shared : Shared) (entry : Option CachedKeys) :
    flow.run (Shared.world others) shared =
      ((flow.run (Shared.world bare) ⟨shared.now, entry⟩).1, shared) := by
  induction flow with
  | done value => rfl
  | ask question next ih => cases question <;> first | exact absurd timely.1 id | exact ih _ (timely.2 _)

theorem timely_alike {flow : Flow α} (timely : Asks Timely flow)
    (others bare : (question : Ask) → question.Reply) {shared other : Shared} (now : shared.now = other.now) :
    (flow.run (Shared.world others) shared).1 = (flow.run (Shared.world bare) other).1 := by
  rw [timely_run timely others bare shared other.entry, now]

theorem timely_finishes {flow : Flow α} (timely : Asks Timely flow)
    (others bare : (question : Ask) → question.Reply) (shared : Shared) (entry : Option CachedKeys) :
    flow.toFetch (Shared.world others) shared =
      (.finished (flow.run (Shared.world bare) ⟨shared.now, entry⟩).1, shared) := by
  have offline : Asks Offline flow := timely.weaken fun question held => by
    cases question <;> trivial
  rw [offline_finishes offline, timely_run timely others bare shared entry]

theorem findKey_timely (configured : SigningAlgorithm) (id : String) (candidates : List Fields) :
    Asks Timely (PublishedKeys.findKey configured id candidates) := by
  induction candidates with
  | nil => trivial
  | cons fields rest ih =>
    unfold PublishedKeys.findKey
    split
    · split
      · trivial
      · exact ⟨trivial, fun _ => ih⟩
      · exact ⟨trivial, fun _ => ih⟩
    · exact ih

theorem localKey_timely (held : LocalKey) (method token : String) : Asks Timely (held.verify method token) := by
  refine ⟨trivial, fun now => ?_⟩
  change Asks Timely ((held.check token now).conclude method)
  cases held.check token now <;> exact ⟨trivial, fun _ => trivial⟩

theorem verifyUnder_timely (keys : PublishedKeys) (id token : String) (candidates : List Fields) :
    Asks Timely (keys.verifyUnder id token candidates) := by
  refine (findKey_timely keys.algorithm id candidates).bind fun found => ?_
  split
  · exact ⟨trivial, fun _ => trivial⟩
  · exact localKey_timely _ _ _

def judgeUnder (keys : PublishedKeys) (id token : String) :
    Except Keys.LookupFailure (List Fields) → Flow (Option Fields)
  | .error failure => do
    PublishedKeys.reportLookupFailure keys.url failure
    pure none
  | .ok candidates => keys.verifyUnder id token candidates

theorem judgeUnder_timely (keys : PublishedKeys) (id token : String)
    (outcome : Except Keys.LookupFailure (List Fields)) : Asks Timely (judgeUnder keys id token outcome) := by
  cases outcome with
  | error failure =>
    simp only [judgeUnder, PublishedKeys.reportLookupFailure]
    split <;> exact ⟨trivial, fun _ => trivial⟩
  | ok candidates => exact verifyUnder_timely keys id token candidates

/-- The two ways a verification can go: the token alone decides, or keys are looked up for it. -/
inductive VerifyForm (keys : PublishedKeys) (token : String) (signal : Signal) : Prop where
  | alone (timely : Asks Timely (keys.verify token signal))
  | looked (id : String)
      (same : keys.verify token signal = Keys.getKeys keys.cache keys.url signal >>= judgeUnder keys id token)

theorem verify_named (keys : PublishedKeys) {token id : String} {header : Fields} (signal : Signal)
    (decoded : SignedToken.protectedHeader? token = some header) (found : header.get? "kid" = some (.text id))
    (nonempty : id ≠ "") :
    keys.verify token signal = Keys.getKeys keys.cache keys.url signal >>= judgeUnder keys id token := by
  simp only [PublishedKeys.verify, decoded, found, if_neg nonempty]
  refine congrArg (Keys.getKeys keys.cache keys.url signal >>= ·) (funext fun outcome => ?_)
  cases outcome <;> rfl

theorem verify_form (keys : PublishedKeys) (token : String) (signal : Signal) : VerifyForm keys token signal := by
  by_cases named : NamesKey token
  · obtain ⟨header, id, decoded, found, nonempty⟩ := named
    exact .looked id (verify_named keys signal decoded found nonempty)
  · refine .alone ?_
    unfold PublishedKeys.verify
    split
    · exact ⟨trivial, fun _ => trivial⟩
    next header decoded =>
      split
      next id found =>
        split
        · exact ⟨trivial, fun _ => trivial⟩
        next nonempty => exact absurd ⟨header, id, decoded, found, nonempty⟩ named
      · exact ⟨trivial, fun _ => trivial⟩

/-- One use of the entry: a verification, or a lookup on behalf of someone else. -/
inductive KeyUse where
  | verify (token : String) (signal : Signal)
  | lookup (url : String) (signal : Signal)

/-- What a lookup finds is not for the verifier. -/
def KeyUse.flow (keys : PublishedKeys) : KeyUse → Flow (Option Fields)
  | .verify token signal => keys.verify token signal
  | .lookup url signal => Keys.getKeys keys.cache url signal >>= fun _ => pure none

inductive KeyEvent where
  | start (use : KeyUse)
  | respond (index : Nat) (reply : FetchReply)
  | clear
  | setClock (now : Number)

structure KeyUses where
  shared : Shared
  started : List (Flow.Paused (Option Fields))

namespace KeyUses

def begin (now : Number) : KeyUses := ⟨⟨now, none⟩, []⟩

variable (keys : PublishedKeys) (others : (question : Ask) → question.Reply)

def start (uses : KeyUses) (use : KeyUse) : KeyUses :=
  let (stage, shared) := (use.flow keys).toFetch (Shared.world others) uses.shared
  ⟨shared, uses.started ++ [stage]⟩

/-- A use that waits goes on up to its next request; a reply nobody waits for is dropped. -/
def respond (uses : KeyUses) (index : Nat) (reply : FetchReply) : KeyUses :=
  match uses.started[index]? with
  | some (.waiting _ next) =>
    let (stage, shared) := (next reply).toFetch (Shared.world others) uses.shared
    ⟨shared, uses.started.set index stage⟩
  | _ => uses

def step (uses : KeyUses) : KeyEvent → KeyUses
  | .start use => uses.start keys others use
  | .respond index reply => uses.respond others index reply
  | .clear => { uses with shared := { uses.shared with entry := none } }
  | .setClock now => { uses with shared := { uses.shared with now } }

def run (uses : KeyUses) (events : List KeyEvent) : KeyUses := events.foldl (step keys others) uses

end KeyUses

/-- Keys that arrive now expire at a moment that can be written down. -/
def Writable (options : Keys.CacheOptions) (now : Number) : Prop :=
  (Calendar.toText? (now.add options.timeToLive)).isSome

/-- Every request to the verifier's own address is answered with these keys, and the clock stays
where an expiry can be written. Nothing is said of any other address. -/
def Brings (keys : PublishedKeys) (candidates : List Fields) (uses : KeyUses) : KeyEvent → Prop
  | .respond index reply => ∀ request next, uses.started[index]? = some (.waiting request next) →
      request.url = keys.url → Publishes reply candidates
  | .setClock now => Writable keys.cache now
  | .start _ | .clear => True

def BringsAll (keys : PublishedKeys) (others : (question : Ask) → question.Reply) (candidates : List Fields)
    (uses : KeyUses) : List KeyEvent → Prop
  | [] => True
  | event :: rest => Brings keys candidates uses event ∧
      BringsAll keys others candidates (uses.step keys others event) rest

def withDocument (others : (question : Ask) → question.Reply) (document : FetchReply) :
    (question : Ask) → question.Reply
  | .fetch _ => document
  | question => others question

def afresh (keys : PublishedKeys) (others : (question : Ask) → question.Reply) (document : FetchReply)
    (token : String) (signal : Signal) (now : Number) : Option Fields :=
  ((keys.verify token signal).run (Shared.world (withDocument others document)) ⟨now, none⟩).1

/-- A use that waits has sent the request for keys, and goes on with what it brings. -/
inductive Resumes (keys : PublishedKeys) : FetchRequest → (FetchReply → Flow (Option Fields)) → Prop where
  | keys (url : String) (signal : Signal)
      (judge : Except Keys.LookupFailure (List Fields) → Flow (Option Fields))
      (timely : ∀ outcome, Asks Timely (judge outcome)) :
      Resumes keys (Keys.publishedKeysRequest url signal) fun reply => resume keys.cache url reply >>= judge

/-- What is held under the verifier's own address is what this address publishes. -/
structure Faithful (keys : PublishedKeys) (candidates : List Fields) (uses : KeyUses) : Prop where
  held : ∀ entry, uses.shared.entry = some entry → entry.url = keys.url → entry.keys = candidates
  writable : Writable keys.cache uses.shared.now
  pending : ∀ stage ∈ uses.started, ∀ request next, stage = .waiting request next →
    Resumes keys request next

section
variable {keys : PublishedKeys} {others : (question : Ask) → question.Reply} {candidates : List Fields}
  {uses : KeyUses}

theorem begin_faithful {now : Number} (writable : Writable keys.cache now) :
    Faithful keys candidates (.begin now) :=
  ⟨nofun, writable, fun _ member => absurd member List.not_mem_nil⟩

theorem resume_offline (options : Keys.CacheOptions) (url : String) (reply : FetchReply) :
    Asks Offline (resume options url reply) := by
  refine ⟨trivial, fun _ => ?_⟩
  dsimp only [Flow.bind, bind, Flow.request]
  split
  · trivial
  · refine (keep_quiet options url _).weaken fun question quiet => ?_
    cases question <;> trivial

theorem resumed {judge : Except Keys.LookupFailure (List Fields) → Flow (Option Fields)}
    (timely : ∀ outcome, Asks Timely (judge outcome)) (options : Keys.CacheOptions) (url : String)
    (reply : FetchReply) (shared : Shared) :
    let looked := (resume options url reply).run (Shared.world others) shared
    (resume options url reply >>= judge).toFetch (Shared.world others) shared =
      (.finished ((judge looked.1).run (Shared.world others) looked.2).1, looked.2) := by
  intro looked
  rw [toFetch_finished (offline_finishes (resume_offline options url reply) _ shared)]
  exact timely_finishes (timely looked.1) others others looked.2 looked.2.entry

variable (others) in
theorem resume_holds (options : Keys.CacheOptions) (url : String) (reply : FetchReply) (shared : Shared) :
    let after := ((resume options url reply).run (Shared.world others) shared).2
    after.now = shared.now ∧ ∀ entry, after.entry = some entry →
      shared.entry = some entry ∨ (entry.url = url ∧ Publishes reply entry.keys) := by
  cases outcome : Keys.ofOutcome (JsonResponse.ofReply reply) with
  | error failure =>
    rw [resume_failed outcome]
    exact ⟨rfl, fun entry => .inl⟩
  | ok keys =>
    rw [resume_kept outcome]
    refine ⟨rfl, ?_⟩
    rintro entry ⟨rfl⟩
    exact .inr ⟨rfl, (publishes_iff reply keys).mpr outcome⟩

theorem resume_served {options : Keys.CacheOptions} {reply : FetchReply} {shared : Shared} (url : String)
    (published : Publishes reply candidates) (writable : Writable options shared.now) :
    (resume options url reply).run (Shared.world others) shared = (.ok candidates,
      ⟨shared.now, some ⟨url, candidates, shared.now, shared.now.add options.timeToLive⟩⟩) := by
  have written : (Calendar.toText? (shared.now.add options.timeToLive)).isSome := writable
  rw [resume_kept ((publishes_iff reply candidates).mp published), if_pos written]

theorem use_starts (keys : PublishedKeys) (others : (question : Ask) → question.Reply) (use : KeyUse)
    (shared : Shared) : ((use.flow keys).toFetch (Shared.world others) shared).2 = shared ∧
      ∀ request next, ((use.flow keys).toFetch (Shared.world others) shared).1 = .waiting request next →
        Resumes keys request next := by
  have looking (url : String) (signal : Signal)
      (judge : Except Keys.LookupFailure (List Fields) → Flow (Option Fields))
      (timely : ∀ outcome, Asks Timely (judge outcome)) :
      ((Keys.getKeys keys.cache url signal >>= judge).toFetch (Shared.world others) shared).2 = shared ∧
      ∀ request next, ((Keys.getKeys keys.cache url signal >>= judge).toFetch
        (Shared.world others) shared).1 = .waiting request next → Resumes keys request next := by
    cases fresh : Keys.fresh? shared.entry url shared.now with
    | some held =>
      rw [toFetch_finished (getKeys_hit signal fresh), timely_finishes (timely _) others others shared none]
      exact ⟨rfl, nofun⟩
    | none =>
      rw [toFetch_waiting (getKeys_miss signal fresh)]
      refine ⟨rfl, ?_⟩
      rintro request next ⟨⟩
      exact .keys url signal judge timely
  cases use with
  | lookup url signal => exact looking url signal _ fun _ => trivial
  | verify token signal =>
    cases verify_form keys token signal with
    | alone timely =>
      simp only [KeyUse.flow, timely_finishes timely others others shared none]
      exact ⟨trivial, nofun⟩
    | looked id same =>
      simp only [KeyUse.flow, same]
      exact looking keys.url signal _ (judgeUnder_timely keys id token)

variable (others) in
/-- No event that is served so makes the entry wrong. -/
theorem Faithful.step (faithful : Faithful keys candidates uses) {event : KeyEvent}
    (brings : Brings keys candidates uses event) :
    Faithful keys candidates (uses.step keys others event) := by
  cases event with
  | start use =>
    obtain ⟨kept, waits⟩ := use_starts keys others use uses.shared
    simp only [KeyUses.step, KeyUses.start, kept]
    refine ⟨faithful.held, faithful.writable, fun stage member request next waiting => ?_⟩
    rcases List.mem_append.mp member with earlier | last
    · exact faithful.pending stage earlier request next waiting
    · rw [List.mem_singleton.mp last] at waiting
      exact waits request next waiting
  | respond index reply =>
    simp only [KeyUses.step, KeyUses.respond]
    split
    next request next found =>
      have pending := faithful.pending _ (List.mem_of_getElem? found) request next rfl
      cases pending with
      | keys url signal judge timely =>
        obtain ⟨unmoved, holds⟩ := resume_holds others keys.cache url reply uses.shared
        rw [resumed timely]
        refine ⟨fun entry held own => ?_, by rw [unmoved]; exact faithful.writable, ?_⟩
        · rcases holds entry held with earlier | ⟨rfl, published⟩
          · exact faithful.held entry earlier own
          · exact Publishes.unique published (brings _ _ found own)
        · intro stage member request next waiting
          rcases List.mem_or_eq_of_mem_set member with earlier | rfl
          · exact faithful.pending stage earlier request next waiting
          · cases waiting
    next => exact faithful
  | clear => exact ⟨nofun, faithful.writable, faithful.pending⟩
  | setClock now => exact ⟨faithful.held, brings, faithful.pending⟩

theorem run_append_uses (uses : KeyUses) (before after : List KeyEvent) :
    uses.run keys others (before ++ after) = (uses.run keys others before).run keys others after :=
  List.foldl_append

theorem Faithful.run (faithful : Faithful keys candidates uses) {events : List KeyEvent}
    (brings : BringsAll keys others candidates uses events) :
    Faithful keys candidates (uses.run keys others events) := by
  induction events generalizing uses with
  | nil => exact faithful
  | cons event rest ih => exact ih (faithful.step others brings.1) brings.2

theorem bringsAll_append {before after : List KeyEvent} :
    BringsAll keys others candidates uses (before ++ after) ↔
      BringsAll keys others candidates uses before ∧
        BringsAll keys others candidates (uses.run keys others before) after := by
  induction before generalizing uses with
  | nil => simp [BringsAll, KeyUses.run]
  | cons event rest ih => simp only [List.cons_append, BringsAll, ih, KeyUses.run, List.foldl_cons, and_assoc]

variable (keys others) in
/-- A use is left alone by everything but the reply it waits for. -/
theorem use_kept {index : Nat} {stage : Flow.Paused (Option Fields)} (found : uses.started[index]? = some stage)
    (event : KeyEvent)
    (apart : (∃ claims, stage = .finished claims) ∨ ∀ reply, event ≠ .respond index reply) :
    (uses.step keys others event).started[index]? = some stage := by
  have inside : index < uses.started.length := (List.getElem?_eq_some_iff.mp found).1
  cases event with
  | start use => simpa [KeyUses.step, KeyUses.start, List.getElem?_append_left inside] using found
  | respond other reply =>
    simp only [KeyUses.step, KeyUses.respond]
    split
    next request next pending =>
      have elsewhere : other ≠ index := by
        rintro rfl
        rcases apart with ⟨claims, rfl⟩ | unheard
        · rw [pending] at found
          cases found
        · exact unheard reply rfl
      simpa [List.getElem?_set_ne elsewhere] using found
    next => exact found
  | clear | setClock => exact found

variable (keys others) in
theorem uses_kept {index : Nat} {stage : Flow.Paused (Option Fields)} (found : uses.started[index]? = some stage)
    (events : List KeyEvent)
    (apart : (∃ claims, stage = .finished claims) ∨ ∀ reply, .respond index reply ∉ events) :
    (uses.run keys others events).started[index]? = some stage := by
  induction events generalizing uses with
  | nil => exact found
  | cons event rest ih =>
    refine ih (use_kept keys others found event ?_) ?_
    · refine apart.imp_right fun unheard reply same => ?_
      exact unheard reply (by simp [same])
    · refine apart.imp_right fun unheard reply member => ?_
      exact unheard reply (List.mem_cons_of_mem _ member)

variable {document : FetchReply} {token : String} {signal : Signal}

theorem afresh_alone (timely : Asks Timely (keys.verify token signal)) (shared : Shared) :
    afresh keys others document token signal shared.now =
      ((keys.verify token signal).run (Shared.world others) shared).1 := timely_alike timely _ others rfl

theorem afresh_looked (published : Publishes document candidates) {id : String}
    (same : keys.verify token signal = Keys.getKeys keys.cache keys.url signal >>= judgeUnder keys id token)
    (shared : Shared) (writable : Writable keys.cache shared.now) :
    afresh keys others document token signal shared.now =
      ((keys.verifyUnder id token candidates).run (Shared.world others) shared).1 := by
  let bare : Shared := ⟨shared.now, none⟩
  have missed : Keys.fresh? bare.entry keys.url bare.now = none := rfl
  have writes : Writable keys.cache bare.now := writable
  simp only [afresh, same]
  have told (request : FetchRequest) :
      (Shared.world (withDocument others document)).reply (.fetch request) bare = (document, bare) := rfl
  rw [run_resumes, toFetch_waiting (getKeys_miss signal missed)]
  simp only [told]
  rw [Flow.run_bind, resume_served keys.url published writes]
  exact timely_alike (verifyUnder_timely keys id token candidates) _ others rfl

def Waiting (keys : PublishedKeys) (token : String) (signal : Signal) (stage : Flow.Paused (Option Fields)) :
    Prop :=
  ∃ id, keys.verify token signal = Keys.getKeys keys.cache keys.url signal >>= judgeUnder keys id token ∧
    stage = .waiting (Keys.publishedKeysRequest keys.url signal) fun reply =>
      resume keys.cache keys.url reply >>= judgeUnder keys id token

variable (others) in
theorem verify_starts (faithful : Faithful keys candidates uses) (published : Publishes document candidates)
    (token : String) (signal : Signal) :
    ∃ stage,
      (uses.step keys others (.start (.verify token signal))).started[uses.started.length]? = some stage ∧
      (stage = .finished (afresh keys others document token signal uses.shared.now) ∨
        Waiting keys token signal stage) := by
  refine ⟨((keys.verify token signal).toFetch (Shared.world others) uses.shared).1, by
    simp [KeyUses.step, KeyUses.start, KeyUse.flow], ?_⟩
  cases verify_form keys token signal with
  | alone timely =>
    rw [timely_finishes timely others others uses.shared uses.shared.entry, afresh_alone timely]
    exact .inl rfl
  | looked id same =>
    rw [same]
    cases fresh : Keys.fresh? uses.shared.entry keys.url uses.shared.now with
    | none =>
      rw [toFetch_waiting (getKeys_miss signal fresh)]
      exact .inr ⟨id, same, rfl⟩
    | some held =>
      obtain ⟨fetchedAt, expiresAt, entered, -⟩ := (fresh_iff uses.shared keys.url held).mp fresh
      obtain rfl : held = candidates := faithful.held _ entered rfl
      rw [toFetch_finished (getKeys_hit signal fresh), afresh_looked published same uses.shared faithful.writable]
      exact .inl (congrArg Prod.fst (timely_finishes (verifyUnder_timely ..) others others _ uses.shared.entry))

variable (others) in
theorem verify_answered (faithful : Faithful keys candidates uses) (published : Publishes document candidates)
    {index : Nat} {stage : Flow.Paused (Option Fields)} {reply : FetchReply}
    (found : uses.started[index]? = some stage) (waiting : Waiting keys token signal stage)
    (brings : Brings keys candidates uses (.respond index reply)) :
    (uses.step keys others (.respond index reply)).started[index]? =
      some (.finished (afresh keys others document token signal uses.shared.now)) := by
  obtain ⟨id, same, rfl⟩ := waiting
  have inside : index < uses.started.length := (List.getElem?_eq_some_iff.mp found).1
  have arrived : Publishes reply candidates := brings _ _ found rfl
  simp only [KeyUses.step, KeyUses.respond, found]
  rw [resumed (judgeUnder_timely keys id token), resume_served keys.url arrived faithful.writable,
    List.getElem?_set_self inside, afresh_looked published same uses.shared faithful.writable]
  refine congrArg (fun claims => some (Flow.Paused.finished claims)) ?_
  exact timely_alike (verifyUnder_timely keys id token candidates) others others rfl

end

def KeyUses.verifying (keys : PublishedKeys) (others : (question : Ask) → question.Reply) (before : KeyUses)
    (token : String) (signal : Signal) (after : List KeyEvent) : KeyUses :=
  (before.step keys others (.start (.verify token signal))).run keys others after

/-- How a verification ends that starts in the state before, and whose run goes on with the events after. It
ends at once or with the first reply to its one request, and always as if nothing had been held then. -/
inductive Transparent (keys : PublishedKeys) (others : (question : Ask) → question.Reply) (document : FetchReply)
    (before : KeyUses) (token : String) (signal : Signal) (after : List KeyEvent) : Prop where
  | finished
      (kept : (before.verifying keys others token signal after).started[before.started.length]? =
        some (.finished (afresh keys others document token signal before.shared.now)))
  | waiting (next : FetchReply → Flow (Option Fields))
      (unanswered : (∀ reply, .respond before.started.length reply ∉ after) →
        (before.verifying keys others token signal after).started[before.started.length]? =
          some (.waiting (Keys.publishedKeysRequest keys.url signal) next))
      (answered : ∀ middle reply rest, after = middle ++ .respond before.started.length reply :: rest →
        (∀ other, .respond before.started.length other ∉ middle) →
        (before.verifying keys others token signal after).started[before.started.length]? =
          some (.finished (afresh keys others document token signal
            (before.verifying keys others token signal middle).shared.now)))

/-- The entry is not seen in any verification: one that is served from it, one that fills it and one that
meets it emptied, replaced or outlived end as they would with nothing held. Uses may overlap. -/
theorem held_keys_transparent (keys : PublishedKeys) (others : (question : Ask) → question.Reply)
    (document : FetchReply) (candidates : List Fields) (published : Publishes document candidates) (now : Number)
    (writable : Writable keys.cache now) (before : List KeyEvent) (token : String) (signal : Signal)
    (after : List KeyEvent)
    (served : BringsAll keys others candidates (.begin now) (before ++ .start (.verify token signal) :: after)) :
    Transparent keys others document ((KeyUses.begin now).run keys others before) token signal after := by
  obtain ⟨earlier, begun, later⟩ := bringsAll_append.mp served
  have faithful := (begin_faithful writable).run earlier
  obtain ⟨stage, opened, ended | waiting⟩ := verify_starts others faithful published token signal
  · subst ended
    exact .finished (uses_kept keys others opened after (.inl ⟨_, rfl⟩))
  · obtain ⟨id, same, rfl⟩ := waiting
    refine .waiting _ (fun unheard => uses_kept keys others opened after (.inr unheard)) ?_
    rintro middle reply rest rfl unheard
    obtain ⟨quiet, answers, -⟩ := bringsAll_append.mp later
    have reached := uses_kept keys others opened middle (.inr unheard)
    have opening := (faithful.step others begun).run quiet
    have answered := verify_answered others opening published reached ⟨id, same, rfl⟩ answers
    rw [KeyUses.verifying, run_append_uses]
    exact uses_kept keys others answered rest (.inl ⟨_, rfl⟩)

def fleetingKeys : PublishedKeys :=
  ⟨"https://id.example/keys", ⟨.rsaPkcs1, .bits256⟩, none, ⟨.ofInt 1000, .ofInt 10000⟩⟩

def keyDocument : FetchReply := .answered 200 (.ok "\x7b\"keys\":[\x7b\"kid\":\"k\"\x7d]\x7d")

theorem keyDocument_publishes : Publishes keyDocument [[("kid", .text "k")]] :=
  ⟨200, _, [("keys", .list [.record [("kid", .text "k")]])], [.record [("kid", .text "k")]], rfl, by decide,
    by decide, rfl, rfl, rfl⟩

def namingToken : String := "eyJraWQiOiJrIn0.e30.c2ln"

/-- The entry is filled for another address, then by a verification, and then emptied. -/
def turnover : List KeyEvent :=
  [.start (.lookup "https://other.example/keys" .never), .respond 0 (.answered 200 (.ok "\x7b\"keys\":[]\x7d")),
    .start (.verify namingToken .never), .respond 1 keyDocument, .clear, .setClock (.ofInt 5000)]

def stillReplies (question : Ask) : question.Reply := (still.world.reply question speechless).1

theorem held_keys_transparent_turnover : Publishes keyDocument [[("kid", .text "k")]] ∧
    Writable fleetingKeys.cache (.ofInt 0) ∧
    BringsAll fleetingKeys stillReplies [[("kid", .text "k")]] (.begin (.ofInt 0))
      (turnover ++ .start (.verify namingToken .never) :: [.respond 2 keyDocument]) ∧
    Transparent fleetingKeys stillReplies keyDocument
      ((KeyUses.begin (.ofInt 0)).run fleetingKeys stillReplies turnover) namingToken .never
      [.respond 2 keyDocument] := by
  have published := keyDocument_publishes
  have first : Writable fleetingKeys.cache (.ofInt 0) := by
    unfold Writable
    decide +kernel
  have second : Writable fleetingKeys.cache (.ofInt 5000) := by
    unfold Writable
    decide +kernel
  have foreign : Brings fleetingKeys [[("kid", .text "k")]]
      ((KeyUses.begin (.ofInt 0)).step fleetingKeys stillReplies
        (.start (.lookup "https://other.example/keys" .never)))
      (.respond 0 (.answered 200 (.ok "\x7b\"keys\":[]\x7d"))) := by
    rintro request next ⟨⟩ own
    exact absurd own (by decide)
  have served : BringsAll fleetingKeys stillReplies [[("kid", .text "k")]] (.begin (.ofInt 0))
      (turnover ++ .start (.verify namingToken .never) :: [.respond 2 keyDocument]) :=
    ⟨trivial, foreign, trivial, fun _ _ _ _ => published, trivial, second, trivial,
      fun _ _ _ _ => published, trivial⟩
  exact ⟨published, first, served, held_keys_transparent fleetingKeys stillReplies keyDocument _ published
    (.ofInt 0) first turnover namingToken .never _ served⟩

end TenantAccess.Proofs
