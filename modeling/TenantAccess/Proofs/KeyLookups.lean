import TenantAccess.Keys.Cache

/-! Lookups of published keys that overlap. One process holds one entry and one clock;
lookups start, their replies arrive in any order, and the entry is cleared in between. -/

namespace TenantAccess.Proofs

structure Shared where
  now : Number
  entry : Option CachedKeys

/-- The clock and the entry are shared; any other question has its own reply. -/
def Shared.world (others : (question : Ask) → question.Reply) : World Shared where
  reply question shared := match question with
    | .clock => (shared.now, shared)
    | .recallKeys => (shared.entry, shared)
    | .storeKeys keys => ((), { shared with entry := some keys })
    | question => (others question, shared)

structure Lookup where
  url : String
  sent : List FetchRequest
  stage : Flow.Paused (Except Keys.LookupFailure (List Fields))

/-- Lookups stand in the order in which they were started. -/
structure Lookups where
  shared : Shared
  started : List Lookup

inductive LookupEvent where
  | start (url : String) (signal : Signal)
  | respond (index : Nat) (reply : FetchReply)
  | clear
  | setClock (now : Number)

def requestsOf (history : List Exchanged) : List FetchRequest :=
  history.filterMap fun asked => match asked.question with
    | .fetch request => some request
    | _ => none

namespace Lookups

def begin (now : Number) : Lookups := ⟨⟨now, none⟩, []⟩

variable (options : Keys.CacheOptions) (others : (question : Ask) → question.Reply)

def start (lookups : Lookups) (url : String) (signal : Signal) : Lookups :=
  match (Keys.getKeys options url signal).toFetch (Shared.world others) lookups.shared with
  | (.waiting request next, shared) => ⟨shared, lookups.started ++ [⟨url, [request], .waiting request next⟩]⟩
  | (.finished outcome, shared) => ⟨shared, lookups.started ++ [⟨url, [], .finished outcome⟩]⟩

/-- A lookup that waits runs to its end; a reply nobody waits for is dropped. -/
def respond (lookups : Lookups) (index : Nat) (reply : FetchReply) : Lookups :=
  match lookups.started[index]? with
  | some ⟨url, sent, .waiting _ next⟩ =>
    let (outcome, shared) := (next reply).run (Shared.world others) lookups.shared
    let more := requestsOf ((next reply).trace (Shared.world others) lookups.shared)
    ⟨shared, lookups.started.set index ⟨url, sent ++ more, .finished outcome⟩⟩
  | _ => lookups

def step (lookups : Lookups) : LookupEvent → Lookups
  | .start url signal => lookups.start options others url signal
  | .respond index reply => lookups.respond others index reply
  | .clear => { lookups with shared := { lookups.shared with entry := none } }
  | .setClock now => { lookups with shared := { lookups.shared with now } }

def run (lookups : Lookups) (events : List LookupEvent) : Lookups :=
  events.foldl (step options others) lookups

end Lookups

/-- A reply carries keys when it is a success and its body is a record with a list
under their name. What is no record in that list is left out. -/
def Publishes (reply : FetchReply) (keys : List Fields) : Prop :=
  ∃ status text, ∃ fields : Fields, ∃ items, reply = .answered status (.ok text) ∧
    200 ≤ status ∧ status ≤ 299 ∧ JsonResponse.readBody text = some (.record fields) ∧
    Fields.get? fields "keys" = some (.list items) ∧
    keys = items.filterMap Json.record?

theorem publishes_iff (reply : FetchReply) (keys : List Fields) :
    Publishes reply keys ↔ Keys.ofOutcome (JsonResponse.ofReply reply) = .ok keys := by
  constructor
  · rintro ⟨status, text, fields, items, rfl, low, high, read, found, rfl⟩
    simp [JsonResponse.ofReply, Keys.ofOutcome, Keys.ofResponse, JsonResponse.isSuccess, low, high, read, found]
  · intro stored
    match reply with
    | .answered status (.ok text) =>
      by_cases range : 200 ≤ status ∧ status ≤ 299
      · simp only [JsonResponse.ofReply, Keys.ofOutcome, Keys.ofResponse, JsonResponse.isSuccess, range,
          decide_true, Bool.and_self, Bool.not_true, Bool.false_eq_true, ↓reduceIte] at stored
        split at stored
        next fields read =>
          split at stored
          next items found =>
            cases stored
            exact ⟨status, text, fields, items, rfl, range.1, range.2, read, found, rfl⟩
          · cases stored
        · cases stored
      · have failed : (200 ≤ status && status ≤ 299) = false := by simpa using range
        simp [JsonResponse.ofReply, Keys.ofOutcome, Keys.ofResponse, JsonResponse.isSuccess, failed] at stored
    | .answered _ (.error _) | .refused _ | .unanswered => cases stored

theorem Publishes.unique {reply : FetchReply} {keys others : List Fields} (first : Publishes reply keys)
    (second : Publishes reply others) : keys = others := by
  rw [publishes_iff] at first second
  rw [first] at second
  exact Except.ok.inj second

section
variable {options : Keys.CacheOptions} {others : (question : Ask) → question.Reply}

def resume (options : Keys.CacheOptions) (url : String) (reply : FetchReply) :
    Flow (Except Keys.LookupFailure (List Fields)) := do
  Flow.request .disarmTimer
  match Keys.ofOutcome (JsonResponse.ofReply reply) with
  | .error failure => pure (.error failure)
  | .ok keys => Keys.keep options url keys

theorem getKeys_hit {shared : Shared} {url : String} {keys : List Fields} (signal : Signal)
    (fresh : Keys.fresh? shared.entry url shared.now = some keys) :
    (Keys.getKeys options url signal).toFetch (Shared.world others) shared =
      (.finished (.ok keys), shared) := by
  simp [Keys.getKeys, Flow.request, Flow.report, Flow.toFetch, Shared.world, fresh, pure, bind, Flow.bind]

theorem getKeys_miss {shared : Shared} {url : String} (signal : Signal)
    (stale : Keys.fresh? shared.entry url shared.now = none) :
    (Keys.getKeys options url signal).toFetch (Shared.world others) shared =
      (.waiting (Keys.publishedKeysRequest url signal) (resume options url), shared) := by
  simp [Keys.getKeys, Flow.request, Flow.report, Flow.toFetch, Shared.world, stale, pure, bind, Flow.bind,
    fetchJson]
  rfl

theorem resume_failed {url : String} {reply : FetchReply} {failure : Keys.LookupFailure}
    (failed : Keys.ofOutcome (JsonResponse.ofReply reply) = .error failure) (shared : Shared) :
    (resume options url reply).run (Shared.world others) shared = (.error failure, shared) := by
  simp [resume, failed, Flow.request, Flow.run, Shared.world, pure, bind, Flow.bind]

/-- Keys that arrive are kept under the clock of that moment, and given back when
their expiry can be written. -/
theorem resume_kept {url : String} {reply : FetchReply} {keys : List Fields}
    (arrived : Keys.ofOutcome (JsonResponse.ofReply reply) = .ok keys) (shared : Shared) :
    let expiry := shared.now.add options.timeToLive
    (resume options url reply).run (Shared.world others) shared =
      (if (Calendar.toText? expiry).isSome then .ok keys else .error .unwritableExpiry,
        ⟨shared.now, some ⟨url, keys, shared.now, expiry⟩⟩) := by
  simp only [resume, arrived, Flow.request, Flow.run, Shared.world, pure, bind, Flow.bind, Keys.keep]
  split
  next unwritten => simp [unwritten, Flow.run]
  next text written => simp [written, Flow.report, Flow.request, Flow.run, Flow.bind]

theorem resume_silent (url : String) (reply : FetchReply) (shared : Shared) :
    requestsOf ((resume options url reply).trace (Shared.world others) shared) = [] := by
  cases outcome : Keys.ofOutcome (JsonResponse.ofReply reply) with
  | error failure =>
    simp [resume, outcome, Flow.request, Flow.trace, requestsOf, pure, bind, Flow.bind]
  | ok keys =>
    simp only [resume, outcome, Flow.request, Flow.trace, Shared.world, pure, bind, Flow.bind, Keys.keep]
    split <;> rfl

namespace Lookups

theorem start_hit {lookups : Lookups} {url : String} {keys : List Fields} (signal : Signal)
    (fresh : Keys.fresh? lookups.shared.entry url lookups.shared.now = some keys) :
    lookups.start options others url signal =
      ⟨lookups.shared, lookups.started ++ [⟨url, [], .finished (.ok keys)⟩]⟩ := by
  simp [start, getKeys_hit signal fresh]

theorem start_miss {lookups : Lookups} {url : String} (signal : Signal)
    (stale : Keys.fresh? lookups.shared.entry url lookups.shared.now = none) :
    lookups.start options others url signal = ⟨lookups.shared, lookups.started ++
      [⟨url, [Keys.publishedKeysRequest url signal],
        .waiting (Keys.publishedKeysRequest url signal) (resume options url)⟩]⟩ := by
  simp [start, getKeys_miss signal stale]

variable (others) in
theorem respond_unpublished {lookups : Lookups} {index : Nat} {reply : FetchReply} {url : String}
    {sent : List FetchRequest} {request : FetchRequest}
    (pending : lookups.started[index]? = some ⟨url, sent, .waiting request (resume options url)⟩)
    (unpublished : ∀ keys, ¬ Publishes reply keys) :
    ∃ failure, lookups.respond others index reply =
      ⟨lookups.shared, lookups.started.set index ⟨url, sent, .finished (.error failure)⟩⟩ := by
  cases outcome : Keys.ofOutcome (JsonResponse.ofReply reply) with
  | error failure => exact ⟨failure, by simp [respond, pending, resume_failed outcome, resume_silent]⟩
  | ok keys => exact absurd ((publishes_iff reply keys).mpr outcome) (unpublished keys)

theorem respond_published {lookups : Lookups} {index : Nat} {reply : FetchReply} {url : String}
    {sent : List FetchRequest} {request : FetchRequest} {keys : List Fields}
    (pending : lookups.started[index]? = some ⟨url, sent, .waiting request (resume options url)⟩)
    (published : Publishes reply keys) :
    let expiry := lookups.shared.now.add options.timeToLive
    lookups.respond others index reply =
      ⟨⟨lookups.shared.now, some ⟨url, keys, lookups.shared.now, expiry⟩⟩,
        lookups.started.set index ⟨url, sent,
          .finished (if (Calendar.toText? expiry).isSome then .ok keys else .error .unwritableExpiry)⟩⟩ := by
  simp [respond, pending, resume_kept ((publishes_iff reply keys).mp published), resume_silent]

end Lookups

def Awaiting (options : Keys.CacheOptions) (lookups : Lookups) : Prop :=
  ∀ lookup ∈ lookups.started, ∀ request next, lookup.stage = .waiting request next →
    next = resume options lookup.url

inductive Stores (options : Keys.CacheOptions) (lookups : Lookups) : LookupEvent → CachedKeys → Prop where
  | respond {index : Nat} {reply : FetchReply} {lookup : Lookup} {request : FetchRequest}
      {next : FetchReply → Flow (Except Keys.LookupFailure (List Fields))} {keys : List Fields}
      (pending : lookups.started[index]? = some lookup) (waiting : lookup.stage = .waiting request next)
      (published : Publishes reply keys) :
      Stores options lookups (.respond index reply) ⟨lookup.url, keys, lookups.shared.now,
        lookups.shared.now.add options.timeToLive⟩

/-- Everything an event can do, and when it does so. -/
inductive Stepped (options : Keys.CacheOptions) (before : Lookups) : LookupEvent → Lookups → Prop where
  | hit {url : String} {signal : Signal} {keys : List Fields}
      (fresh : Keys.fresh? before.shared.entry url before.shared.now = some keys) :
      Stepped options before (.start url signal)
        ⟨before.shared, before.started ++ [⟨url, [], .finished (.ok keys)⟩]⟩
  | miss {url : String} {signal : Signal}
      (stale : Keys.fresh? before.shared.entry url before.shared.now = none) :
      Stepped options before (.start url signal) ⟨before.shared, before.started ++
        [⟨url, [Keys.publishedKeysRequest url signal],
          .waiting (Keys.publishedKeysRequest url signal) (resume options url)⟩]⟩
  | idle {index : Nat} {reply : FetchReply}
      (settled : ∀ lookup request next, before.started[index]? = some lookup →
        lookup.stage ≠ .waiting request next) :
      Stepped options before (.respond index reply) before
  | unpublished {index : Nat} {reply : FetchReply} {url : String} {sent : List FetchRequest}
      {request : FetchRequest} {failure : Keys.LookupFailure}
      (pending : before.started[index]? = some ⟨url, sent, .waiting request (resume options url)⟩)
      (unpublished : ∀ keys, ¬ Publishes reply keys) :
      Stepped options before (.respond index reply)
        ⟨before.shared, before.started.set index ⟨url, sent, .finished (.error failure)⟩⟩
  | published {index : Nat} {reply : FetchReply} {url : String} {sent : List FetchRequest}
      {request : FetchRequest} {keys : List Fields}
      (pending : before.started[index]? = some ⟨url, sent, .waiting request (resume options url)⟩)
      (published : Publishes reply keys) :
      Stepped options before (.respond index reply)
        ⟨⟨before.shared.now,
            some ⟨url, keys, before.shared.now, before.shared.now.add options.timeToLive⟩⟩,
          before.started.set index ⟨url, sent, .finished
            (if (Calendar.toText? (before.shared.now.add options.timeToLive)).isSome then .ok keys
              else .error .unwritableExpiry)⟩⟩
  | clear : Stepped options before .clear ⟨⟨before.shared.now, none⟩, before.started⟩
  | setClock {now : Number} : Stepped options before (.setClock now) ⟨⟨now, before.shared.entry⟩, before.started⟩

theorem respond_stepped {lookups : Lookups} (awaiting : Awaiting options lookups) (index : Nat)
    (reply : FetchReply) :
    Stepped options lookups (.respond index reply) (lookups.respond others index reply) := by
  by_cases waiting : ∃ lookup request next, lookups.started[index]? = some lookup ∧
      lookup.stage = .waiting request next
  · obtain ⟨⟨url, sent, stage⟩, request, next, pending, rfl⟩ := waiting
    have mine : next = resume options url := awaiting _ (List.mem_of_getElem? pending) request next rfl
    subst mine
    by_cases published : ∃ keys, Publishes reply keys
    · obtain ⟨keys, published⟩ := published
      rw [Lookups.respond_published pending published]
      exact .published pending published
    · have unpublished : ∀ keys, ¬ Publishes reply keys := fun keys held => published ⟨keys, held⟩
      obtain ⟨failure, responded⟩ := Lookups.respond_unpublished others pending unpublished
      rw [responded]
      exact .unpublished pending unpublished
  · have settled : ∀ lookup request next, lookups.started[index]? = some lookup →
        lookup.stage ≠ .waiting request next :=
      fun lookup request next found stage => waiting ⟨lookup, request, next, found, stage⟩
    have same : lookups.respond others index reply = lookups := by
      unfold Lookups.respond
      split
      next found => exact absurd rfl (settled _ _ _ found)
      next => rfl
    rw [same]
    exact .idle settled

variable (others) in
theorem stepped {lookups : Lookups} (awaiting : Awaiting options lookups) (event : LookupEvent) :
    Stepped options lookups event (lookups.step options others event) := by
  cases event with
  | start url signal =>
    simp only [Lookups.step]
    cases fresh : Keys.fresh? lookups.shared.entry url lookups.shared.now with
    | some keys =>
      rw [Lookups.start_hit signal fresh]
      exact .hit fresh
    | none =>
      rw [Lookups.start_miss signal fresh]
      exact .miss fresh
  | respond index reply => exact respond_stepped awaiting index reply
  | clear => exact .clear
  | setClock now => exact .setClock

theorem Stepped.awaiting {before after : Lookups} {event : LookupEvent}
    (step : Stepped options before event after) (awaiting : Awaiting options before) :
    Awaiting options after := by
  intro lookup member request next waiting
  cases step with
  | hit =>
    rcases List.mem_append.mp member with earlier | last
    · exact awaiting lookup earlier request next waiting
    · cases List.mem_singleton.mp last
      cases waiting
  | miss =>
    rcases List.mem_append.mp member with earlier | last
    · exact awaiting lookup earlier request next waiting
    · cases List.mem_singleton.mp last
      cases waiting
      rfl
  | unpublished =>
    rcases List.mem_or_eq_of_mem_set member with earlier | rfl
    · exact awaiting lookup earlier request next waiting
    · cases waiting
  | published =>
    rcases List.mem_or_eq_of_mem_set member with earlier | rfl
    · exact awaiting lookup earlier request next waiting
    · cases waiting
  | idle | clear | setClock => exact awaiting lookup member request next waiting

theorem Awaiting.run {lookups : Lookups} (awaiting : Awaiting options lookups) (events : List LookupEvent) :
    Awaiting options (lookups.run options others events) := by
  induction events generalizing lookups with
  | nil => exact awaiting
  | cons event rest ih => exact ih ((stepped others awaiting event).awaiting awaiting)

theorem begin_awaiting (now : Number) : Awaiting options (.begin now) :=
  fun _ member => absurd member List.not_mem_nil

/-- Only a clear and a store change the entry. -/
theorem Stepped.entry {before after : Lookups} {event : LookupEvent}
    (step : Stepped options before event after) (entry : CachedKeys) :
    after.shared.entry = some entry ↔ Stores options before event entry ∨
      (before.shared.entry = some entry ∧ event ≠ .clear ∧ ∀ other, ¬ Stores options before event other) := by
  cases step with
  | hit | miss | setClock =>
    constructor
    · exact fun held => .inr ⟨held, nofun, nofun⟩
    · rintro (stores | ⟨held, -, -⟩)
      · cases stores
      · exact held
  | clear =>
    constructor
    · exact nofun
    · rintro (stores | ⟨-, kept, -⟩)
      · cases stores
      · exact absurd rfl kept
  | idle settled =>
    constructor
    · refine fun held => .inr ⟨held, nofun, ?_⟩
      rintro other ⟨pending, waiting, -⟩
      exact settled _ _ _ pending waiting
    · rintro (⟨pending, waiting, -⟩ | ⟨held, -, -⟩)
      · exact absurd waiting (settled _ _ _ pending)
      · exact held
  | unpublished pending unpublished =>
    constructor
    · refine fun held => .inr ⟨held, nofun, ?_⟩
      rintro other ⟨-, -, published⟩
      exact unpublished _ published
    · rintro (⟨-, -, published⟩ | ⟨held, -, -⟩)
      · exact absurd published (unpublished _)
      · exact held
  | @published index reply url sent request keys pending published =>
    have stores : Stores options before (.respond index reply) _ := .respond pending rfl published
    constructor
    · rintro ⟨rfl⟩
      exact .inl stores
    · rintro (⟨found, waiting, arrived⟩ | ⟨-, -, unstored⟩)
      · rw [pending] at found
        cases found
        rw [Publishes.unique published arrived]
      · exact absurd stores (unstored _)

/-- Whatever happens to a lookup, its address stays and its requests are those of its start. -/
theorem Stepped.sent {before after : Lookups} {event : LookupEvent} (step : Stepped options before event after)
    {index : Nat} {lookup : Lookup} (found : before.started[index]? = some lookup) :
    ∃ stage, after.started[index]? = some ⟨lookup.url, lookup.sent, stage⟩ := by
  have inside : index < before.started.length := (List.getElem?_eq_some_iff.mp found).1
  cases step with
  | hit | miss => exact ⟨lookup.stage, by rw [List.getElem?_append_left inside]; exact found⟩
  | idle | clear | setClock => exact ⟨lookup.stage, found⟩
  | @unpublished other _ url sent _ failure pending =>
    by_cases same : other = index
    · subst same
      rw [pending] at found
      cases found
      exact ⟨.finished (.error failure), by simp [inside]⟩
    · exact ⟨lookup.stage, by rw [List.getElem?_set_ne same]; exact found⟩
  | @published other _ url sent _ keys pending =>
    by_cases same : other = index
    · subst same
      rw [pending] at found
      cases found
      exact ⟨_, List.getElem?_set_self inside⟩
    · exact ⟨lookup.stage, by rw [List.getElem?_set_ne same]; exact found⟩

/-- A lookup is left alone by everything but the reply it waits for. -/
theorem Stepped.kept {before after : Lookups} {event : LookupEvent} (step : Stepped options before event after)
    {index : Nat} {lookup : Lookup} (found : before.started[index]? = some lookup)
    (apart : (∃ outcome, lookup.stage = .finished outcome) ∨ ∀ reply, event ≠ .respond index reply) :
    after.started[index]? = some lookup := by
  have inside : index < before.started.length := (List.getElem?_eq_some_iff.mp found).1
  have elsewhere {other : Nat} {reply : FetchReply} {url : String} {sent : List FetchRequest}
      {request : FetchRequest} (heard : event = .respond other reply)
      (pending : before.started[other]? = some ⟨url, sent, .waiting request (resume options url)⟩) :
      other ≠ index := by
    rintro rfl
    rw [pending] at found
    cases found
    rcases apart with ⟨outcome, finished⟩ | unheard
    · cases finished
    · exact unheard reply heard
  cases step with
  | hit | miss => rw [List.getElem?_append_left inside]; exact found
  | idle | clear | setClock => exact found
  | unpublished pending => rw [List.getElem?_set_ne (elsewhere rfl pending)]; exact found
  | published pending => rw [List.getElem?_set_ne (elsewhere rfl pending)]; exact found

section
variable {lookups : Lookups} (awaiting : Awaiting options lookups) {index : Nat}
include awaiting

theorem run_sent {lookup : Lookup} (found : lookups.started[index]? = some lookup)
    (events : List LookupEvent) :
    ∃ stage, (lookups.run options others events).started[index]? = some ⟨lookup.url, lookup.sent, stage⟩ := by
  induction events generalizing lookups lookup with
  | nil => exact ⟨lookup.stage, found⟩
  | cons event rest ih =>
    have step := stepped others awaiting event
    obtain ⟨stage, later⟩ := step.sent found
    have rested := ih (step.awaiting awaiting) later
    exact rested

variable (others) in
theorem run_kept {lookup : Lookup} (found : lookups.started[index]? = some lookup) (events : List LookupEvent)
    (apart : (∃ outcome, lookup.stage = .finished outcome) ∨ ∀ reply, .respond index reply ∉ events) :
    (lookups.run options others events).started[index]? = some lookup := by
  induction events generalizing lookups with
  | nil => exact found
  | cons event rest ih =>
    have step := stepped others awaiting event
    refine ih (step.awaiting awaiting) (step.kept found ?_) ?_
    · refine apart.imp_right fun unheard reply same => ?_
      exact unheard reply (by simp [same])
    · refine apart.imp_right fun unheard reply member => ?_
      exact unheard reply (List.mem_cons_of_mem _ member)

end

def Offers (shared : Shared) (url : String) (keys : List Fields) : Prop :=
  ∃ fetchedAt expiresAt, shared.entry = some ⟨url, keys, fetchedAt, expiresAt⟩ ∧
    shared.now.below expiresAt = true

theorem fresh_iff (shared : Shared) (url : String) (keys : List Fields) :
    Keys.fresh? shared.entry url shared.now = some keys ↔ Offers shared url keys := by
  obtain ⟨now, entry⟩ := shared
  cases entry with
  | none => simp [Keys.fresh?, Offers]
  | some entry =>
    obtain ⟨address, held, fetchedAt, expiresAt⟩ := entry
    simp only [Keys.fresh?, Offers, Bool.and_eq_true, beq_iff_eq, Option.ite_none_right_eq_some,
      Option.some.injEq, CachedKeys.mk.injEq]
    constructor
    · rintro ⟨⟨rfl, early⟩, rfl⟩
      exact ⟨fetchedAt, expiresAt, ⟨rfl, rfl, rfl, rfl⟩, early⟩
    · rintro ⟨_, _, ⟨rfl, rfl, rfl, rfl⟩, early⟩
      exact ⟨⟨rfl, early⟩, rfl⟩

def Unstored (options : Keys.CacheOptions) (others : (question : Ask) → question.Reply) (lookups : Lookups)
    (events : List LookupEvent) : Prop :=
  ∀ before event after, events = before ++ event :: after →
    ∀ entry, ¬ Stores options (lookups.run options others before) event entry

def Latest (options : Keys.CacheOptions) (others : (question : Ask) → question.Reply) (lookups : Lookups)
    (events : List LookupEvent) (entry : CachedKeys) : Prop :=
  ∃ before event after, events = before ++ event :: after ∧
    Stores options (lookups.run options others before) event entry ∧
    Unstored options others (lookups.run options others (before ++ [event])) after ∧ .clear ∉ after

theorem unstored_cons {lookups : Lookups} {event : LookupEvent} {rest : List LookupEvent} :
    Unstored options others lookups (event :: rest) ↔ (∀ entry, ¬ Stores options lookups event entry) ∧
      Unstored options others (lookups.step options others event) rest := by
  constructor
  · intro unstored
    refine ⟨unstored [] event rest rfl, fun before other after same => ?_⟩
    exact unstored (event :: before) other after (congrArg (List.cons event) same)
  · rintro ⟨first, later⟩ before other after same
    cases before with
    | nil =>
      obtain ⟨rfl, -⟩ := List.cons.inj same
      exact first
    | cons head before =>
      obtain ⟨rfl, tail⟩ := List.cons.inj same
      exact later before other after tail

theorem latest_cons {lookups : Lookups} {event : LookupEvent} {rest : List LookupEvent} {entry : CachedKeys} :
    Latest options others lookups (event :: rest) entry ↔
      (Stores options lookups event entry ∧
        Unstored options others (lookups.step options others event) rest ∧ .clear ∉ rest) ∨
      Latest options others (lookups.step options others event) rest entry := by
  constructor
  · rintro ⟨before, other, after, same, stores, untouched⟩
    cases before with
    | nil =>
      obtain ⟨rfl, rfl⟩ := List.cons.inj same
      exact .inl ⟨stores, untouched⟩
    | cons head before =>
      obtain ⟨rfl, rfl⟩ := List.cons.inj same
      exact .inr ⟨before, other, after, rfl, stores, untouched⟩
  · rintro (⟨stores, untouched⟩ | ⟨before, other, after, rfl, stores, untouched⟩)
    · exact ⟨[], event, rest, rfl, stores, untouched⟩
    · exact ⟨event :: before, other, after, rfl, stores, untouched⟩

/-- The entry at the end of a run is that of its last store, or the one it began with
when nothing was stored or cleared. -/
theorem run_entry {lookups : Lookups} (awaiting : Awaiting options lookups) (events : List LookupEvent)
    (entry : CachedKeys) :
    (lookups.run options others events).shared.entry = some entry ↔
      Latest options others lookups events entry ∨
      (lookups.shared.entry = some entry ∧ Unstored options others lookups events ∧ .clear ∉ events) := by
  induction events generalizing lookups with
  | nil =>
    have none_stored : ¬ Latest options others lookups [] entry := by
      rintro ⟨before, event, after, same, -⟩
      simp at same
    have unstored : Unstored options others lookups [] := by
      intro before event after same
      simp at same
    simp [Lookups.run, none_stored, unstored]
  | cons event rest ih =>
    have step := stepped others awaiting event
    have later := ih (step.awaiting awaiting)
    have first := step.entry entry
    rw [latest_cons, unstored_cons, List.mem_cons, not_or]
    constructor
    · intro held
      rcases later.mp held with latest | ⟨kept, unstored, uncleared⟩
      · exact .inl (.inr latest)
      · rcases first.mp kept with stores | ⟨old, kept, idle⟩
        · exact .inl (.inl ⟨stores, unstored, uncleared⟩)
        · exact .inr ⟨old, ⟨idle, unstored⟩, fun same => kept same.symm, uncleared⟩
    · rintro ((⟨stores, unstored, uncleared⟩ | latest) | ⟨old, ⟨idle, unstored⟩, kept, uncleared⟩)
      · exact later.mpr (.inr ⟨first.mpr (.inl stores), unstored, uncleared⟩)
      · exact later.mpr (.inl latest)
      · exact later.mpr (.inr ⟨first.mpr (.inr ⟨old, fun same => kept same.symm, idle⟩), unstored, uncleared⟩)

end

/-- What the entry is after a run from the first moment on. -/
structure EntryKept (options : Keys.CacheOptions) (others : (question : Ask) → question.Reply) (now : Number)
    (events : List LookupEvent) (entry : Option CachedKeys) : Prop where
  empty : ∀ before after, events = before ++ after → (before = [] ∨ ∃ earlier, before = earlier ++ [.clear]) →
    Unstored options others ((Lookups.begin now).run options others before) after → entry = none
  exact : ∀ kept, entry = some kept ↔ Latest options others (.begin now) events kept

/-- What becomes of a lookup that starts in the state after `before`, and whose run
goes on with `after`. -/
structure LookedUp (options : Keys.CacheOptions) (others : (question : Ask) → question.Reply) (start : Lookups)
    (url : String) (signal : Signal) (after : List LookupEvent) (result : Option Lookup) : Prop where
  served : ∀ keys, Offers start.shared url keys → result = some ⟨url, [], .finished (.ok keys)⟩
  asked : (∀ keys, ¬ Offers start.shared url keys) →
    ∃ stage, result = some ⟨url, [Keys.publishedKeysRequest url signal], stage⟩
  answered : (∀ keys, ¬ Offers start.shared url keys) → ∀ middle reply rest keys,
    after = middle ++ .respond start.started.length reply :: rest →
    (∀ other, .respond start.started.length other ∉ middle) → Publishes reply keys →
    (Calendar.toText? ((start.run options others (.start url signal :: middle)).shared.now.add
      options.timeToLive)).isSome →
    result = some ⟨url, [Keys.publishedKeysRequest url signal], .finished (.ok keys)⟩

section
variable {options : Keys.CacheOptions} {others : (question : Ask) → question.Reply}

theorem run_append (lookups : Lookups) (before after : List LookupEvent) :
    lookups.run options others (before ++ after) =
      (lookups.run options others before).run options others after := List.foldl_append

theorem entry_kept (now : Number) (events : List LookupEvent) :
    EntryKept options others now events ((Lookups.begin now).run options others events).shared.entry := by
  have awaiting : Awaiting options (.begin now) := begin_awaiting now
  constructor
  · rintro before after rfl cleared unstored
    have blank : ((Lookups.begin now).run options others before).shared.entry = none := by
      rcases cleared with rfl | ⟨earlier, rfl⟩
      · rfl
      · rw [run_append]
        rfl
    rw [run_append, Option.eq_none_iff_forall_ne_some]
    intro entry held
    rcases (run_entry (awaiting.run before) after entry).mp held with ⟨_, _, _, same, stores, -⟩ | ⟨old, -⟩
    · exact unstored _ _ _ same entry stores
    · rw [blank] at old
      cases old
  · intro kept
    rw [run_entry awaiting]
    exact or_iff_left fun old => nomatch old.1

variable (others) in
theorem answered_by_reply {lookups : Lookups} (awaiting : Awaiting options lookups) {index : Nat} {url : String}
    {sent : List FetchRequest} {request : FetchRequest} {reply : FetchReply} {keys : List Fields}
    (pending : lookups.started[index]? = some ⟨url, sent, .waiting request (resume options url)⟩)
    (published : Publishes reply keys)
    (written : (Calendar.toText? (lookups.shared.now.add options.timeToLive)).isSome)
    (rest : List LookupEvent) :
    (lookups.run options others (.respond index reply :: rest)).started[index]? =
      some ⟨url, sent, .finished (.ok keys)⟩ := by
  have inside := (List.getElem?_eq_some_iff.mp pending).1
  have finished : (lookups.step options others (.respond index reply)).started[index]? =
      some ⟨url, sent, .finished (.ok keys)⟩ := by
    simp only [Lookups.step]
    rw [Lookups.respond_published pending published, List.getElem?_set_self inside, if_pos written]
  have step := stepped others awaiting (.respond index reply)
  exact run_kept others (step.awaiting awaiting) finished rest (.inl ⟨.ok keys, rfl⟩)

theorem looked_up {start : Lookups} (awaiting : Awaiting options start) (url : String) (signal : Signal)
    (after : List LookupEvent) :
    LookedUp options others start url signal after
      (start.run options others (.start url signal :: after)).started[start.started.length]? := by
  have step := stepped others awaiting (.start url signal)
  have opened := step.awaiting awaiting
  have missed (unserved : ∀ keys, ¬ Offers start.shared url keys) :
      (start.step options others (.start url signal)).started[start.started.length]? =
        some ⟨url, [Keys.publishedKeysRequest url signal],
          .waiting (Keys.publishedKeysRequest url signal) (resume options url)⟩ := by
    have stale : Keys.fresh? start.shared.entry url start.shared.now = none := by
      rw [Option.eq_none_iff_forall_ne_some]
      exact fun keys fresh => unserved keys ((fresh_iff _ _ _).mp fresh)
    simp [Lookups.step, Lookups.start_miss signal stale]
  refine ⟨fun keys offers => ?_, fun unserved => ?_, fun unserved => ?_⟩
  · have fresh := (fresh_iff start.shared url keys).mpr offers
    refine run_kept others opened ?_ after (.inl ⟨.ok keys, rfl⟩)
    simp [Lookups.step, Lookups.start_hit signal fresh]
  · exact run_sent opened (missed unserved) after
  · rintro middle reply rest keys rfl unheard published written
    have waiting := run_kept others opened (missed unserved) middle (.inr unheard)
    have answered := answered_by_reply others (opened.run middle) waiting published written rest
    rwa [← run_append] at answered

end

/-- Every run of overlapping lookups keeps the entry of the last store, and gives each
lookup the keys it found or the keys of its own reply. -/
theorem overlapping_lookups (options : Keys.CacheOptions) (others : (question : Ask) → question.Reply)
    (now : Number) (events : List LookupEvent) :
    EntryKept options others now events ((Lookups.begin now).run options others events).shared.entry ∧
    ∀ before url signal after, events = before ++ .start url signal :: after →
      let start := (Lookups.begin now).run options others before
      LookedUp options others start url signal after
        ((Lookups.begin now).run options others events).started[start.started.length]? := by
  refine ⟨entry_kept now events, ?_⟩
  rintro before url signal after rfl start
  rw [run_append]
  exact looked_up ((begin_awaiting now).run before) url signal after

end TenantAccess.Proofs
