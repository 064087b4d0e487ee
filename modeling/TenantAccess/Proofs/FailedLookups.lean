import TenantAccess.Proofs.KeptKeys

/-! Lookups that end in a failure. One whose reply brought no keys leaves everything as it was before
that reply; one whose keys arrived fails only after they were kept. -/

namespace TenantAccess.Proofs

section
variable {options : Keys.CacheOptions} {others : (question : Ask) → question.Reply}

def fetchReasons : List String := ["network", "status", "payload"]

def Told (failure : Keys.LookupFailure) : Prop :=
  failure.kind = "JwksFetchError" ∧ ∃ reason ∈ fetchReasons, failure.reason? = some reason

theorem told_iff (failure : Keys.LookupFailure) :
    Told failure ↔ failure ≠ .unwritableExpiry ∧ failure ≠ .unshowable := by
  cases failure <;> simp [Told, fetchReasons, Keys.LookupFailure.kind, Keys.LookupFailure.reason?]

theorem networkFailure_told (failure : Failure) :
    Told (Keys.networkFailure failure) ↔ Describable failure := by
  unfold Keys.networkFailure Describable
  by_cases cut : failure.isCutOff = true
  · -- Only an error can be cut off, and every error has its message.
    cases failure with
    | error name message => simp [cut, told_iff, Failure.describe]
    | ownership | bare => cases cut
  · cases described : failure.describe <;> simp [cut, told_iff]

/-- A reply that brings no keys fails its lookup with a reason, unless it was refused with a value
that cannot be shown. -/
theorem unpublished_told {reply : FetchReply} {failure : Keys.LookupFailure}
    (failed : Keys.ofOutcome (JsonResponse.ofReply reply) = .error failure) :
    Told failure ↔ SpokenReply reply := by
  cases reply with
  | answered status body =>
    cases body with
    | ok text =>
      refine iff_of_true ((told_iff failure).mpr ?_) trivial
      simp only [JsonResponse.ofReply, Keys.ofOutcome, Keys.ofResponse] at failed
      split at failed
      · cases failed
        simp
      · split at failed
        · split at failed
          · cases failed
          · cases failed
            simp
        · cases failed
          simp
    | error cause =>
      cases failed
      exact networkFailure_told cause
  | refused cause =>
    cases failed
    exact networkFailure_told cause
  | unanswered =>
    cases failed
    exact iff_of_true ((networkFailure_told .cutOff).mpr ⟨_, rfl⟩) trivial

theorem Stepped.failed {before after : Lookups} {event : LookupEvent} (step : Stepped options before event after)
    {index : Nat} {url : String} {sent : List FetchRequest} {failure : Keys.LookupFailure}
    (failed : after.started[index]? = some ⟨url, sent, .finished (.error failure)⟩) :
    before.started[index]? = some ⟨url, sent, .finished (.error failure)⟩ ∨
      ∃ reply request next, event = .respond index reply ∧
        before.started[index]? = some ⟨url, sent, .waiting request next⟩ := by
  have appended {fresh : Lookup} (later : (before.started ++ [fresh])[index]? =
      some ⟨url, sent, .finished (.error failure)⟩)
      (sound : fresh.stage ≠ .finished (.error failure)) :
      before.started[index]? = some ⟨url, sent, .finished (.error failure)⟩ := by
    by_cases inside : index < before.started.length
    · rwa [List.getElem?_append_left inside] at later
    · rw [List.getElem?_append_right (by omega)] at later
      rw [← List.mem_singleton.mp (List.mem_of_getElem? later)] at sound
      exact absurd rfl sound
  have replaced {other : Nat} {reply : FetchReply} {address : String} {requests : List FetchRequest}
      {request : FetchRequest} {next : FetchReply → Flow (Except Keys.LookupFailure (List Fields))}
      {outcome : Except Keys.LookupFailure (List Fields)} (heard : event = .respond other reply)
      (pending : before.started[other]? = some ⟨address, requests, .waiting request next⟩)
      (later : (before.started.set other ⟨address, requests, .finished outcome⟩)[index]? =
        some ⟨url, sent, .finished (.error failure)⟩) :
      before.started[index]? = some ⟨url, sent, .finished (.error failure)⟩ ∨
        ∃ reply request next, event = .respond index reply ∧
          before.started[index]? = some ⟨url, sent, .waiting request next⟩ := by
    by_cases same : other = index
    · subst same
      have inside := (List.getElem?_eq_some_iff.mp pending).1
      rw [List.getElem?_set_self inside] at later
      cases later
      exact .inr ⟨reply, request, next, heard, pending⟩
    · rw [List.getElem?_set_ne same] at later
      exact .inl later
  cases step with
  | hit | miss => exact .inl (appended failed nofun)
  | idle | clear | setClock => exact .inl failed
  | unpublished pending => exact replaced rfl pending failed
  | published pending => exact replaced rfl pending failed

/-- Before a lookup failed there was a moment at which it waited and the reply came that failed it. -/
theorem failed_at {lookups : Lookups} (awaiting : Awaiting options lookups) {events : List LookupEvent}
    {index : Nat} {url : String} {sent : List FetchRequest} {failure : Keys.LookupFailure}
    (failed : (lookups.run options others events).started[index]? =
      some ⟨url, sent, .finished (.error failure)⟩) :
    lookups.started[index]? = some ⟨url, sent, .finished (.error failure)⟩ ∨
      ∃ before reply after, events = before ++ .respond index reply :: after ∧
        (∃ request next, (lookups.run options others before).started[index]? =
          some ⟨url, sent, .waiting request next⟩) ∧
        ((lookups.run options others before).step options others (.respond index reply)).started[index]? =
          some ⟨url, sent, .finished (.error failure)⟩ := by
  induction events generalizing lookups with
  | nil => exact .inl failed
  | cons event rest ih =>
    have step := stepped others awaiting event
    rcases ih (step.awaiting awaiting) failed with already | ⟨before, reply, after, rfl, waited, ended⟩
    · rcases step.failed already with earlier | ⟨reply, request, next, rfl, pending⟩
      · exact .inl earlier
      · exact .inr ⟨[], reply, rest, rfl, ⟨request, next, pending⟩, already⟩
    · exact .inr ⟨event :: before, reply, after, rfl, waited, ended⟩

variable (options others) in
/-- The failure gives its reason, the entry and the clock are as before the reply, and the same lookup
made again at once is served or sends its request as it would have before. -/
structure Harmless (url : String) (failure : Keys.LookupFailure) (held left : Lookups) : Prop where
  told : Told failure
  kept : left.shared = held.shared
  served : ∀ signal keys, Offers held.shared url keys →
    (left.step options others (.start url signal)).started = left.started ++ [⟨url, [], .finished (.ok keys)⟩]
  asked : ∀ signal, (∀ keys, ¬ Offers held.shared url keys) → ∃ next,
    (left.step options others (.start url signal)).started = left.started ++
      [⟨url, [Keys.publishedKeysRequest url signal], .waiting (Keys.publishedKeysRequest url signal) next⟩]

theorem harmless_kept {url : String} {failure : Keys.LookupFailure} {held left : Lookups}
    (told : Told failure) (kept : left.shared = held.shared) :
    Harmless options others url failure held left := by
  refine ⟨told, kept, fun signal keys offers => ?_, fun signal unserved => ?_⟩
  · rw [← kept] at offers
    simp only [Lookups.step, Lookups.start_hit signal ((fresh_iff left.shared url keys).mpr offers)]
  · rw [← kept] at unserved
    have stale : Keys.fresh? left.shared.entry url left.shared.now = none := by
      rw [Option.eq_none_iff_forall_ne_some]
      exact fun keys fresh => unserved keys ((fresh_iff _ _ _).mp fresh)
    exact ⟨resume options url, by simp only [Lookups.step, Lookups.start_miss signal stale]⟩

variable (options others) in
/-- What a reply does that fails the lookup waiting for it, to the state it is held in. -/
structure FailedBy (index : Nat) (url : String) (sent : List FetchRequest) (failure : Keys.LookupFailure)
    (held : Lookups) (reply : FetchReply) : Prop where
  waited : ∃ request next, held.started[index]? = some ⟨url, sent, .waiting request next⟩
  failed : (held.step options others (.respond index reply)).started[index]? =
    some ⟨url, sent, .finished (.error failure)⟩
  harmless_iff : Harmless options others url failure held (held.step options others (.respond index reply)) ↔
    (∀ keys, ¬ Publishes reply keys) ∧ SpokenReply reply
  unpublished : (∀ keys, ¬ Publishes reply keys) →
    (held.step options others (.respond index reply)).shared = held.shared
  published : ∀ keys, Publishes reply keys →
    failure = .unwritableExpiry ∧ Calendar.toText? (held.shared.now.add options.timeToLive) = none ∧
      (held.step options others (.respond index reply)).shared.entry =
        some ⟨url, keys, held.shared.now, held.shared.now.add options.timeToLive⟩

theorem failed_by {held : Lookups} (awaiting : Awaiting options held) {index : Nat} {url : String}
    {sent : List FetchRequest} {failure : Keys.LookupFailure} {reply : FetchReply}
    (waited : ∃ request next, held.started[index]? = some ⟨url, sent, .waiting request next⟩)
    (failed : (held.step options others (.respond index reply)).started[index]? =
      some ⟨url, sent, .finished (.error failure)⟩) :
    FailedBy options others index url sent failure held reply := by
  obtain ⟨request, next, pending⟩ := waited
  obtain rfl : next = resume options url := awaiting _ (List.mem_of_getElem? pending) request next rfl
  have inside := (List.getElem?_eq_some_iff.mp pending).1
  cases outcome : Keys.ofOutcome (JsonResponse.ofReply reply) with
  | error cause =>
    have responded : held.step options others (.respond index reply) =
        ⟨held.shared, held.started.set index ⟨url, sent, .finished (.error cause)⟩⟩ := by
      simp [Lookups.step, Lookups.respond, pending, resume_failed outcome, resume_silent]
    have unpublished : ∀ keys, ¬ Publishes reply keys := by
      intro keys published
      rw [publishes_iff, outcome] at published
      cases published
    have same : cause = failure := by
      rw [responded, List.getElem?_set_self inside] at failed
      simpa using failed
    subst same
    have told := unpublished_told outcome
    refine ⟨⟨request, _, pending⟩, failed, ?_, fun _ => by rw [responded],
      fun keys published => absurd published (unpublished keys)⟩
    constructor
    · exact fun harmless => ⟨unpublished, told.mp harmless.told⟩
    · exact fun quiet => harmless_kept (told.mpr quiet.2) (by rw [responded])
  | ok keys =>
    have brought : Publishes reply keys := (publishes_iff reply keys).mpr outcome
    have responded := @Lookups.respond_published options others _ _ _ _ _ _ _ pending brought
    have late : Calendar.toText? (held.shared.now.add options.timeToLive) = none ∧
        failure = .unwritableExpiry := by
      simp only [Lookups.step, responded, List.getElem?_set_self inside] at failed
      split at failed
      · cases failed
      next unwritten =>
        cases failed
        exact ⟨by simpa using unwritten, rfl⟩
    obtain ⟨unwritten, rfl⟩ := late
    refine ⟨⟨request, _, pending⟩, failed, iff_of_false ?_ ?_, fun unpublished => absurd brought (unpublished keys),
      fun others published => ⟨rfl, unwritten, ?_⟩⟩
    · exact fun harmless => ((told_iff _).mp harmless.told).1 rfl
    · exact fun quiet => quiet.1 keys brought
    · obtain rfl := Publishes.unique brought published
      simp only [Lookups.step, responded]

end

/-- Every failed lookup of every run failed by the reply it waited for. It changed nothing exactly when that reply
brought no keys and was not refused with a value that cannot be shown; when it did bring keys, they are kept although
the lookup fails. -/
theorem failed_lookups_harmless_iff (options : Keys.CacheOptions) (others : (question : Ask) → question.Reply)
    (now : Number) (events : List LookupEvent) (index : Nat) (url : String) (sent : List FetchRequest)
    (failure : Keys.LookupFailure)
    (failed : ((Lookups.begin now).run options others events).started[index]? =
      some ⟨url, sent, .finished (.error failure)⟩) :
    ∃ before reply after, events = before ++ .respond index reply :: after ∧
      FailedBy options others index url sent failure ((Lookups.begin now).run options others before) reply := by
  have awaiting : Awaiting options (.begin now) := begin_awaiting now
  rcases failed_at awaiting failed with early | ⟨before, reply, after, same, waited, ended⟩
  · simp [Lookups.begin] at early
  · exact ⟨before, reply, after, same, failed_by (awaiting.run before) waited ended⟩

def unavailable : FetchReply := .answered 503 (.ok "")

theorem failed_lookups_harmless_unavailable :
    ((Lookups.begin (.ofInt 0)).run fleetingKeys.cache stillReplies
      [.start fleetingKeys.url .never, .respond 0 unavailable]).started[0]? =
      some ⟨fleetingKeys.url, [Keys.publishedKeysRequest fleetingKeys.url .never],
        .finished (.error (.status 503))⟩ ∧
    ∃ before reply after, [.start fleetingKeys.url .never, .respond 0 unavailable] =
        before ++ .respond 0 reply :: after ∧
      FailedBy fleetingKeys.cache stillReplies 0 fleetingKeys.url
        [Keys.publishedKeysRequest fleetingKeys.url .never] (.status 503)
        ((Lookups.begin (.ofInt 0)).run fleetingKeys.cache stillReplies before) reply := by
  have failed : ((Lookups.begin (.ofInt 0)).run fleetingKeys.cache stillReplies
      [.start fleetingKeys.url .never, .respond 0 unavailable]).started[0]? =
      some ⟨fleetingKeys.url, [Keys.publishedKeysRequest fleetingKeys.url .never],
        .finished (.error (.status 503))⟩ := rfl
  exact ⟨failed, failed_lookups_harmless_iff fleetingKeys.cache stillReplies (.ofInt 0) _ 0 fleetingKeys.url _ _ failed⟩

def endlessCache : Keys.CacheOptions := ⟨.ofInt 8640000000001000, .ofInt 10000⟩

/-- The lookup fails with no reason of a fetch, its keys are in the entry that was empty before, and the same lookup
made again is served from it without a request. -/
theorem failed_lookup_kept_keys :
    let held := (Lookups.begin (.ofInt 0)).run endlessCache stillReplies [.start fleetingKeys.url .never]
    let left := held.step endlessCache stillReplies (.respond 0 keyDocument)
    let again := left.step endlessCache stillReplies (.start fleetingKeys.url .never)
    left.started[0]? = some ⟨fleetingKeys.url, [Keys.publishedKeysRequest fleetingKeys.url .never],
      .finished (.error .unwritableExpiry)⟩ ∧
    Keys.LookupFailure.unwritableExpiry.kind = "RangeError" ∧
    held.shared.entry = none ∧ left.shared.entry ≠ held.shared.entry ∧
    again.started[1]? = some ⟨fleetingKeys.url, [], .finished (.ok [[("kid", .text "k")]])⟩ := by
  intro held left again
  have stale : Keys.fresh? (Lookups.begin (.ofInt 0)).shared.entry fleetingKeys.url (.ofInt 0) = none := rfl
  have opened : held = ⟨⟨.ofInt 0, none⟩, [⟨fleetingKeys.url, [Keys.publishedKeysRequest fleetingKeys.url .never],
      .waiting (Keys.publishedKeysRequest fleetingKeys.url .never) (resume endlessCache fleetingKeys.url)⟩]⟩ :=
    @Lookups.start_miss endlessCache stillReplies (.begin (.ofInt 0)) fleetingKeys.url .never stale
  have unwritten : (Calendar.toText? (Number.add (.ofInt 0) endlessCache.timeToLive)).isSome = false := by
    decide +kernel
  have ended : left = ⟨⟨.ofInt 0, some ⟨fleetingKeys.url, [[("kid", .text "k")]], .ofInt 0,
      Number.add (.ofInt 0) endlessCache.timeToLive⟩⟩,
      [⟨fleetingKeys.url, [Keys.publishedKeysRequest fleetingKeys.url .never],
        .finished (.error .unwritableExpiry)⟩]⟩ := by
    have pending : held.started[0]? = some ⟨fleetingKeys.url, [Keys.publishedKeysRequest fleetingKeys.url .never],
        .waiting (Keys.publishedKeysRequest fleetingKeys.url .never) (resume endlessCache fleetingKeys.url)⟩ := by
      rw [opened]
      rfl
    have responded := @Lookups.respond_published endlessCache stillReplies _ _ _ _ _ _ _ pending keyDocument_publishes
    simp only [opened, unwritten] at responded
    simpa [left, opened, Lookups.step] using responded
  have fresh : Keys.fresh? left.shared.entry fleetingKeys.url left.shared.now = some [[("kid", .text "k")]] := by
    rw [ended]
    decide +kernel
  have served : again = ⟨left.shared,
      left.started ++ [⟨fleetingKeys.url, [], .finished (.ok [[("kid", .text "k")]])⟩]⟩ :=
    @Lookups.start_hit endlessCache stillReplies left fleetingKeys.url _ .never fresh
  refine ⟨by rw [ended]; rfl, rfl, by rw [opened], by simp [ended, opened], ?_⟩
  rw [served, ended]
  rfl

end TenantAccess.Proofs
