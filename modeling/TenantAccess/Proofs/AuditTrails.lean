import TenantAccess.Proofs.FlowRuns
import TenantAccess.Proofs.KeySelection

/-! What the log tells of a verification. The last thing that is reported is how it went: that the token was
validated and for whom, or why it stands for nobody. Nothing else ever says that a token was validated. -/

namespace TenantAccess.Proofs
open Rehearsal

def validatedMessage : String := "token validated"

structure Validates (claims : Fields) (entry : LogEntry) : Prop where
  message : entry.message = validatedMessage
  subject : entry.fields.lookup "subject" = (claims.get? "sub").map LogValue.plain

def validations (history : List Exchanged) : List LogEntry :=
  (Transcript.reports history).filter (·.message == validatedMessage)

/-- Why a lookup of published keys brought none: its reply, or a moment of expiry that cannot be written. -/
inductive Unfetched (url : String) (history : List Exchanged) : Keys.LookupFailure → Prop where
  | reply (signal : Signal) {reply : FetchReply} {failure : Keys.LookupFailure}
      (heard : (⟨.fetch (Keys.publishedKeysRequest url signal), reply⟩ : Exchanged) ∈ history)
      (failed : Keys.ofOutcome (JsonResponse.ofReply reply) = .error failure) : Unfetched url history failure
  | expiry {now : Number} {options : Keys.CacheOptions} (asked : (⟨.clock, now⟩ : Exchanged) ∈ history)
      (unwritable : Calendar.toText? (now.add options.timeToLive) = none) :
      Unfetched url history .unwritableExpiry

/-- Entries that say why a token stands for nobody, each with what makes it true of the token, the time that was
told or the reply that came. -/
inductive Explains (token : String) (history : List Exchanged) : LogEntry → Prop where
  | disabled : Explains token history ⟨.debug, [], "token verification disabled"⟩
  | expired {key : Crypto.PublicKey} {algorithm : SigningAlgorithm} {issuer : Option String} {now : Number}
      (method : String) (asked : (⟨.clock, now⟩ : Exchanged) ∈ history)
      (judged : TokenOutcome.check token key algorithm issuer now = .expired) :
      Explains token history ⟨.info, [LogEntry.text "validationMethod" method], "token expired"⟩
  | rejected {key : Crypto.PublicKey} {algorithm : SigningAlgorithm} {issuer : Option String} {now : Number}
      {why : TokenRejection} (method : String) (asked : (⟨.clock, now⟩ : Exchanged) ∈ history)
      (judged : TokenOutcome.check token key algorithm issuer now = .rejected why) :
      Explains token history
        ⟨.info, [LogEntry.text "validationMethod" method, LogEntry.text "code" why.code], "invalid token"⟩
  | unfit {key : Crypto.PublicKey} {algorithm : SigningAlgorithm} {issuer : Option String} {now : Number}
      (method : String) (asked : (⟨.clock, now⟩ : Exchanged) ∈ history)
      (judged : TokenOutcome.check token key algorithm issuer now = .keyUnfit) :
      Explains token history ⟨.error, [LogEntry.text "validationMethod" method,
        ("error", .failure (.error "TypeError" "key does not fit the algorithm"))], "token validation error"⟩
  | status {request : FetchRequest} {status : Nat} {text message : String} (provider : String)
      (heard : (⟨.fetch request, .answered status (.ok text)⟩ : Exchanged) ∈ history) (failed : status ≠ 200)
      (told : message ∈ ["token introspection failed", "userinfo request failed"]) :
      Explains token history
        ⟨.info, [LogEntry.text "provider" provider, LogEntry.number "statusCode" (.ofInt status)], message⟩
  | inactive {request : FetchRequest} {text : String} (provider : String)
      (heard : (⟨.fetch request, .answered 200 (.ok text)⟩ : Exchanged) ∈ history)
      (inactive : Introspection.claims? ⟨200, JsonResponse.readBody text⟩ = none) :
      Explains token history ⟨.info, [LogEntry.text "provider" provider], "token not active"⟩
  | recordless {request : FetchRequest} {text : String} (provider : String)
      (heard : (⟨.fetch request, .answered 200 (.ok text)⟩ : Exchanged) ∈ history)
      (recordless : (JsonResponse.readBody text).bind Json.record? = none) :
      Explains token history
        ⟨.info, [LogEntry.text "provider" provider], "userinfo response was not a JSON object"⟩
  | unreachable {request : FetchRequest} {reply : FetchReply} {failure : Failure} {detail : String}
      (provider place url : String) (heard : (⟨.fetch request, reply⟩ : Exchanged) ∈ history)
      (failed : JsonResponse.ofReply reply = .error failure) (described : failure.describe = .ok detail) :
      Explains token history ⟨.error, [LogEntry.text "provider" provider, LogEntry.text place url,
        ("aborted", .plain (.boolean failure.isCutOff)), LogEntry.text "error" detail],
        "identity provider unreachable"⟩
  | undecodable (unread : SignedToken.protectedHeader? token = none) :
      Explains token history ⟨.warn, [], "token header could not be decoded"⟩
  | nameless {header : Fields} (decoded : SignedToken.protectedHeader? token = some header)
      (unnamed : ∀ id, header.get? "kid" = some (.text id) → id = "") :
      Explains token history ⟨.warn, [], "token header is missing kid"⟩
  | unfetched {url reason : String} {failure : Keys.LookupFailure} (unserved : Unfetched url history failure)
      (known : failure.reason? = some reason) :
      Explains token history ⟨.warn, [LogEntry.text "jwksUrl" url, LogEntry.text "reason" reason] ++
        LogEntry.present "statusCode" (failure.status?.map Json.ofNat), "jwks fetch failed"⟩
  | unlooked {url : String} {failure : Keys.LookupFailure} (unserved : Unfetched url history failure)
      (unknown : failure.reason? = none) :
      Explains token history ⟨.error, [LogEntry.text "jwksUrl" url, LogEntry.text "error" failure.message],
        "jwks lookup failed"⟩
  | unfound {header : Fields} {id : String} (named : Names token id header) (candidates : List Fields)
      (unusable : ∀ fields ∈ candidates, Unusable id (.record fields)) :
      Explains token history ⟨.warn, [LogEntry.text "kid" id,
        ("availableKids", .plain (.list (candidates.map fun fields => (fields.get? "kid").getD .null)))],
        "signing key not found in jwks"⟩

/-- What a check under a key at hand reports of its outcome. -/
def outcomeEntry (method : String) : TokenOutcome → LogEntry
  | .accepted claims => ⟨.info, LogEntry.text "validationMethod" method ::
      LogEntry.present "subject" (claims.get? "sub"), validatedMessage⟩
  | .expired => ⟨.info, [LogEntry.text "validationMethod" method], "token expired"⟩
  | .rejected why =>
    ⟨.info, [LogEntry.text "validationMethod" method, LogEntry.text "code" why.code], "invalid token"⟩
  | .keyUnfit => ⟨.error, [LogEntry.text "validationMethod" method,
      ("error", .failure (.error "TypeError" "key does not fit the algorithm"))], "token validation error"⟩

def Discreet : Ask → Prop
  | .report entry => entry.message ≠ validatedMessage
  | _ => True

def Unattested (history : List Exchanged) : Prop := ∀ asked ∈ history, Discreet asked.question

/-- What a verification comes to is what its last report says. Only a failure that cannot be put into words is
not reported. -/
def Truthful (token : String) (history : List Exchanged) : Except Failure (Option Fields) → Prop
  | .ok (some claims) => ∃ before entry, history = before ++ [⟨.report entry, ()⟩] ∧ Unattested before ∧
      Validates claims entry
  | .ok none => ∃ before entry, history = before ++ [⟨.report entry, ()⟩] ∧ Unattested before ∧
      Explains token history entry
  | .error _ => Unattested history

section
variable {token : String} {first second history past : List Exchanged} {entry : LogEntry}
  {result : Except Failure (Option Fields)}

theorem Unfetched.mono {url : String} {failure : Keys.LookupFailure} (unserved : Unfetched url first failure)
    (within : first ⊆ second) : Unfetched url second failure := by
  cases unserved with
  | reply signal heard failed => exact .reply signal (within heard) failed
  | expiry asked unwritable => exact .expiry (within asked) unwritable

theorem Explains.mono (explains : Explains token first entry) (within : first ⊆ second) :
    Explains token second entry := by
  cases explains with
  | disabled => exact .disabled
  | expired method asked judged => exact .expired method (within asked) judged
  | rejected method asked judged => exact .rejected method (within asked) judged
  | unfit method asked judged => exact .unfit method (within asked) judged
  | status provider heard failed told => exact .status provider (within heard) failed told
  | inactive provider heard inactive => exact .inactive provider (within heard) inactive
  | recordless provider heard recordless => exact .recordless provider (within heard) recordless
  | unreachable provider place url heard failed described =>
    exact .unreachable provider place url (within heard) failed described
  | undecodable unread => exact .undecodable unread
  | nameless decoded unnamed => exact .nameless decoded unnamed
  | unfetched unserved known => exact .unfetched (unserved.mono within) known
  | unlooked unserved unknown => exact .unlooked (unserved.mono within) unknown
  | unfound named candidates unusable => exact .unfound named candidates unusable

theorem Explains.discreet (explains : Explains token history entry) : entry.message ≠ validatedMessage := by
  cases explains with
  | @status request status text message provider heard failed told =>
    have others : ∀ message ∈ ["token introspection failed", "userinfo request failed"],
      message ≠ validatedMessage := by decide
    exact others message told
  | _ => simp [validatedMessage]

theorem Unattested.nil : Unattested [] := fun _ inside => absurd inside List.not_mem_nil

theorem Unattested.append (before : Unattested first) (after : Unattested second) : Unattested (first ++ second) := by
  intro asked inside
  rcases List.mem_append.mp inside with early | late
  · exact before asked early
  · exact after asked late

theorem Unattested.reported (before : Unattested first) (discreet : entry.message ≠ validatedMessage) :
    Unattested (first ++ [⟨.report entry, ()⟩]) :=
  before.append (List.forall_mem_singleton.mpr discreet)

theorem Truthful.unattested (truthful : Truthful token history (.ok none)) : Unattested history := by
  obtain ⟨before, entry, rfl, silent, explains⟩ := truthful
  exact silent.reported explains.discreet

/-- What was asked before does not make a record untrue, unless it says that a token was validated. -/
theorem Truthful.behind (silent : Unattested first) (truthful : Truthful token second result) :
    Truthful token (first ++ second) result := by
  match result, truthful with
  | .ok (some claims), ⟨before, entry, whole, quiet, validates⟩ =>
    exact ⟨first ++ before, entry, by rw [whole, List.append_assoc], silent.append quiet, validates⟩
  | .ok none, ⟨before, entry, whole, quiet, explains⟩ =>
    exact ⟨first ++ before, entry, by rw [whole, List.append_assoc], silent.append quiet,
      explains.mono (List.subset_append_right first second)⟩
  | .error _, quiet => exact silent.append quiet

theorem Runs.told {severity : Severity} {fields : List (String × LogValue)} {message : String} {value other : α}
    (runs : Runs (do Flow.report severity fields message; pure value) history other) :
    history = [⟨.report ⟨severity, fields, message⟩, ()⟩] ∧ other = value := by
  obtain ⟨-, rest, rfl, later⟩ := Runs.asked runs
  obtain ⟨rfl, rfl⟩ := later.ended
  exact ⟨rfl, rfl⟩

theorem refused_told {severity : Severity} {fields : List (String × LogValue)} {message : String}
    (runs : Runs (do Flow.report severity fields message; pure (.ok none)) history result)
    (silent : Unattested past) (explains : Explains token past ⟨severity, fields, message⟩) :
    Truthful token (past ++ history) result := by
  obtain ⟨rfl, rfl⟩ := runs.told
  exact ⟨past, _, rfl, silent, explains.mono (List.subset_append_left past _)⟩

theorem accepted_validates (method : String) (claims : Fields) :
    Validates claims (outcomeEntry method (.accepted claims)) := by
  refine ⟨rfl, ?_⟩
  simp only [outcomeEntry]
  cases claims.get? "sub" <;> rfl

theorem accepted_told {method : String} {claims : Fields}
    (runs : Runs (do reportAccepted method claims; pure (.ok (some claims))) history result)
    (silent : Unattested past) : Truthful token (past ++ history) result := by
  obtain ⟨rfl, rfl⟩ := runs.told
  exact ⟨past, _, rfl, silent, accepted_validates method claims⟩

theorem conclude_entry (method : String) (outcome : TokenOutcome) :
    outcome.conclude method = (do
      Flow.request (.report (outcomeEntry method outcome))
      pure (claimsOf outcome)) := by
  cases outcome <;> rfl

theorem localKey_runs {held : LocalKey} {method : String} {claims : Option Fields}
    (runs : Runs (held.verify method token) history claims) :
    ∃ now, history = [⟨.clock, now⟩, ⟨.report (outcomeEntry method (held.check token now)), ()⟩] ∧
      claims = claimsOf (held.check token now) := by
  obtain ⟨now, rest, rfl, later⟩ := Runs.asked runs
  rw [conclude_entry] at later
  obtain ⟨-, _, rfl, ending⟩ := Runs.asked later
  obtain ⟨rfl, rfl⟩ := ending.ended
  exact ⟨now, rfl, rfl⟩

theorem localKey_truthful {held : LocalKey} {method : String} {claims : Option Fields}
    (runs : Runs (held.verify method token) history claims) : Truthful token history (.ok claims) := by
  obtain ⟨now, rfl, rfl⟩ := localKey_runs runs
  have silent : Unattested [⟨.clock, now⟩] := List.forall_mem_singleton.mpr trivial
  have asked {later : List Exchanged} : (⟨.clock, now⟩ : Exchanged) ∈ (⟨.clock, now⟩ : Exchanged) :: later :=
    List.mem_cons_self ..
  cases judged : held.check token now with
  | accepted claims => exact ⟨[⟨.clock, now⟩], _, rfl, silent, accepted_validates method claims⟩
  | expired => exact ⟨[⟨.clock, now⟩], _, rfl, silent, .expired method asked judged⟩
  | rejected why => exact ⟨[⟨.clock, now⟩], _, rfl, silent, .rejected method asked judged⟩
  | keyUnfit => exact ⟨[⟨.clock, now⟩], _, rfl, silent, .unfit method asked judged⟩

theorem fetchJson_runs {request : FetchRequest} {timeout : Number} {outcome : Except Failure JsonResponse}
    (runs : Runs (fetchJson request timeout) history outcome) :
    ∃ reply, history = [⟨.armTimer timeout, ()⟩, ⟨.fetch request, reply⟩, ⟨.disarmTimer, ()⟩] ∧
      outcome = JsonResponse.ofReply reply := by
  obtain ⟨-, _, rfl, sending⟩ := Runs.asked runs
  obtain ⟨reply, _, rfl, disarming⟩ := Runs.asked sending
  obtain ⟨-, _, rfl, ending⟩ := Runs.asked disarming
  obtain ⟨rfl, rfl⟩ := ending.ended
  exact ⟨reply, rfl, rfl⟩

theorem unreachable_truthful {provider place url : String} {request : FetchRequest} {reply : FetchReply}
    {failure : Failure} (runs : Runs (reportUnreachable provider place url failure) history result)
    (silent : Unattested past) (heard : (⟨.fetch request, reply⟩ : Exchanged) ∈ past)
    (failed : JsonResponse.ofReply reply = .error failure) : Truthful token (past ++ history) result := by
  unfold reportUnreachable at runs
  cases described : failure.describe with
  | error raised =>
    rw [described] at runs
    obtain ⟨rfl, rfl⟩ := runs.ended
    simpa [Truthful] using silent
  | ok detail =>
    rw [described] at runs
    exact refused_told runs silent (.unreachable provider place url heard failed described)

/-- The two strategies that put one question to the provider differ only in how they read its answer. -/
theorem asked_truthful {request : FetchRequest} {timeout : Number} {provider place url : String}
    {judge : JsonResponse → Flow (Except Failure (Option Fields))}
    (judged : ∀ status text past history result, Unattested past →
      (⟨.fetch request, .answered status (.ok text)⟩ : Exchanged) ∈ past →
      Runs (judge ⟨status, JsonResponse.readBody text⟩) history result → Truthful token (past ++ history) result)
    (runs : Runs (do
      match ← fetchJson request timeout with
      | .error failure => reportUnreachable provider place url failure
      | .ok response => judge response) history result) : Truthful token history result := by
  obtain ⟨past, outcome, rest, rfl, asked, later⟩ := runs.bind
  obtain ⟨reply, rfl, rfl⟩ := fetchJson_runs asked
  have silent : Unattested [⟨.armTimer timeout, ()⟩, ⟨.fetch request, reply⟩, ⟨.disarmTimer, ()⟩] := by
    simp [Unattested, Discreet]
  have heard : (⟨.fetch request, reply⟩ : Exchanged) ∈
      [(⟨.armTimer timeout, ()⟩ : Exchanged), ⟨.fetch request, reply⟩, ⟨.disarmTimer, ()⟩] := by simp
  match reply with
  | .answered status (.ok text) => exact judged status text _ _ _ silent heard later
  | .answered status (.error failure) => exact unreachable_truthful later silent heard rfl
  | .refused failure => exact unreachable_truthful later silent heard rfl
  | .unanswered => exact unreachable_truthful later silent heard rfl

theorem introspection_truthful {provider url : String} {timeout : Number} {signal : Signal}
    (runs : Runs (Introspection.verify provider url timeout token signal) history result) :
    Truthful token history result := by
  refine asked_truthful (fun status text past history result silent heard runs => ?_) runs
  split at runs
  next failed => exact refused_told runs silent (.status provider heard failed (by simp))
  next succeeded =>
    obtain rfl : status = 200 := Decidable.not_not.mp succeeded
    split at runs
    next inactive => exact refused_told runs silent (.inactive provider heard inactive)
    · exact accepted_told runs silent

theorem userinfo_truthful {url : String} {timeout : Number} {signal : Signal}
    (runs : Runs (Userinfo.verify url timeout token signal) history result) : Truthful token history result := by
  refine asked_truthful (fun status text past history result silent heard runs => ?_) runs
  split at runs
  next failed => exact refused_told runs silent (.status Userinfo.provider heard failed (by simp))
  next succeeded =>
    obtain rfl : status = 200 := Decidable.not_not.mp succeeded
    split at runs
    next recordless => exact refused_told runs silent (.recordless Userinfo.provider heard recordless)
    · exact accepted_told runs silent

theorem findKey_runs {configured : SigningAlgorithm} {id : String} {candidates : List Fields}
    {found : Option (Crypto.PublicKey × SigningAlgorithm)}
    (runs : Runs (PublishedKeys.findKey configured id candidates) history found) :
    Unattested history ∧ (found = none → ∀ fields ∈ candidates, Unusable id (.record fields)) := by
  induction candidates generalizing history with
  | nil =>
    obtain ⟨rfl, rfl⟩ := runs.ended
    exact ⟨.nil, fun _ _ inside => absurd inside List.not_mem_nil⟩
  | cons fields rest ih =>
    have passed (unusable : usable? configured id fields = none) : Unusable id (.record fields) :=
      (usable?_none configured id (.record fields)).mp unusable
    unfold PublishedKeys.findKey at runs
    split at runs
    next named =>
      cases inspected : PublishedKeys.inspect fields configured with
      | usable key algorithm =>
        rw [inspected] at runs
        obtain ⟨rfl, rfl⟩ := runs.ended
        exact ⟨.nil, fun nothing => absurd nothing (Option.some_ne_none _)⟩
      | unusable | unreadable =>
        rw [inspected] at runs
        obtain ⟨-, later, rfl, runs⟩ := Runs.asked runs
        obtain ⟨silent, nothing⟩ := ih runs
        refine ⟨List.forall_mem_cons.mpr ⟨by simp [Discreet, validatedMessage], silent⟩, fun none => ?_⟩
        exact List.forall_mem_cons.mpr ⟨passed (by simp [usable?, named, inspected]), nothing none⟩
    next other =>
      obtain ⟨silent, nothing⟩ := ih runs
      exact ⟨silent, fun none => List.forall_mem_cons.mpr ⟨passed (by simp [usable?, other]), nothing none⟩⟩

theorem keep_runs {options : Keys.CacheOptions} {url : String} {keys : List Fields}
    {answer : Except Keys.LookupFailure (List Fields)} (runs : Runs (Keys.keep options url keys) history answer) :
    Unattested history ∧ ∀ failure, answer = .error failure → Unfetched url history failure := by
  obtain ⟨now, _, rfl, storing⟩ := Runs.asked runs
  obtain ⟨-, _, rfl, ending⟩ := Runs.asked storing
  cases written : Calendar.toText? (now.add options.timeToLive) with
  | none =>
    rw [written] at ending
    obtain ⟨rfl, rfl⟩ := ending.ended
    refine ⟨by simp [Unattested, Discreet], fun failure same => ?_⟩
    cases same
    exact .expiry (List.mem_cons_self ..) written
  | some text =>
    rw [written] at ending
    obtain ⟨rfl, rfl⟩ := ending.told
    exact ⟨by simp [Unattested, Discreet, validatedMessage], nofun⟩

/-- A lookup says nothing of the token, and fails for one of two reasons. -/
theorem getKeys_runs {options : Keys.CacheOptions} {url : String} {signal : Signal}
    {answer : Except Keys.LookupFailure (List Fields)}
    (runs : Runs (Keys.getKeys options url signal) history answer) :
    Unattested history ∧ ∀ failure, answer = .error failure → Unfetched url history failure := by
  obtain ⟨now, _, rfl, recalling⟩ := Runs.asked runs
  obtain ⟨entry, _, rfl, looking⟩ := Runs.asked recalling
  split at looking
  · obtain ⟨rfl, rfl⟩ := looking.told
    exact ⟨by simp [Unattested, Discreet, validatedMessage], nofun⟩
  · obtain ⟨-, _, rfl, missing⟩ := Runs.asked looking
    obtain ⟨_, outcome, rest, rfl, fetched, later⟩ := missing.bind
    obtain ⟨reply, rfl, rfl⟩ := fetchJson_runs fetched
    split at later
    next failure failed =>
      obtain ⟨rfl, rfl⟩ := later.ended
      refine ⟨by simp [Unattested, Discreet, validatedMessage], fun other same => ?_⟩
      cases same
      exact .reply signal (by simp) failed
    next keys arrived =>
      obtain ⟨silent, unserved⟩ := keep_runs later
      refine ⟨?_, fun failure same => (unserved failure same).mono fun asked inside => by simp [inside]⟩
      simpa [Unattested, Discreet, validatedMessage] using silent

theorem lookupFailure_truthful {url : String} {failure : Keys.LookupFailure} {claims : Option Fields}
    (runs : Runs (do PublishedKeys.reportLookupFailure url failure; pure none) history claims)
    (silent : Unattested past) (unserved : Unfetched url past failure) :
    Truthful token (past ++ history) (.ok claims) := by
  have earlier (entry : LogEntry) : Unfetched url (past ++ [⟨.report entry, ()⟩]) failure :=
    unserved.mono (List.subset_append_left past _)
  unfold PublishedKeys.reportLookupFailure at runs
  split at runs
  next reason known =>
    obtain ⟨rfl, rfl⟩ := runs.told
    exact ⟨past, _, rfl, silent, .unfetched (earlier _) known⟩
  next unknown =>
    obtain ⟨rfl, rfl⟩ := runs.told
    exact ⟨past, _, rfl, silent, .unlooked (earlier _) unknown⟩

theorem verifyUnder_truthful {keys : PublishedKeys} {id : String} {header : Fields} {candidates : List Fields}
    {claims : Option Fields} (named : Names token id header)
    (runs : Runs (keys.verifyUnder id token candidates) history claims) : Truthful token history (.ok claims) := by
  obtain ⟨searched, found, rest, rfl, searching, later⟩ := runs.bind
  obtain ⟨silent, nothing⟩ := findKey_runs searching
  cases found with
  | none =>
    obtain ⟨rfl, rfl⟩ := later.told
    exact ⟨searched, _, rfl, silent, .unfound named candidates (nothing rfl)⟩
  | some pair => exact (localKey_truthful later).behind silent

theorem publishedKeys_truthful {keys : PublishedKeys} {signal : Signal} {claims : Option Fields}
    (runs : Runs (keys.verify token signal) history claims) : Truthful token history (.ok claims) := by
  unfold PublishedKeys.verify at runs
  split at runs
  next unread =>
    obtain ⟨rfl, rfl⟩ := runs.told
    exact ⟨[], _, rfl, .nil, .undecodable unread⟩
  next header decoded =>
    split at runs
    next id given =>
      split at runs
      next empty =>
        obtain ⟨rfl, rfl⟩ := runs.told
        exact ⟨[], _, rfl, .nil, .nameless decoded fun other same => by
          rw [given] at same
          rw [← Json.text.inj (Option.some.inj same), empty]⟩
      next nonempty =>
        obtain ⟨asked, answer, rest, rfl, looking, later⟩ := runs.bind
        obtain ⟨silent, unserved⟩ := getKeys_runs looking
        cases answer with
        | error failure => exact lookupFailure_truthful later silent (unserved failure rfl)
        | ok candidates => exact (verifyUnder_truthful ⟨decoded, given, nonempty⟩ later).behind silent
    next unnamed =>
      obtain ⟨rfl, rfl⟩ := runs.told
      exact ⟨[], _, rfl, .nil, .nameless decoded fun other same => absurd same (unnamed other)⟩

theorem remote_truthful {strategy : RemoteVerifier} {signal : Signal}
    (runs : Runs (strategy.verify token signal) history result) : Truthful token history result := by
  cases strategy with
  | introspection provider url timeout => exact introspection_truthful runs
  | userinfo url timeout => exact userinfo_truthful runs
  | publishedKeys keys =>
    obtain ⟨asked, claims, rest, rfl, earlier, later⟩ := Runs.bind runs
    obtain ⟨rfl, rfl⟩ := later.ended
    rw [List.append_nil]
    exact publishedKeys_truthful earlier

/-- What the key at hand refused was reported before the provider is asked, and says nothing untrue then. -/
theorem localFirst_truthful {key : LocalKey} {strategy : Option RemoteVerifier} {signal : Signal}
    (runs : Runs (Verifier.verifyLocalFirst key strategy token signal) history result) :
    Truthful token history result := by
  obtain ⟨asked, claims, rest, rfl, earlier, later⟩ := runs.bind
  have truthful := localKey_truthful earlier
  cases claims with
  | some claims =>
    obtain ⟨rfl, rfl⟩ := later.ended
    rwa [List.append_nil]
  | none =>
    cases strategy with
    | none =>
      obtain ⟨rfl, rfl⟩ := later.ended
      rwa [List.append_nil]
    -- What the key reported stays in the record, but it is the provider that has the last word.
    | some remote => exact (remote_truthful later).behind truthful.unattested

theorem created_truthful {config : ProviderConfig} {verifier : Verifier} (built : Created config verifier)
    {signal : Signal} (runs : Runs (verifier.verify token signal) history result) :
    Truthful token history result := by
  have disabled (runs : Runs (Verifier.verify .disabled token signal) history result) :
      Truthful token history result := by
    obtain ⟨rfl, rfl⟩ := runs.told
    exact ⟨[], _, rfl, .nil, .disabled⟩
  cases built with
  | disabled unset => exact disabled runs
  | @remote algorithm url set named given keyless =>
    cases chosen : config.remote? algorithm (ProviderConfig.baseUrl url) false with
    | none =>
      rw [chosen] at runs
      exact disabled runs
    | some strategy =>
      rw [chosen] at runs
      exact remote_truthful runs
  | localFirst set named given held => exact localFirst_truthful runs

end

/-- The record of one verification: exactly one entry says that the token was validated when it was, and names the
one whom the claims name; otherwise no entry says so, and one says why not. -/
structure Recorded (token : String) (history : List Exchanged) (result : Except Failure (Option Fields)) :
    Prop where
  accepted : (∃ claims, result = .ok (some claims)) ↔ (validations history).length = 1
  subject : ∀ claims, result = .ok (some claims) → ∀ entry ∈ validations history,
    entry.fields.lookup "subject" = (claims.get? "sub").map LogValue.plain
  refused : result = .ok none → validations history = [] ∧
    ∃ entry ∈ Transcript.reports history, Explains token history entry

section
variable {token : String} {history : List Exchanged} {result : Except Failure (Option Fields)}

theorem Unattested.unvalidated (silent : Unattested history) : validations history = [] := by
  refine List.filter_eq_nil_iff.mpr fun entry inside => ?_
  obtain ⟨⟨question, reply⟩, asked, told⟩ := List.mem_filterMap.mp inside
  cases question with
  | report other =>
    obtain rfl := Option.some.inj told
    have discreet : other.message ≠ validatedMessage := silent _ asked
    simpa using discreet
  | _ => cases told

theorem validations_told (before : List Exchanged) (entry : LogEntry) :
    validations (before ++ [⟨.report entry, ()⟩]) =
      validations before ++ if entry.message == validatedMessage then [entry] else [] := by
  simp [validations, Transcript.reports, List.filterMap_append, List.filter_cons]

theorem Truthful.recorded (truthful : Truthful token history result) : Recorded token history result := by
  match result, truthful with
  | .ok (some claims), ⟨before, entry, whole, silent, validates⟩ =>
    have single : validations history = [entry] := by
      rw [whole, validations_told, silent.unvalidated, validates.message]
      rfl
    refine ⟨iff_of_true ⟨claims, rfl⟩ (by rw [single]; rfl), fun other same told inside => ?_, nofun⟩
    cases same
    rw [single] at inside
    rw [List.mem_singleton.mp inside, validates.subject]
  | .ok none, refused =>
    have none := refused.unattested.unvalidated
    obtain ⟨before, entry, whole, -, explains⟩ := refused
    refine ⟨iff_of_false (fun ⟨_, same⟩ => by cases same) (by simp [none]), nofun, fun _ => ⟨none, entry, ?_, explains⟩⟩
    simp [whole, Transcript.reports]
  | .error _, silent =>
    refine ⟨iff_of_false (fun ⟨_, same⟩ => by cases same) ?_, nofun, nofun⟩
    simp [Unattested.unvalidated silent]

end

/-- Every verification of a verifier that a configuration can give leaves a true record, whatever the provider
replies and whatever was asked before. -/
theorem verifications_recorded {config : ProviderConfig} {verifier : Verifier} (setup : World σ) (start : σ)
    (built : (config.createVerifier.run setup start).1 = .ok verifier) (world : World τ) (state : τ)
    (token : String) (signal : Signal) :
    Recorded token ((verifier.verify token signal).trace world state)
      ((verifier.verify token signal).run world state).1 :=
  (created_truthful (created setup start built) (trace_runs _ world state)).recorded

/-- A provider that knows the token's holder. -/
def acquainted : Scene := .begin 0 [⟨0, .answered 200 (.ok "\x7b\"sub\":\"ada\"\x7d")⟩]

theorem verifications_recorded_userinfo :
    (userinfoConfig.createVerifier.run still.world (.begin 0 [])).1 = .ok userinfoVerifier ∧
    ((userinfoVerifier.verify "token" .never).run still.world acquainted).1 = .ok (some [("sub", .text "ada")]) ∧
    Recorded "token" ((userinfoVerifier.verify "token" .never).trace still.world acquainted)
      ((userinfoVerifier.verify "token" .never).run still.world acquainted).1 :=
  have built : (userinfoConfig.createVerifier.run still.world (.begin 0 [])).1 = .ok userinfoVerifier := rfl
  ⟨built, by rfl, verifications_recorded still.world (.begin 0 []) built still.world acquainted "token" .never⟩

end TenantAccess.Proofs
