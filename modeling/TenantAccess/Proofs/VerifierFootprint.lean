import TenantAccess.Proofs.TenantGrants
import TenantAccess.Verifier.Setup

/-! A verifier keeps to itself: whatever it asks on the way, it asks the database nothing,
attaches and answers nothing, and tells of no failed request. Its requests go to one place. -/

namespace TenantAccess.Proofs

/-- What a verifier can ask by itself: the time, a provider, the keys it holds. -/
def Inward : Ask → Prop
  | .clock | .armTimer _ | .disarmTimer | .fetch _ | .recallKeys | .storeKeys _ => True
  | .report entry => ¬ (entry.severity = .error ∧ entry.message = unhandledMessage)
  | _ => False

theorem Inward.plain {question : Ask} (inward : Inward question) : Plain question := by
  cases question <;> first | exact inward.elim | exact inward

/-- The same, with every request sent to one of these places. -/
def InwardTo (places : List String) : Ask → Prop
  | .fetch request => request.url ∈ places
  | question => Inward question

theorem InwardTo.inward {places : List String} {question : Ask} (inward : InwardTo places question) :
    Inward question := by
  cases question with
  | fetch request => trivial
  | _ => exact inward

theorem plain_report {severity : Severity} {fields : List (String × LogValue)} {message : String}
    (other : message ≠ unhandledMessage) : Plain (.report ⟨severity, fields, message⟩) :=
  fun both => other both.2

section
variable {places : List String} {severity : Severity} {fields : List (String × LogValue)} {message : String}

theorem Asks.reported {next : Unit → Flow α} (other : message ≠ unhandledMessage)
    (rest : Asks (InwardTo places) (next ())) :
    Asks (InwardTo places) (Flow.report severity fields message >>= next) :=
  ⟨plain_report other, fun _ => rest⟩

theorem Asks.told (other : message ≠ unhandledMessage) (value : α) :
    Asks (InwardTo places) (do Flow.report severity fields message; pure value) :=
  .reported other trivial

end

def placeOf : RemoteVerifier → String
  | .introspection _ url _ | .userinfo url _ => url
  | .publishedKeys keys => keys.url

def placesOf : Verifier → List String
  | .remote strategy => [placeOf strategy]
  | .localFirst _ strategy => (strategy.map placeOf).toList
  | _ => []

theorem fetchJson_to (request : FetchRequest) (timeout : Number) :
    Asks (InwardTo [request.url]) (fetchJson request timeout) :=
  ⟨trivial, fun _ => ⟨List.mem_singleton_self _, fun _ => ⟨trivial, fun _ => trivial⟩⟩⟩

theorem reportUnreachable_to (places : List String) (provider place url : String) (failure : Failure) :
    Asks (InwardTo places) (reportUnreachable provider place url failure) := by
  unfold reportUnreachable
  split
  · trivial
  · exact .told (by decide) _

theorem asked_to (request : FetchRequest) (timeout : Number) (provider place url : String)
    {judge : JsonResponse → Flow (Except Failure (Option Fields))}
    (judged : ∀ response, Asks (InwardTo [request.url]) (judge response)) :
    Asks (InwardTo [request.url]) (do
      match ← fetchJson request timeout with
      | .error failure => reportUnreachable provider place url failure
      | .ok response => judge response) := by
  refine (fetchJson_to request timeout).bind fun outcome => ?_
  cases outcome with
  | error failure => exact reportUnreachable_to _ provider place url failure
  | ok response => exact judged response

theorem introspection_to (provider url : String) (timeout : Number) (token : String) (signal : Signal) :
    Asks (InwardTo [url]) (Introspection.verify provider url timeout token signal) := by
  apply asked_to (Introspection.request url token signal)
  intro response
  split
  · exact .told (by decide) _
  · split
    · exact .told (by decide) _
    · exact .told (by decide) _

theorem userinfo_to (url : String) (timeout : Number) (token : String) (signal : Signal) :
    Asks (InwardTo [url]) (Userinfo.verify url timeout token signal) := by
  apply asked_to (Userinfo.request url token signal)
  intro response
  split
  · exact .told (by decide) _
  · split
    · exact .told (by decide) _
    · exact .told (by decide) _

theorem localKey_to (places : List String) (held : LocalKey) (method token : String) :
    Asks (InwardTo places) (held.verify method token) := by
  refine ⟨trivial, fun now => ?_⟩
  change Asks (InwardTo places) ((held.check token now).conclude method)
  cases held.check token now <;> exact .told (by decide) _

theorem findKey_to (places : List String) (configured : SigningAlgorithm) (id : String) (candidates : List Fields) :
    Asks (InwardTo places) (PublishedKeys.findKey configured id candidates) := by
  induction candidates with
  | nil => trivial
  | cons fields rest ih =>
    unfold PublishedKeys.findKey
    split
    · split
      · trivial
      · exact .reported (by decide) ih
      · exact .reported (by decide) ih
    · exact ih

theorem getKeys_to (options : Keys.CacheOptions) (url : String) (signal : Signal) :
    Asks (InwardTo [url]) (Keys.getKeys options url signal) := by
  refine ⟨trivial, fun now => ⟨trivial, fun entry => ?_⟩⟩
  dsimp only [Flow.bind, bind, Flow.request]
  split
  · exact .told (by decide) _
  · refine .reported (by decide) ((fetchJson_to (Keys.publishedKeysRequest url signal) _).bind fun outcome => ?_)
    split
    · trivial
    · refine ⟨trivial, fun fetchedAt => ⟨trivial, fun _ => ?_⟩⟩
      simp only
      split
      · trivial
      · exact .told (by decide) _

theorem publishedKeys_to (keys : PublishedKeys) (token : String) (signal : Signal) :
    Asks (InwardTo [keys.url]) (keys.verify token signal) := by
  unfold PublishedKeys.verify
  split
  · exact .told (by decide) _
  · split
    · split
      · exact .told (by decide) _
      · refine (getKeys_to _ _ _).bind fun answer => ?_
        split
        next failure =>
          unfold PublishedKeys.reportLookupFailure
          split
          · exact .told (by decide) _
          · exact .told (by decide) _
        next candidates =>
          refine (findKey_to _ _ _ _).bind fun found => ?_
          split
          · exact .told (by decide) _
          · exact localKey_to _ _ _ _
    · exact .told (by decide) _

theorem remote_to (strategy : RemoteVerifier) (token : String) (signal : Signal) :
    Asks (InwardTo [placeOf strategy]) (strategy.verify token signal) := by
  cases strategy with
  | introspection provider url timeout => exact introspection_to provider url timeout token signal
  | userinfo url timeout => exact userinfo_to url timeout token signal
  | publishedKeys keys => exact (publishedKeys_to keys token signal).bind fun _ => trivial

/-- Only a verifier that the world brings along is asked as a whole. -/
theorem verifier_to {verifier : Verifier} (own : ∀ method, verifier ≠ .consulted method) (token : String)
    (signal : Signal) : Asks (InwardTo (placesOf verifier)) (verifier.verify token signal) := by
  cases verifier with
  | disabled => exact .told (by decide) _
  | localKey key => exact (localKey_to _ key _ token).bind fun _ => trivial
  | remote strategy => exact remote_to strategy token signal
  | localFirst key strategy =>
    refine (localKey_to _ key Verifier.localMethod token).bind fun claims => ?_
    split
    · trivial
    · split
      · trivial
      · exact remote_to _ token signal
  | consulted method => exact absurd rfl (own method)

theorem verifier_inward {verifier : Verifier} (own : ∀ method, verifier ≠ .consulted method) (token : String)
    (signal : Signal) : Asks Inward (verifier.verify token signal) :=
  (verifier_to own token signal).weaken fun _ => InwardTo.inward

theorem verifier_plain (verifier : Verifier) (token : String) (signal : Signal) :
    Asks Plain (verifier.verify token signal) := by
  cases verifier with
  | consulted method => exact ⟨trivial, fun _ => trivial⟩
  | _ => exact (verifier_inward (fun _ same => by cases same) token signal).weaken fun _ => Inward.plain

end TenantAccess.Proofs
