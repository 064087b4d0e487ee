import TenantAccess.Fetch
import TenantAccess.Calendar

/-! The published key set of one address, held for a fixed time. There is a single entry, and a set
for another address takes its place. Lookups that miss at the same time are not joined, and the last
one to come back is kept. -/

namespace TenantAccess.Keys

inductive LookupFailure where
  | network (detail : String)
  | status (code : Nat)
  | payload (status : Nat)
  | unwritableExpiry
  | unshowable
  deriving DecidableEq, Repr

namespace LookupFailure

def message : LookupFailure → String
  | .network detail => "JWKS fetch failed: " ++ detail
  | .status code => "JWKS fetch failed with status " ++ toString code
  | .payload _ => "JWKS response did not include a keys array"
  | .unwritableExpiry => "Invalid time value"
  | .unshowable => "Cannot convert object to primitive value"

/-- What kind of error a failed lookup is. -/
def kind : LookupFailure → String
  | .network _ | .status _ | .payload _ => "JwksFetchError"
  | .unwritableExpiry => "RangeError"
  | .unshowable => "TypeError"

/-- The kind of a fetch that failed; a moment that cannot be written and a value that cannot be shown
are no such failures. -/
def reason? : LookupFailure → Option String
  | .network _ => some "network"
  | .status _ => some "status"
  | .payload _ => some "payload"
  | .unwritableExpiry | .unshowable => none

def status? : LookupFailure → Option Nat
  | .status code | .payload code => some code
  | .network _ | .unwritableExpiry | .unshowable => none

end LookupFailure

structure CacheOptions where
  timeToLive : Number
  fetchTimeout : Number

def CacheOptions.standard : CacheOptions := ⟨.ofInt 3600000, .ofInt 10000⟩

/-- The entry serves its own address until the moment it expires. -/
def fresh? (entry : Option CachedKeys) (url : String) (now : Number) : Option (List Fields) :=
  match entry with
  | some entry =>
    if entry.url == url && now.below entry.expiresAt then some entry.keys else none
  | none => none

/-- The records among the published keys, in their order. -/
def ofResponse (response : JsonResponse) : Except LookupFailure (List Fields) :=
  if !response.isSuccess then .error (.status response.status)
  else match response.body with
    | some (.record fields) => match Fields.get? fields "keys" with
      | some (.list items) => .ok (items.filterMap Json.record?)
      | _ => .error (.payload response.status)
    | _ => .error (.payload response.status)

def networkFailure (failure : Failure) : LookupFailure :=
  if failure.isCutOff then .network "request aborted"
  else match failure.describe with
    | .ok detail => .network detail
    | .error _ => .unshowable

def ofOutcome : Except Failure JsonResponse → Except LookupFailure (List Fields)
  | .error failure => .error (networkFailure failure)
  | .ok response => ofResponse response

def publishedKeysRequest (url : String) (signal : Signal) : FetchRequest :=
  { url, signal, method := some "GET", body := none,
    headers := some [("Accept", .text "application/json")] }

/-- Keys that arrived are kept even when their expiry is too far off to be written down. -/
def keep (options : CacheOptions) (url : String) (keys : List Fields) :
    Flow (Except LookupFailure (List Fields)) := do
  let fetchedAt ← Flow.request .clock
  let expiresAt := fetchedAt.add options.timeToLive
  Flow.request (.storeKeys ⟨url, keys, fetchedAt, expiresAt⟩)
  match Calendar.toText? expiresAt with
  | none => pure (.error .unwritableExpiry)
  | some expiry =>
    Flow.report .info
      [LogEntry.text "jwksUrl" url, LogEntry.number "keyCount" (.ofInt keys.length),
        LogEntry.text "expiresAt" expiry]
      "jwks cached"
    pure (.ok keys)

def getKeys (options : CacheOptions) (url : String) (signal : Signal) :
    Flow (Except LookupFailure (List Fields)) := do
  let now ← Flow.request .clock
  let entry ← Flow.request .recallKeys
  match fresh? entry url now with
  | some keys =>
    Flow.report .debug [LogEntry.text "jwksUrl" url] "jwks cache hit"
    pure (.ok keys)
  | none =>
    Flow.report .info [LogEntry.text "jwksUrl" url] "jwks cache miss"
    let outcome ← fetchJson (publishedKeysRequest url signal) options.fetchTimeout
    match ofOutcome outcome with
    | .error failure => pure (.error failure)
    | .ok keys => keep options url keys

end TenantAccess.Keys
