import TenantAccess.Proofs.MirroredRuns

/-! Verifications of two tokens whose callers are told apart by private claims alone. Whatever verifier looks
at them, and whomever it asks, the two go alike. -/

namespace TenantAccess.Proofs

variable {one two : String}

inductive VerdictsAlike : TokenOutcome → TokenOutcome → Prop where
  | same (verdict : TokenOutcome) : VerdictsAlike verdict verdict
  | accepted {claims others : Fields} (alike : ClaimsAlike claims others) :
      VerdictsAlike (.accepted claims) (.accepted others)

theorem claims_judged {claims others : Fields} (alike : ClaimsAlike claims others) (issuer : Option String)
    (now : Number) : VerdictsAlike (.ofClaims claims issuer now) (.ofClaims others issuer now) := by
  have named : TokenOutcome.issuerFits claims issuer = TokenOutcome.issuerFits others issuer := by
    unfold TokenOutcome.issuerFits
    rw [alike.common "iss" (by decide)]
  have timed (name : String) (common : name ∈ commonClaims) :
      TokenOutcome.timeClaim? claims name = TokenOutcome.timeClaim? others name := by
    unfold TokenOutcome.timeClaim?
    rw [alike.common name common]
  unfold TokenOutcome.ofClaims
  rw [named, timed "iat" (by decide), timed "nbf" (by decide), timed "exp" (by decide)]
  split
  · exact .same _
  · split
    · exact .same _
    · exact .same _
    -- Every check but the last has the one outcome for both.
    · repeat (split; next => exact .same _)
      exact .accepted alike

theorem tokens_judged (alike : TokensAlike one two) {key : Crypto.PublicKey} (impartial : Impartial one two key)
    (algorithm : SigningAlgorithm) (issuer : Option String) (now : Number) :
    VerdictsAlike (.check one key algorithm issuer now) (.check two key algorithm issuer now) := by
  cases alike with
  | same same => exact same ▸ .same _
  | @signed first second read other alike =>
    obtain ⟨claims, others, payload, mirror, claimsAlike⟩ := alike.payload
    have judged (header : TokenHeader) : VerdictsAlike (.ofHeader first header key algorithm issuer now)
        (.ofHeader second header key algorithm issuer now) := by
      simp only [TokenOutcome.ofHeader, impartial first second read other algorithm, TokenOutcome.ofPayload, payload,
        mirror, Option.bind_some, Json.record?]
      repeat (split; next => exact .same _)
      exact claims_judged claimsAlike issuer now
    simp only [TokenOutcome.check, read, other, SignedToken.headerFields?, alike.header]
    split
    · exact .same _
    · split
      · exact .same _
      · exact judged _

theorem accepted_reported {claims others : Fields} (alike : ClaimsAlike claims others) (method : String) :
    reportAccepted method claims = reportAccepted method others := by
  unfold reportAccepted
  rw [alike.common "sub" (by decide)]

theorem conclude_mirrors {verdict other : TokenOutcome} (alike : VerdictsAlike verdict other) (method : String) :
    Mirrors one two FoundAlike (verdict.conclude method) (other.conclude method) := by
  cases alike with
  | same =>
    have plain : Asks Plainly (verdict.conclude method) := by cases verdict <;> exact ⟨trivial, fun _ => trivial⟩
    refine (Mirrors.itself plain).weaken ?_
    rintro found _ rfl
    exact found_itself found
  | accepted alike =>
    unfold TokenOutcome.conclude
    simp only [accepted_reported alike method]
    exact .plain trivial fun _ => .done (.some alike)

theorem held_mirrors (alike : TokensAlike one two) {held : LocalKey} (impartial : Impartial one two held.key)
    (method : String) : Mirrors one two FoundAlike (held.verify method one) (held.verify method two) :=
  .request trivial fun now => conclude_mirrors (tokens_judged alike impartial _ _ now) method

inductive ResponsesAlike : Except Failure JsonResponse → Except Failure JsonResponse → Prop where
  | failed (failure : Failure) : ResponsesAlike (.error failure) (.error failure)
  | answered (status : Nat) {body other : Option Json} (alike : BodiesAlike body other) :
      ResponsesAlike (.ok ⟨status, body⟩) (.ok ⟨status, other⟩)

theorem replies_read {reply other : FetchReply} (alike : RepliesAlike reply other) :
    ResponsesAlike (JsonResponse.ofReply reply) (JsonResponse.ofReply other) := by
  cases alike with
  | answered status alike => exact .answered status alike
  | same =>
    match reply with
    | .answered status (.ok text) => exact .answered status (.same _)
    | .answered _ (.error failure) | .refused failure => exact .failed failure
    | .unanswered => exact .failed _

theorem Inquiry.paired {request inquiry : FetchRequest} (asks : Inquiry one two request inquiry) :
    Paired one two (.fetch request) (.fetch inquiry) :=
  ⟨.unanswered, .unanswered, .fetched asks (.same _) fun _ _ _ => ⟨rfl, nofun⟩⟩

theorem fetch_mirrors {request inquiry : FetchRequest} (asks : Inquiry one two request inquiry) (timeout : Number) :
    Mirrors one two (fun outcome other => ResponsesAlike outcome other ∧
        ∀ url signal, request = Keys.publishedKeysRequest url signal → outcome = other ∧
          ∀ keys, Keys.ofOutcome outcome = .ok keys → ImpartialKeys one two keys)
      (fetchJson request timeout) (fetchJson inquiry timeout) := by
  refine .request trivial fun _ => .asked asks.paired fun reply answer echo => .request trivial fun _ => .done ?_
  obtain ⟨alike, impartial⟩ := echo.fetching rfl rfl
  refine ⟨replies_read alike, fun url signal same => ?_⟩
  obtain ⟨rfl, keys⟩ := impartial url signal same
  exact ⟨rfl, keys⟩

theorem outcome_mirrors {flow : Flow Outcome} (plain : Asks Plainly flow) :
    Mirrors one two OutcomesAlike flow flow := by
  refine (Mirrors.itself plain).weaken ?_
  rintro outcome _ rfl
  exact outcome_itself outcome

theorem unreachable_mirrors (provider place url : String) (failure : Failure) :
    Mirrors one two OutcomesAlike (reportUnreachable provider place url failure)
      (reportUnreachable provider place url failure) := by
  refine outcome_mirrors ?_
  unfold reportUnreachable
  split
  · trivial
  · exact ⟨trivial, fun _ => trivial⟩

/-- The claims that were found, if any, end a verification. -/
theorem accepted_mirrors {found other : Option Fields} (method : String) {refuse : Flow Outcome}
    (refusing : Asks Plainly refuse) : FoundAlike found other →
    Mirrors one two OutcomesAlike
      (match found with
        | none => refuse
        | some claims => do
          reportAccepted method claims
          pure (.ok (some claims)))
      (match other with
        | none => refuse
        | some claims => do
          reportAccepted method claims
          pure (.ok (some claims))) := by
  intro alike
  cases alike with
  | none => exact outcome_mirrors refusing
  | some alike =>
    simp only [accepted_reported alike method]
    exact .plain trivial fun _ => .done (.found (.some alike))

theorem introspection_mirrors (provider url : String) (timeout : Number) (signal : Signal) :
    Mirrors one two OutcomesAlike (Introspection.verify provider url timeout one signal)
      (Introspection.verify provider url timeout two signal) := by
  refine (fetch_mirrors (.introspection url signal) timeout).bind ?_
  rintro _ _ ⟨alike, -⟩
  cases alike with
  | failed failure => exact unreachable_mirrors _ _ _ failure
  | @answered status body other alike =>
    have found : FoundAlike (Introspection.claims? ⟨status, body⟩) (Introspection.claims? ⟨status, other⟩) := by
      cases alike with
      | same => exact found_itself _
      | claims alike =>
        simp only [Introspection.claims?, alike.common "active" (by decide)]
        split
        · split
          · exact .some alike
          · exact .none
        · exact .none
    dsimp only
    split
    · exact outcome_mirrors ⟨trivial, fun _ => trivial⟩
    · refine accepted_mirrors provider ?_ found
      exact ⟨trivial, fun _ => trivial⟩

theorem userinfo_mirrors (url : String) (timeout : Number) (signal : Signal) :
    Mirrors one two OutcomesAlike (Userinfo.verify url timeout one signal)
      (Userinfo.verify url timeout two signal) := by
  refine (fetch_mirrors (.userinfo url signal) timeout).bind ?_
  rintro _ _ ⟨alike, -⟩
  cases alike with
  | failed failure => exact unreachable_mirrors _ _ _ failure
  | @answered status body other alike =>
    have found : FoundAlike (body.bind Json.record?) (other.bind Json.record?) := by
      cases alike with
      | same => exact found_itself _
      | claims alike => exact .some alike
    dsimp only
    split
    · exact outcome_mirrors ⟨trivial, fun _ => trivial⟩
    · refine accepted_mirrors Userinfo.provider ?_ found
      exact ⟨trivial, fun _ => trivial⟩

theorem headers_decoded (alike : TokensAlike one two) :
    SignedToken.protectedHeader? one = SignedToken.protectedHeader? two := by
  cases alike with
  | same same => rw [same]
  | @signed first second read other alike =>
    have parts {token : String} {parts : SignedToken} (read : SignedToken.ofText? token = some parts) :
        token.toList.splitOn '.' = [parts.header, parts.payload, parts.signature] := by
      unfold SignedToken.ofText? at read
      split at read
      next split =>
        cases read
        exact split
      · cases read
    simp only [SignedToken.protectedHeader?, parts read, parts other, alike.header, List.length_cons, List.length_nil]
    cases second.header <;> rfl

abbrev KeysAlike (one two : String) (outcome other : Except Keys.LookupFailure (List Fields)) : Prop :=
  outcome = other ∧ ∀ keys, outcome = .ok keys → ImpartialKeys one two keys

theorem keep_mirrors (options : Keys.CacheOptions) (url : String) {keys : List Fields}
    (impartial : ImpartialKeys one two keys) :
    Mirrors one two (KeysAlike one two) (Keys.keep options url keys) (Keys.keep options url keys) := by
  have kept : KeysAlike one two (.ok keys) (.ok keys) := ⟨rfl, by rintro _ ⟨⟩; exact impartial⟩
  refine .request trivial fun fetchedAt => .request trivial fun _ => ?_
  split
  · exact .done ⟨rfl, nofun⟩
  · exact .request trivial fun _ => .done kept

theorem getKeys_mirrors (options : Keys.CacheOptions) (url : String) (signal : Signal) :
    Mirrors one two (KeysAlike one two) (Keys.getKeys options url signal) (Keys.getKeys options url signal) := by
  refine .request trivial fun now => .asked ⟨none, none, .recalled none nofun⟩ fun entry other echo => ?_
  obtain ⟨rfl, impartial⟩ := echo.impartially
  split
  next keys fresh =>
    have held : KeysAlike one two (.ok keys) (.ok keys) := by
      refine ⟨rfl, ?_⟩
      rintro _ ⟨⟩
      unfold Keys.fresh? at fresh
      split at fresh
      next entry =>
        split at fresh
        · cases fresh
          exact impartial entry rfl
        · cases fresh
      · cases fresh
    exact .request trivial fun _ => .done held
  · refine .request trivial fun _ => (fetch_mirrors (.keys url signal) _).bind ?_
    rintro outcome _ ⟨-, published⟩
    obtain ⟨rfl, impartial⟩ := published url signal rfl
    split
    · exact .done ⟨rfl, nofun⟩
    next keys found => exact keep_mirrors options url (impartial keys found)

theorem findKey_mirrors (configured : SigningAlgorithm) (id : String) {candidates : List Fields}
    (impartial : ImpartialKeys one two candidates) :
    Mirrors one two
      (fun found other => found = other ∧ ∀ key algorithm, found = some (key, algorithm) → Impartial one two key)
      (PublishedKeys.findKey configured id candidates) (PublishedKeys.findKey configured id candidates) := by
  induction candidates with
  | nil => exact .done ⟨rfl, nofun⟩
  | cons fields rest ih =>
    have later := ih fun other member => impartial other (List.mem_cons_of_mem _ member)
    unfold PublishedKeys.findKey
    split
    · split
      next key algorithm inspected =>
        refine .done ⟨rfl, ?_⟩
        rintro _ _ ⟨⟩
        exact impartial fields List.mem_cons_self _ _ _ inspected
      · exact .request trivial fun _ => later
      · exact .request trivial fun _ => later
    · exact later

theorem published_mirrors (alike : TokensAlike one two) (keys : PublishedKeys) (signal : Signal) :
    Mirrors one two FoundAlike (keys.verify one signal) (keys.verify two signal) := by
  have refused {flow : Flow (Option Fields)} (plain : Asks Plainly flow) : Mirrors one two FoundAlike flow flow := by
    refine (Mirrors.itself plain).weaken ?_
    rintro found _ rfl
    exact found_itself found
  unfold PublishedKeys.verify
  rw [headers_decoded alike]
  split
  · exact refused ⟨trivial, fun _ => trivial⟩
  · split
    · split
      · exact refused ⟨trivial, fun _ => trivial⟩
      · refine (getKeys_mirrors keys.cache keys.url signal).bind ?_
        rintro outcome _ ⟨rfl, impartial⟩
        cases outcome with
        | error failure =>
          refine refused ?_
          dsimp only
          unfold PublishedKeys.reportLookupFailure
          split <;> exact ⟨trivial, fun _ => trivial⟩
        | ok candidates =>
          refine (findKey_mirrors keys.algorithm _ (impartial candidates rfl)).bind ?_
          rintro found _ ⟨rfl, impartial⟩
          match found with
          | none => exact refused ⟨trivial, fun _ => trivial⟩
          | some (key, algorithm) => exact held_mirrors alike (impartial key algorithm rfl) _
    · exact refused ⟨trivial, fun _ => trivial⟩

theorem remote_mirrors (alike : TokensAlike one two) (remote : RemoteVerifier) (signal : Signal) :
    Mirrors one two OutcomesAlike (remote.verify one signal) (remote.verify two signal) := by
  cases remote with
  | introspection provider url timeout => exact introspection_mirrors provider url timeout signal
  | userinfo url timeout => exact userinfo_mirrors url timeout signal
  | publishedKeys keys =>
    exact (published_mirrors alike keys signal).bind fun found other same => .done (.found same)

def HoldsImpartial (one two : String) : Verifier → Prop
  | .localKey held | .localFirst held _ => Impartial one two held.key
  | _ => True

theorem verifier_mirrors (alike : TokensAlike one two) {verifier : Verifier}
    (impartial : HoldsImpartial one two verifier) (signal : Signal) :
    Mirrors one two OutcomesAlike (verifier.verify one signal) (verifier.verify two signal) := by
  cases verifier with
  | disabled => exact outcome_mirrors ⟨trivial, fun _ => trivial⟩
  | localKey held =>
    exact (held_mirrors alike impartial _).bind fun found other same => .done (.found same)
  | remote strategy => exact remote_mirrors alike strategy signal
  | localFirst held strategy =>
    refine (held_mirrors alike impartial _).bind fun found other same => ?_
    cases same with
    | some alike => exact .done (.found (.some alike))
    | none =>
      cases strategy with
      | none => exact .done (.found .none)
      | some remote => exact remote_mirrors alike remote signal
  | consulted method =>
    refine .ask ⟨.ok none, .ok none, .consulted signal (outcome_itself _)⟩ fun outcome other echo => .done ?_
    exact echo.consulting rfl rfl

end TenantAccess.Proofs
