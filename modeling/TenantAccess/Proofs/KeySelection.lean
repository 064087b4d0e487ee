import TenantAccess.Proofs.KeptKeys
import TenantAccess.Proofs.TokenAcceptance

/-! The key that a token is checked under: of the published keys, the first one that can be used.
What stands among them and cannot be used has no say in any verification. -/

namespace TenantAccess.Proofs

/-- The shape of a key that signatures can be checked with: an asymmetric kind, an id, and texts where
anything is given at all. -/
structure Shaped (fields : Fields) : Prop where
  kind : ∃ kind ∈ ["RSA", "EC", "OKP"], fields.get? "kty" = some (.text kind)
  named : ∃ id, id ≠ "" ∧ fields.get? "kid" = some (.text id)
  texts : ∀ name ∈ ["alg", "use", "n", "e", "crv", "x", "y"], ∀ value, fields.get? name = some value →
    ∃ text, value = .text text

theorem kindOf?_read {value : Json} {kind : Keys.KeyKind} (read : Keys.Jwk.kindOf? value = some kind) :
    ∃ name ∈ ["RSA", "EC", "OKP"], value = .text name := by
  unfold Keys.Jwk.kindOf? at read
  split at read
  · exact ⟨"RSA", by simp, rfl⟩
  · exact ⟨"EC", by simp, rfl⟩
  · exact ⟨"OKP", by simp, rfl⟩
  · cases read

theorem optional?_isSome (fields : Fields) (name : String) : (Keys.Jwk.optional? fields name).isSome ↔
    ∀ value, fields.get? name = some value → ∃ text, value = .text text := by
  unfold Keys.Jwk.optional?
  cases fields.get? name with
  | none => simp
  | some value => cases value <;> simp

theorem text?_read {value : Json} {text : String} (read : value.text? = some text) : value = .text text := by
  cases value <;> simp_all [Json.text?]

theorem record?_read {value : Json} {fields : Fields} (read : value.record? = some fields) :
    value = .record fields := by
  cases value <;> simp_all [Json.record?]

theorem shaped_iff (fields : Fields) : Shaped fields ↔ ∃ jwk, Keys.Jwk.ofFields? fields = some jwk := by
  constructor
  · intro shaped
    obtain ⟨kind, known, kty⟩ := shaped.kind
    obtain ⟨id, nonempty, kid⟩ := shaped.named
    obtain ⟨read, kinded⟩ : ∃ read, Keys.Jwk.kindOf? (.text kind) = some read := by
      simp only [List.mem_cons, List.not_mem_nil, or_false] at known
      rcases known with rfl | rfl | rfl <;> exact ⟨_, rfl⟩
    have given (name : String) (listed : name ∈ ["alg", "use", "n", "e", "crv", "x", "y"]) :
        ∃ text, Keys.Jwk.optional? fields name = some text :=
      Option.isSome_iff_exists.mp ((optional?_isSome fields name).mpr (shaped.texts name listed))
    obtain ⟨algorithm, alg⟩ := given "alg" (by simp)
    obtain ⟨purpose, use⟩ := given "use" (by simp)
    obtain ⟨modulus, n⟩ := given "n" (by simp)
    obtain ⟨exponent, e⟩ := given "e" (by simp)
    obtain ⟨curve, crv⟩ := given "crv" (by simp)
    obtain ⟨abscissa, x⟩ := given "x" (by simp)
    obtain ⟨ordinate, y⟩ := given "y" (by simp)
    exact ⟨⟨read, id, algorithm, purpose, modulus, exponent, curve, abscissa, ordinate⟩, by
      simp only [Keys.Jwk.ofFields?, kty, kid, kinded, alg, use, n, e, crv, x, y, Json.text?,
      Option.bind_eq_bind, Option.bind_some, String.isEmpty_iff, if_neg nonempty]⟩
  · rintro ⟨jwk, read⟩
    simp only [Keys.Jwk.ofFields?, Option.bind_eq_bind, Option.bind_eq_some_iff] at read
    obtain ⟨kind, ⟨kty, kindGiven, kinded⟩, id, ⟨kid, idGiven, named⟩, algorithm, alg, purpose, use, modulus, n,
      exponent, e, curve, crv, abscissa, x, ordinate, y, built⟩ := read
    have nonempty : id ≠ "" := by
      rintro rfl
      cases built
    refine ⟨?_, ⟨id, nonempty, ?_⟩, ?_⟩
    · obtain ⟨name, known, rfl⟩ := kindOf?_read kinded
      exact ⟨name, known, kindGiven⟩
    · rw [idGiven, text?_read named]
    · intro name listed
      rw [← optional?_isSome]
      simp only [List.mem_cons, List.not_mem_nil, or_false] at listed
      rcases listed with rfl | rfl | rfl | rfl | rfl | rfl | rfl <;>
        simp only [alg, use, n, e, crv, x, y, Option.isSome_some]

/-- A published key that the search for a name may end with, and what tokens are checked under then. -/
structure Usable (configured : SigningAlgorithm) (id : String) (fields : Fields) (key : Crypto.PublicKey)
    (algorithm : SigningAlgorithm) : Prop where
  named : fields.get? "kid" = some (.text id)
  shaped : Shaped fields
  signing : fields.get? "use" ≠ some (.text "enc")
  imported : ∃ jwk, Keys.Jwk.ofFields? fields = some jwk ∧ jwk.publicKey? = some key
  used : UsedWith configured fields algorithm

/-- A member of the published list that the search for a name passes over, and why. -/
inductive Unusable (id : String) : Json → Prop where
  | noRecord {member : Json} (other : member.record? = none) : Unusable id member
  | otherName {fields : Fields} (foreign : fields.get? "kid" ≠ some (.text id)) : Unusable id (.record fields)
  | misshapen {fields : Fields} (misshapen : ¬ Shaped fields) : Unusable id (.record fields)
  | encrypting {fields : Fields} (meant : fields.get? "use" = some (.text "enc")) : Unusable id (.record fields)
  | unreadable {fields : Fields}
      (failed : ∀ jwk, Keys.Jwk.ofFields? fields = some jwk → jwk.publicKey? = none) :
      Unusable id (.record fields)

def usable? (configured : SigningAlgorithm) (id : String) (fields : Fields) :
    Option (Crypto.PublicKey × SigningAlgorithm) :=
  if PublishedKeys.isNamed id fields then
    match PublishedKeys.inspect fields configured with
    | .usable key algorithm => some (key, algorithm)
    | .unusable | .unreadable => none
  else none

theorem usable?_some (configured : SigningAlgorithm) (id : String) (fields : Fields) (key : Crypto.PublicKey)
    (algorithm : SigningAlgorithm) :
    usable? configured id fields = some (key, algorithm) ↔ Usable configured id fields key algorithm := by
  unfold usable?
  constructor
  · intro found
    split at found
    next named =>
      split at found
      next key algorithm inspected =>
        cases found
        obtain ⟨jwk, shaped, signing, readable, used⟩ := (inspect_usable ..).mp inspected
        exact ⟨(isNamed_iff id fields).mp named, (shaped_iff fields).mpr ⟨jwk, shaped⟩, signing,
          ⟨jwk, shaped, readable⟩, used⟩
      · cases found
      · cases found
    · cases found
  · rintro ⟨named, -, signing, ⟨jwk, shaped, readable⟩, used⟩
    simp only [(isNamed_iff id fields).mpr named, (inspect_usable ..).mpr ⟨jwk, shaped, signing, readable, used⟩,
      ↓reduceIte]

theorem usable?_none (configured : SigningAlgorithm) (id : String) (member : Json) :
    member.record?.bind (usable? configured id) = none ↔ Unusable id member := by
  cases member with
  | record fields =>
    rw [Json.record?, Option.bind_some]
    constructor
    · intro passed
      by_cases named : Fields.get? fields "kid" = some (.text id)
      · have nothing : ∀ key algorithm, PublishedKeys.inspect fields configured ≠ .usable key algorithm := by
          intro key algorithm inspected
          simp [usable?, (isNamed_iff id fields).mpr named, inspected] at passed
        rcases (inspect_passed fields configured).mp nothing with unread | meant | ⟨jwk, read, failed⟩
        · exact .misshapen fun shaped => by
            obtain ⟨jwk, read⟩ := (shaped_iff fields).mp shaped
            rw [unread] at read
            cases read
        · exact .encrypting meant
        · refine .unreadable fun other same => ?_
          rw [read] at same
          rwa [← Option.some.inj same]
      · exact .otherName named
    · intro unusable
      rw [Option.eq_none_iff_forall_ne_some]
      rintro ⟨key, algorithm⟩ found
      have usable := (usable?_some ..).mp found
      cases unusable with
      | noRecord other => cases other
      | otherName foreign => exact foreign usable.named
      | misshapen misshapen => exact misshapen usable.shaped
      | encrypting meant => exact usable.signing meant
      | unreadable failed =>
        obtain ⟨jwk, read, imported⟩ := usable.imported
        rw [failed jwk read] at imported
        cases imported
  | _ => exact iff_of_true rfl (.noRecord rfl)

def chosen? (configured : SigningAlgorithm) (id : String) (published : List Json) :
    Option (Crypto.PublicKey × SigningAlgorithm) :=
  published.findSome? fun member => member.record?.bind (usable? configured id)

theorem chosen?_records (configured : SigningAlgorithm) (id : String) (published : List Json) :
    (published.filterMap Json.record?).findSome? (usable? configured id) = chosen? configured id published := by
  induction published with
  | nil => rfl
  | cons member rest ih =>
    unfold chosen? at ih ⊢
    cases held : member.record? <;> simp [List.findSome?_cons, held, ih]

theorem chosen?_first {configured : SigningAlgorithm} {id : String} {before after : List Json} {fields : Fields}
    {key : Crypto.PublicKey} {algorithm : SigningAlgorithm} (passed : ∀ member ∈ before, Unusable id member)
    (usable : Usable configured id fields key algorithm) :
    chosen? configured id (before ++ .record fields :: after) = some (key, algorithm) := by
  have skipped : before.findSome? (fun member => member.record?.bind (usable? configured id)) = none :=
    List.findSome?_eq_none_iff.mpr fun member inside => (usable?_none ..).mpr (passed member inside)
  have found : (Json.record fields).record?.bind (usable? configured id) = some (key, algorithm) :=
    (usable?_some ..).mpr usable
  rw [chosen?, List.findSome?_append, skipped, Option.none_or, List.findSome?_cons, found]

theorem chosen?_none {configured : SigningAlgorithm} {id : String} {published : List Json} :
    chosen? configured id published = none ↔ ∀ member ∈ published, Unusable id member := by
  simp only [chosen?, List.findSome?_eq_none_iff, usable?_none]

/-- One list comes from the other by putting members of a kind in and taking members of that kind out,
any number of them and anywhere. -/
inductive Altered (kind : Json → Prop) : List Json → List Json → Prop where
  | done : Altered kind [] []
  | kept (member : Json) {first second : List Json} (rest : Altered kind first second) :
      Altered kind (member :: first) (member :: second)
  | inserted {member : Json} (of : kind member) {first second : List Json} (rest : Altered kind first second) :
      Altered kind first (member :: second)
  | deleted {member : Json} (of : kind member) {first second : List Json} (rest : Altered kind first second) :
      Altered kind (member :: first) second

theorem Altered.chosen {id : String} {first second : List Json} (altered : Altered (Unusable id) first second)
    (configured : SigningAlgorithm) : chosen? configured id first = chosen? configured id second := by
  induction altered with
  | done => rfl
  | kept member rest ih =>
    unfold chosen? at ih ⊢
    rw [List.findSome?_cons, List.findSome?_cons, ih]
  | inserted of rest ih =>
    unfold chosen? at ih ⊢
    rw [List.findSome?_cons, (usable?_none ..).mpr of, ih]
  | deleted of rest ih =>
    unfold chosen? at ih ⊢
    rw [List.findSome?_cons, (usable?_none ..).mpr of, ih]

def claimsOf : TokenOutcome → Option Fields
  | .accepted claims => some claims
  | .expired | .rejected _ | .keyUnfit => none

def verdict (keys : PublishedKeys) (id token : String) (now : Number) (published : List Json) : Option Fields :=
  (chosen? keys.algorithm id published).bind fun (key, algorithm) =>
    claimsOf (TokenOutcome.check token key algorithm keys.issuer now)

section
variable {world : World σ}

variable (world) in
theorem findKey_run (configured : SigningAlgorithm) (id : String) (candidates : List Fields) (state : σ) :
    ((PublishedKeys.findKey configured id candidates).run world state).1 =
      candidates.findSome? (usable? configured id) := by
  induction candidates generalizing state with
  | nil => rfl
  | cons fields rest ih =>
    unfold PublishedKeys.findKey
    rw [List.findSome?_cons, usable?]
    split
    · cases PublishedKeys.inspect fields configured with
      | usable key algorithm => rfl
      | unusable | unreadable => exact ih _
    · exact ih state

theorem conclude_run (method : String) (outcome : TokenOutcome) (state : σ) :
    ((outcome.conclude method).run world state).1 = claimsOf outcome := by
  cases outcome <;> rfl

theorem localKey_run (held : LocalKey) (method token : String) (state : σ) :
    ((held.verify method token).run world state).1 =
      claimsOf (held.check token (world.reply .clock state).1) := conclude_run method _ _

end

section
variable {keys : PublishedKeys} {others : (question : Ask) → question.Reply} {id token : String}

theorem verifyUnder_run (keys : PublishedKeys) (others : (question : Ask) → question.Reply) (id token : String)
    (published : List Json) (shared : Shared) :
    ((keys.verifyUnder id token (published.filterMap Json.record?)).run (Shared.world others) shared).1 =
      verdict keys id token shared.now published := by
  have searched := findKey_run (Shared.world others) keys.algorithm id
    (published.filterMap Json.record?) shared
  have unmoved : ((PublishedKeys.findKey keys.algorithm id (published.filterMap Json.record?)).run
      (Shared.world others) shared).2 = shared :=
    congrArg Prod.snd (timely_run (findKey_timely ..) others others shared none)
  rw [chosen?_records] at searched
  unfold PublishedKeys.verifyUnder verdict
  rw [Flow.run_bind, searched, unmoved]
  cases chosen? keys.algorithm id published with
  | none => rfl
  | some found => exact localKey_run _ _ _ _

def Lists (reply : FetchReply) (published : List Json) : Prop :=
  ∃ status text, ∃ fields : Fields, reply = .answered status (.ok text) ∧ 200 ≤ status ∧ status ≤ 299 ∧
    JsonResponse.readBody text = some (.record fields) ∧ Fields.get? fields "keys" = some (.list published)

theorem Lists.publishes {reply : FetchReply} {published : List Json} (lists : Lists reply published) :
    Publishes reply (published.filterMap Json.record?) := by
  obtain ⟨status, text, fields, rfl, low, high, read, found⟩ := lists
  exact ⟨status, text, fields, published, rfl, low, high, read, found, rfl⟩

variable (keys token) in
/-- What every verification of a token comes to that is judged under a published list at a moment: at once when
the keys of the list are held, and by the reply to its one request when that brings the list. Keys
whose expiry cannot be written judge no token. -/
structure Judged (published : List Json) (now : Number) (claims : Option Fields) : Prop where
  held : ∀ (others : (question : Ask) → question.Reply) (signal : Signal) (shared : Shared), shared.now = now →
    Offers shared keys.url (published.filterMap Json.record?) →
    (keys.verify token signal).toFetch (Shared.world others) shared = (.finished claims, shared)
  brought : ∀ (others : (question : Ask) → question.Reply) (signal : Signal) (shared : Shared),
    (∀ candidates, ¬ Offers shared keys.url candidates) →
    ∃ next, (keys.verify token signal).toFetch (Shared.world others) shared =
        (.waiting (Keys.publishedKeysRequest keys.url signal) next, shared) ∧
      ∀ reply later, Lists reply published → later.now = now →
        ((next reply).run (Shared.world others) later).1 =
          if (Calendar.toText? (now.add keys.cache.timeToLive)).isSome then claims else none

def Names (token id : String) (header : Fields) : Prop :=
  SignedToken.protectedHeader? token = some header ∧ header.get? "kid" = some (.text id) ∧ id ≠ ""

variable (keys) in
theorem verdict_judges {header : Fields} (named : Names token id header) (published : List Json) (now : Number) :
    Judged keys token published now (verdict keys id token now published) := by
  obtain ⟨decoded, found, nonempty⟩ := named
  constructor
  · rintro others signal shared rfl offers
    rw [verify_named keys signal decoded found nonempty,
      toFetch_finished (getKeys_hit signal ((fresh_iff ..).mpr offers)),
      timely_finishes (judgeUnder_timely keys id token _) others others shared shared.entry]
    exact congrArg (fun claims => (Flow.Paused.finished claims, shared)) (verifyUnder_run ..)
  · intro others signal shared unserved
    have stale : Keys.fresh? shared.entry keys.url shared.now = none := by
      rw [Option.eq_none_iff_forall_ne_some]
      exact fun candidates fresh => unserved candidates ((fresh_iff _ _ _).mp fresh)
    refine ⟨fun reply => resume keys.cache keys.url reply >>= judgeUnder keys id token, ?_, ?_⟩
    · rw [verify_named keys signal decoded found nonempty, toFetch_waiting (getKeys_miss signal stale)]
    · rintro reply later lists rfl
      rw [Flow.run_bind, resume_kept ((publishes_iff reply _).mp lists.publishes)]
      split
      · exact verifyUnder_run keys others id token published _
      · rfl

def Passing : Ask → Prop
  | .report entry => entry.message ∈ ["skipping unusable jwk", "skipping jwk that failed to parse",
      "signing key not found in jwks"]
  | _ => False

/-- A search that finds nothing goes on without a key. -/
theorem findKey_passes {configured : SigningAlgorithm} {candidates : List Fields}
    {next : Option (Crypto.PublicKey × SigningAlgorithm) → Flow α}
    (passed : ∀ fields ∈ candidates, usable? configured id fields = none) (later : Asks Passing (next none)) :
    Asks Passing (PublishedKeys.findKey configured id candidates >>= next) := by
  induction candidates with
  | nil => exact later
  | cons fields rest ih =>
    have behind := ih fun other inside => passed other (List.mem_cons_of_mem _ inside)
    have first := passed fields List.mem_cons_self
    unfold PublishedKeys.findKey
    unfold usable? at first
    split
    next named =>
      rw [if_pos named] at first
      cases inspected : PublishedKeys.inspect fields configured with
      | usable key algorithm =>
        rw [inspected] at first
        cases first
      | unusable => exact ⟨by simp [Passing], fun _ => behind⟩
      | unreadable => exact ⟨by simp [Passing], fun _ => behind⟩
    next => exact behind

theorem verifyUnder_passes (keys : PublishedKeys) {published : List Json} (token : String)
    (passed : ∀ member ∈ published, Unusable id member) :
    Asks Passing (keys.verifyUnder id token (published.filterMap Json.record?)) := by
  refine findKey_passes (fun fields inside => ?_) ⟨by simp [Passing], fun _ => trivial⟩
  obtain ⟨member, listed, read⟩ := List.mem_filterMap.mp inside
  have nothing := (usable?_none keys.algorithm id member).mpr (passed member listed)
  rwa [read, Option.bind_some] at nothing

variable (keys id token) in
/-- What decides over a token under a published list: its first usable key of the name, or that there is none. Then
no signature is checked, and nothing but the passing over is told. -/
inductive Decider (published : List Json) : Prop where
  | first (before : List Json) (fields : Fields) (after : List Json) (key : Crypto.PublicKey)
      (algorithm : SigningAlgorithm) (same : published = before ++ .record fields :: after)
      (passed : ∀ member ∈ before, Unusable id member) (usable : Usable keys.algorithm id fields key algorithm)
      (judged : ∀ now, Judged keys token published now
        (claimsOf (LocalKey.check ⟨key, algorithm, keys.issuer⟩ token now)))
  | none (passed : ∀ member ∈ published, Unusable id member)
      (unchecked : Asks Passing (keys.verifyUnder id token (published.filterMap Json.record?)))
      (judged : ∀ now, Judged keys token published now none)

theorem first_or_none (configured : SigningAlgorithm) (id : String) (published : List Json) :
    (∀ member ∈ published, Unusable id member) ∨ ∃ before fields after key algorithm,
      published = before ++ .record fields :: after ∧ (∀ member ∈ before, Unusable id member) ∧
        Usable configured id fields key algorithm := by
  induction published with
  | nil => exact .inl nofun
  | cons member rest ih =>
    cases held : member.record?.bind (usable? configured id) with
    | some found =>
      obtain ⟨fields, read, usable⟩ := Option.bind_eq_some_iff.mp held
      obtain rfl := record?_read read
      exact .inr ⟨[], fields, rest, found.1, found.2, rfl, nofun, (usable?_some ..).mp usable⟩
    | none =>
      have junk := (usable?_none ..).mp held
      rcases ih with nothing | ⟨before, fields, after, key, algorithm, rfl, passed, usable⟩
      · exact .inl (List.forall_mem_cons.mpr ⟨junk, nothing⟩)
      · exact .inr ⟨member :: before, fields, after, key, algorithm, rfl, List.forall_mem_cons.mpr ⟨junk, passed⟩,
          usable⟩

theorem list_decides {header : Fields} (named : Names token id header) (published : List Json) :
    Decider keys id token published := by
  have judges := verdict_judges keys named published
  rcases first_or_none keys.algorithm id published with
    nothing | ⟨before, fields, after, key, algorithm, rfl, passed, usable⟩
  · refine .none nothing (verifyUnder_passes keys token nothing) fun now => ?_
    have judged := judges now
    rwa [verdict, chosen?_none.mpr nothing] at judged
  · refine .first before fields after key algorithm rfl passed usable fun now => ?_
    have judged := judges now
    rwa [verdict, chosen?_first passed usable] at judged

end

/-- Under every published list the first key decides that has the name, the shape of a signing key and no other purpose,
and that can be read; without one the token stands for nobody. So members that cannot be used may be put in and
taken out anywhere, and no verification comes to anything else. -/
theorem first_usable_key_decides (keys : PublishedKeys) (token id : String) (header : Fields)
    (named : Names token id header) :
    (∀ published, Decider keys id token published) ∧
    ∀ first second, Altered (Unusable id) first second → ∀ now,
      ∃ claims, Judged keys token first now claims ∧ Judged keys token second now claims := by
  refine ⟨list_decides named, fun first second altered now => ⟨verdict keys id token now first, ?_, ?_⟩⟩
  · exact verdict_judges keys named first now
  · have judged := verdict_judges keys named second now
    rwa [verdict, ← altered.chosen keys.algorithm] at judged

theorem namingToken_names : Names namingToken "k" [("kid", .text "k")] :=
  ⟨by decide +kernel, by decide, by decide⟩

/-- A text and a symmetric key about a key meant for encryption: with or without them nothing can be used. -/
theorem first_usable_key_decides_junk : Names namingToken "k" [("kid", .text "k")] ∧
    (∀ published, Decider fleetingKeys "k" namingToken published) ∧
    ∃ claims,
      Judged fleetingKeys namingToken [.text "junk", .record [("kid", .text "k"), ("kty", .text "oct")],
        .record [("kid", .text "k"), ("kty", .text "RSA"), ("use", .text "enc")]] (.ofInt 0) claims ∧
      Judged fleetingKeys namingToken [.record [("kid", .text "k"), ("kty", .text "RSA"), ("use", .text "enc")]]
        (.ofInt 0) claims := by
  obtain ⟨decided, unmoved⟩ := first_usable_key_decides fleetingKeys namingToken "k" _ namingToken_names
  have symmetric : Unusable "k" (.record [("kid", .text "k"), ("kty", .text "oct")]) := by
    refine .misshapen fun shaped => ?_
    obtain ⟨kind, known, kty⟩ := shaped.kind
    obtain rfl : kind = "oct" := by simpa [Fields.get?, eq_comm] using kty
    exact absurd known (by decide)
  exact ⟨namingToken_names, decided, unmoved _ _ (.deleted (.noRecord rfl) (.deleted symmetric (.kept _ .done))) _⟩

end TenantAccess.Proofs
