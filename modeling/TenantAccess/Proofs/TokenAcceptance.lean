import TenantAccess.Proofs.WholeNumbers
import TenantAccess.Verifier.Basic

/-! What it takes for a signed token to be believed. The conditions are stated on the
text of the token; the checks accept exactly the tokens that meet them. -/

namespace TenantAccess.Proofs

variable {σ : Type}

def asymmetricNames : List String :=
  ["RS256", "RS384", "RS512", "ES256", "ES384", "ES512", "PS256", "PS384", "PS512"]

theorem named_asymmetric (algorithm : SigningAlgorithm) : algorithm.toText ∈ asymmetricNames := by
  obtain ⟨scheme, digest⟩ := algorithm
  cases scheme <;> cases digest <;> decide

theorem ofText?_toText (algorithm : SigningAlgorithm) :
    SigningAlgorithm.ofText? algorithm.toText = some algorithm := by
  obtain ⟨scheme, digest⟩ := algorithm
  cases scheme <;> cases digest <;> decide

theorem ofText?_names {name : String} {algorithm : SigningAlgorithm}
    (found : SigningAlgorithm.ofText? name = some algorithm) : name = algorithm.toText := by
  have same := List.find?_some found
  exact (beq_iff_eq.mp same).symm

/-- A token of three parts, none of which holds a dot. -/
structure Divided (token : String) (parts : SignedToken) : Prop where
  whole : token.toList = parts.header ++ '.' :: (parts.payload ++ '.' :: parts.signature)
  dotless : '.' ∉ parts.header ∧ '.' ∉ parts.payload ∧ '.' ∉ parts.signature

def Tells (claims : Fields) (name : String) (holds : Number → Prop) : Prop :=
  ∀ value, claims.get? name = some value → ∃ moment, value = .number moment ∧ holds moment

def Later (moment : Number) (second : Int) : Prop := (Number.finite second).below moment = true

/-- Everything that a token must show before its claims are believed. -/
structure Acceptable (token : String) (parts : SignedToken) (key : Crypto.PublicKey)
    (algorithm : SigningAlgorithm) (issuer : Option String) (now : Number) (claims : Fields) : Prop where
  divided : Divided token parts
  asymmetric : algorithm.toText ∈ asymmetricNames
  pinned : ∃ header, parts.headerFields? = some header ∧
    header.get? "alg" = some (.text algorithm.toText)
  fits : key.fits algorithm = true
  signed : key.verify algorithm (Utf8.encode (String.ofList (parts.header ++ '.' :: parts.payload)))
    (Base64.decode parts.signature) = true
  payload : SignedToken.decodePart? parts.payload = some (.record claims)
  issued : ∀ named, issuer = some named → ∃ value, claims.get? "iss" = some value ∧
    (named ≠ "" → value = .text named)
  dated : Tells claims "iat" fun _ => True
  started : Tells claims "nbf" fun moment =>
    ∀ second, TokenOutcome.seconds? now = some second → ¬ Later moment (second + 10)
  unexpired : Tells claims "exp" fun moment =>
    ∀ second, TokenOutcome.seconds? now = some second → Later moment (second - 10)

/-- A token whose header asks for no extension. -/
def Uncritical (parts : SignedToken) : Prop :=
  ∀ header, parts.headerFields? = some header → header.get? "crit" = none

theorem splitOn_first {text first : List Char} {rest : List (List Char)}
    (split : text.splitOn '.' = first :: rest) :
    '.' ∉ first ∧ (rest = [] ∧ text = first ∨
      ∃ behind, text = first ++ '.' :: behind ∧ behind.splitOn '.' = rest) := by
  by_cases dotted : '.' ∈ text
  · obtain ⟨before, behind, rfl, plain⟩ := List.eq_append_cons_of_mem dotted
    rw [List.splitOn_append_cons_self_of_not_mem plain] at split
    obtain ⟨rfl, rfl⟩ := List.cons.inj split
    exact ⟨plain, .inr ⟨behind, rfl, rfl⟩⟩
  · rw [List.splitOn_eq_singleton dotted] at split
    obtain ⟨rfl, rfl⟩ := List.cons.inj split
    exact ⟨dotted, .inl ⟨rfl, rfl⟩⟩

theorem ofText?_divided (token : String) (parts : SignedToken) :
    SignedToken.ofText? token = some parts ↔ Divided token parts := by
  constructor
  · intro read
    unfold SignedToken.ofText? at read
    split at read
    next header payload signature split =>
      cases read
      obtain ⟨first, ⟨nothing, -⟩ | ⟨behind, whole, later⟩⟩ := splitOn_first split
      · cases nothing
      obtain ⟨second, ⟨nothing, -⟩ | ⟨last, same, final⟩⟩ := splitOn_first later
      · cases nothing
      obtain ⟨third, ⟨-, ended⟩ | ⟨more, -, empty⟩⟩ := splitOn_first final
      · exact ⟨by rw [whole, same, ended], first, second, third⟩
      · exact absurd empty (List.splitOn_ne_nil _ _)
    next => cases read
  · rintro ⟨whole, first, second, third⟩
    unfold SignedToken.ofText?
    rw [whole, List.splitOn_append_cons_self_of_not_mem first,
      List.splitOn_append_cons_self_of_not_mem second, List.splitOn_eq_singleton third]

/-- What a header names as its algorithm is what the checks compare. -/
theorem ofFields_named {fields : Fields} {header : TokenHeader}
    (read : TokenHeader.ofFields fields = .ok header) :
    fields.get? "alg" = some (.text header.algorithm) := by
  unfold TokenHeader.ofFields at read
  split at read
  · cases read
  · split at read
    next algorithm named =>
      split at read
      · cases read
      · cases read
        exact named
    · cases read

theorem ofFields_uncritical {fields : Fields} {algorithm : SigningAlgorithm}
    (plain : fields.get? "crit" = none) (named : fields.get? "alg" = some (.text algorithm.toText)) :
    TokenHeader.ofFields fields = .ok ⟨algorithm.toText, false⟩ := by
  have written : algorithm.toText ≠ "" := by
    intro empty
    have member := named_asymmetric algorithm
    rw [empty] at member
    exact absurd member (by decide)
  simp only [TokenHeader.ofFields, TokenHeader.readCritical, plain, named, if_neg written]

theorem fits_supported {key : Crypto.PublicKey} {algorithm : SigningAlgorithm}
    (fits : key.fits algorithm = true) : key.isUnsupported algorithm = false := by
  obtain ⟨scheme, digest⟩ := algorithm
  cases scheme <;> cases key <;> first | rfl | exact Bool.noConfusion fits

theorem issuerFits_iff (claims : Fields) (issuer : Option String) :
    TokenOutcome.issuerFits claims issuer = true ↔ ∀ named, issuer = some named →
      ∃ value, claims.get? "iss" = some value ∧ (named ≠ "" → value = .text named) := by
  unfold TokenOutcome.issuerFits
  cases issuer with
  | none => simp
  | some issuer =>
    cases given : claims.get? "iss" with
    | none => simp
    | some value => by_cases empty : issuer = "" <;> simp [empty]

theorem timeClaim?_tells (claims : Fields) (name : String) (holds : Number → Prop) :
    Tells claims name holds ↔ ∃ given, TokenOutcome.timeClaim? claims name = some given ∧
      ∀ moment, given = some moment → holds moment := by
  unfold Tells TokenOutcome.timeClaim?
  cases claims.get? name with
  | none => simp
  | some value => cases value <;> simp

theorem startsInTime_iff (now : Number) (start : Option Number) :
    TokenOutcome.startsInTime (TokenOutcome.seconds? now) start = true ↔ ∀ moment, start = some moment →
      ∀ second, TokenOutcome.seconds? now = some second → ¬ Later moment (second + 10) := by
  cases told : TokenOutcome.seconds? now with
  | none => simp [TokenOutcome.startsInTime]
  | some second =>
    have held := ofInt_held (seconds?_few told).1
    cases start with
    | none => simp [TokenOutcome.startsInTime]
    | some moment =>
      simp only [TokenOutcome.startsInTime, held, Option.some.injEq, forall_eq', Later]
      simp [TokenOutcome.leeway]

theorem isOver_iff (now : Number) (expiry : Option Number) :
    TokenOutcome.isOver (TokenOutcome.seconds? now) expiry = false ↔ ∀ moment, expiry = some moment →
      ∀ second, TokenOutcome.seconds? now = some second → Later moment (second - 10) := by
  cases told : TokenOutcome.seconds? now with
  | none => simp [TokenOutcome.isOver]
  | some second =>
    have held := ofInt_held (seconds?_few told).2
    cases expiry with
    | none => simp [TokenOutcome.isOver]
    | some moment =>
      simp only [TokenOutcome.isOver, held, Option.some.injEq, forall_eq', Later]
      simp [TokenOutcome.leeway]

/-- The four claims that are looked at, whatever the order they are looked at in. -/
structure Believable (claims : Fields) (issuer : Option String) (now : Number) : Prop where
  issued : TokenOutcome.issuerFits claims issuer = true
  dated : Tells claims "iat" fun _ => True
  started : Tells claims "nbf" fun moment =>
    ∀ second, TokenOutcome.seconds? now = some second → ¬ Later moment (second + 10)
  unexpired : Tells claims "exp" fun moment =>
    ∀ second, TokenOutcome.seconds? now = some second → Later moment (second - 10)

theorem ofClaims_accepted (claims told : Fields) (issuer : Option String) (now : Number) :
    TokenOutcome.ofClaims claims issuer now = .accepted told ↔
      Believable claims issuer now ∧ told = claims := by
  constructor
  · intro accepted
    unfold TokenOutcome.ofClaims at accepted
    split at accepted
    · cases accepted
    next issued =>
      split at accepted
      · cases accepted
      · cases accepted
      next issue start dated started =>
        split at accepted
        · cases accepted
        next begun =>
          split at accepted
          · cases accepted
          next ending ended =>
            split at accepted
            · cases accepted
            next running =>
              cases accepted
              refine ⟨⟨by simpa using issued, ?_, ?_, ?_⟩, rfl⟩
              · exact (timeClaim?_tells ..).mpr ⟨issue, dated, fun _ _ => trivial⟩
              · exact (timeClaim?_tells ..).mpr
                  ⟨start, started, (startsInTime_iff now start).mp (by simpa using begun)⟩
              · exact (timeClaim?_tells ..).mpr
                  ⟨ending, ended, (isOver_iff now ending).mp (by simpa using running)⟩
  · rintro ⟨⟨issued, dated, started, unexpired⟩, rfl⟩
    obtain ⟨issue, issue_given, -⟩ := (timeClaim?_tells ..).mp dated
    obtain ⟨start, start_given, begun⟩ := (timeClaim?_tells ..).mp started
    obtain ⟨ending, ending_given, later⟩ := (timeClaim?_tells ..).mp unexpired
    have begun := (startsInTime_iff now start).mpr begun
    have later := (isOver_iff now ending).mpr later
    simp [TokenOutcome.ofClaims, issued, issue_given, start_given, ending_given, begun, later]

theorem ofPayload_accepted (token : SignedToken) (claims : Fields) (issuer : Option String)
    (now : Number) : TokenOutcome.ofPayload token issuer now = .accepted claims ↔
      SignedToken.decodePart? token.payload = some (.record claims) ∧ Believable claims issuer now := by
  unfold TokenOutcome.ofPayload
  cases decoded : SignedToken.decodePart? token.payload with
  | none => simp
  | some value =>
    cases value with
    | record fields =>
      simp only [Option.bind_some, Json.record?, ofClaims_accepted, Option.some.injEq, Json.record.injEq]
      constructor
      · rintro ⟨believable, rfl⟩
        exact ⟨rfl, believable⟩
      · rintro ⟨rfl, believable⟩
        exact ⟨believable, rfl⟩
    | _ => simp [Json.record?]

/-- Under a header that has been read, the checks come to the claims exactly when every one
of them passes. -/
theorem ofHeader_accepted (token : SignedToken) (header : TokenHeader) (key : Crypto.PublicKey)
    (algorithm : SigningAlgorithm) (issuer : Option String) (now : Number) (claims : Fields) :
    TokenOutcome.ofHeader token header key algorithm issuer now = .accepted claims ↔
      header.algorithm = algorithm.toText ∧ key.fits algorithm = true ∧
      key.verify algorithm token.message (Base64.decode token.signature) = true ∧
      header.payloadIsPlain = false ∧
      TokenOutcome.ofPayload token issuer now = .accepted claims := by
  unfold TokenOutcome.ofHeader
  constructor
  · intro accepted
    split at accepted
    · cases accepted
    next named =>
      split at accepted
      · cases accepted
      · split at accepted
        · cases accepted
        next fits =>
          split at accepted
          · cases accepted
          next signed =>
            split at accepted
            · cases accepted
            next encoded =>
              exact ⟨by simpa using named, by simpa using fits, by simpa using signed,
                by simpa using encoded, accepted⟩
  · rintro ⟨named, fits, signed, encoded, accepted⟩
    simp [named, fits_supported fits, fits, signed, encoded, accepted]

theorem check_sound {token : String} {key : Crypto.PublicKey} {algorithm : SigningAlgorithm}
    {issuer : Option String} {now : Number} {claims : Fields}
    (accepted : TokenOutcome.check token key algorithm issuer now = .accepted claims) :
    ∃ parts, Acceptable token parts key algorithm issuer now claims := by
  unfold TokenOutcome.check at accepted
  split at accepted
  · cases accepted
  next parts divided =>
    split at accepted
    · cases accepted
    next fields given =>
      split at accepted
      · cases accepted
      next header read =>
        obtain ⟨named, fits, signed, -, believed⟩ := (ofHeader_accepted ..).mp accepted
        obtain ⟨payload, believable⟩ := (ofPayload_accepted ..).mp believed
        refine ⟨parts, (ofText?_divided token parts).mp divided, named_asymmetric algorithm, ?_, fits,
          signed, payload, (issuerFits_iff claims issuer).mp believable.issued, believable.dated,
          believable.started, believable.unexpired⟩
        exact ⟨fields, given, named ▸ ofFields_named read⟩

theorem check_complete {token : String} {parts : SignedToken} {key : Crypto.PublicKey}
    {algorithm : SigningAlgorithm} {issuer : Option String} {now : Number} {claims : Fields}
    (acceptable : Acceptable token parts key algorithm issuer now claims) (uncritical : Uncritical parts) :
    TokenOutcome.check token key algorithm issuer now = .accepted claims := by
  obtain ⟨fields, given, named⟩ := acceptable.pinned
  have divided := (ofText?_divided token parts).mpr acceptable.divided
  have read := ofFields_uncritical (uncritical fields given) named
  have believable : Believable claims issuer now :=
    ⟨(issuerFits_iff claims issuer).mpr acceptable.issued, acceptable.dated, acceptable.started,
      acceptable.unexpired⟩
  simp only [TokenOutcome.check, divided, given, read]
  exact (ofHeader_accepted ..).mpr ⟨rfl, acceptable.fits, acceptable.signed, rfl,
    (ofPayload_accepted ..).mpr ⟨acceptable.payload, believable⟩⟩

theorem localKey_accepts (held : LocalKey) (method token : String) (world : World σ) (state : σ)
    (claims : Fields) :
    ((held.verify method token).run world state).1 = some claims ↔
      TokenOutcome.check token held.key held.algorithm held.issuer (world.reply .clock state).1 =
        .accepted claims := by
  have judged : ((held.verify method token).run world state).1 =
      (((held.check token (world.reply .clock state).1).conclude method).run world
        (world.reply .clock state).2).1 := rfl
  rw [judged]
  unfold LocalKey.check
  cases TokenOutcome.check token held.key held.algorithm held.issuer (world.reply .clock state).1 <;>
    simp [TokenOutcome.conclude, reportAccepted, Flow.report, Flow.request, Flow.run, bind, Flow.bind, pure]

/-- A key is used with the algorithm that it names itself, and with the configured one when it
names none of the asymmetric ones. -/
structure UsedWith (configured : SigningAlgorithm) (fields : Fields) (algorithm : SigningAlgorithm) :
    Prop where
  own : ∀ named : SigningAlgorithm, fields.get? "alg" = some (.text named.toText) → algorithm = named
  configured : (∀ named : SigningAlgorithm, fields.get? "alg" ≠ some (.text named.toText)) →
    algorithm = configured

/-- The first published key of the name that can be read and is not meant for encryption. -/
inductive Selected (configured : SigningAlgorithm) (id : String) :
    List Fields → Crypto.PublicKey → SigningAlgorithm → Prop where
  | here {fields : Fields} {rest : List Fields} {jwk : Keys.Jwk} {key : Crypto.PublicKey}
      {algorithm : SigningAlgorithm} (named : fields.get? "kid" = some (.text id))
      (shaped : Keys.Jwk.ofFields? fields = some jwk) (signing : fields.get? "use" ≠ some (.text "enc"))
      (readable : jwk.publicKey? = some key) (used : UsedWith configured fields algorithm) :
      Selected configured id (fields :: rest) key algorithm
  | later {fields : Fields} {rest : List Fields} {key : Crypto.PublicKey} {algorithm : SigningAlgorithm}
      (passed : fields.get? "kid" = some (.text id) → Keys.Jwk.ofFields? fields = none ∨
        fields.get? "use" = some (.text "enc") ∨
        ∃ jwk, Keys.Jwk.ofFields? fields = some jwk ∧ jwk.publicKey? = none)
      (remaining : Selected configured id rest key algorithm) :
      Selected configured id (fields :: rest) key algorithm

theorem used_algorithm {fields : Fields} {jwk : Keys.Jwk} (configured algorithm : SigningAlgorithm)
    (read : Keys.Jwk.optional? fields "alg" = some jwk.algorithm) :
    UsedWith configured fields algorithm ↔
      (jwk.algorithm.bind SigningAlgorithm.ofText?).getD configured = algorithm := by
  cases given : fields.get? "alg" with
  | none =>
    have nameless : jwk.algorithm = none := by simpa [Keys.Jwk.optional?, given] using read.symm
    rw [nameless]
    constructor
    · exact fun used => (used.configured (by simp [given])).symm
    · rintro rfl
      exact ⟨by simp [given], fun _ => rfl⟩
  | some value =>
    obtain ⟨name, rfl⟩ : ∃ name, value = .text name := by
      cases value <;> simp_all [Keys.Jwk.optional?]
    have named : jwk.algorithm = some name := by simpa [Keys.Jwk.optional?, given] using read.symm
    rw [named, Option.bind_some]
    cases found : SigningAlgorithm.ofText? name with
    | none =>
      have foreign (other : SigningAlgorithm) : fields.get? "alg" ≠ some (.text other.toText) := by
        intro same
        obtain rfl : name = other.toText := by simpa [given] using same
        rw [ofText?_toText] at found
        cases found
      constructor
      · exact fun used => (used.configured foreign).symm
      · rintro rfl
        exact ⟨fun other same => absurd same (foreign other), fun _ => rfl⟩
    | some own =>
      obtain rfl := ofText?_names found
      constructor
      · exact fun used => (used.own own given).symm
      · rintro rfl
        refine ⟨fun other same => ?_, fun foreign => absurd given (foreign own)⟩
        have alike : own.toText = other.toText := by simpa [given] using same
        rw [alike, ofText?_toText] at found
        exact (Option.some.inj found).symm

theorem ofFields?_read {fields : Fields} {jwk : Keys.Jwk} (shaped : Keys.Jwk.ofFields? fields = some jwk) :
    Keys.Jwk.optional? fields "alg" = some jwk.algorithm ∧
      Keys.Jwk.optional? fields "use" = some jwk.purpose := by
  simp only [Keys.Jwk.ofFields?, Option.bind_eq_bind, Option.bind_eq_some_iff] at shaped
  obtain ⟨kind, -, id, -, algorithm, named, purpose, meant, modulus, -, exponent, -, curve, -, x, -, y, -,
    built⟩ := shaped
  split at built
  · cases built
  · cases built
    exact ⟨named, meant⟩

theorem purpose_given {fields : Fields} {jwk : Keys.Jwk} (shaped : Keys.Jwk.ofFields? fields = some jwk)
    (purpose : String) : jwk.purpose = some purpose ↔ fields.get? "use" = some (.text purpose) := by
  have read := (ofFields?_read shaped).2
  unfold Keys.Jwk.optional? at read
  cases given : fields.get? "use" with
  | none =>
    rw [given] at read
    simp [← Option.some.inj read]
  | some value =>
    rw [given] at read
    cases value with
    | text meant =>
      rw [← Option.some.inj read]
      simp
    | _ => cases read

theorem inspect_usable (fields : Fields) (configured : SigningAlgorithm) (key : Crypto.PublicKey)
    (algorithm : SigningAlgorithm) :
    PublishedKeys.inspect fields configured = .usable key algorithm ↔
      ∃ jwk, Keys.Jwk.ofFields? fields = some jwk ∧ fields.get? "use" ≠ some (.text "enc") ∧
        jwk.publicKey? = some key ∧ UsedWith configured fields algorithm := by
  unfold PublishedKeys.inspect
  cases shaped : Keys.Jwk.ofFields? fields with
  | none => simp
  | some jwk =>
    have used := used_algorithm configured algorithm (ofFields?_read shaped).1
    have meant := purpose_given shaped "enc"
    by_cases encrypting : jwk.purpose = some "enc"
    · simp [encrypting, meant.mp encrypting]
    · have signing : fields.get? "use" ≠ some (.text "enc") := fun same => encrypting (meant.mpr same)
      cases readable : jwk.publicKey? with
      | none => simp [encrypting, readable]
      | some found => simp [encrypting, readable, signing, used]

theorem inspect_passed (fields : Fields) (configured : SigningAlgorithm) :
    (∀ key algorithm, PublishedKeys.inspect fields configured ≠ .usable key algorithm) ↔
      (Keys.Jwk.ofFields? fields = none ∨ fields.get? "use" = some (.text "enc") ∨
        ∃ jwk, Keys.Jwk.ofFields? fields = some jwk ∧ jwk.publicKey? = none) := by
  unfold PublishedKeys.inspect
  cases shaped : Keys.Jwk.ofFields? fields with
  | none => simp
  | some jwk =>
    have meant := purpose_given shaped "enc"
    by_cases encrypting : jwk.purpose = some "enc"
    · simp [encrypting, meant.mp encrypting]
    · have signing : fields.get? "use" ≠ some (.text "enc") := fun same => encrypting (meant.mpr same)
      cases readable : jwk.publicKey? with
      | none => simp [encrypting, readable]
      | some found => simp [encrypting, readable, signing]

theorem isNamed_iff (id : String) (fields : Fields) :
    PublishedKeys.isNamed id fields = true ↔ fields.get? "kid" = some (.text id) := beq_iff_eq

theorem findKey_selects (configured : SigningAlgorithm) (id : String) (candidates : List Fields)
    (world : World σ) (state : σ) (key : Crypto.PublicKey) (algorithm : SigningAlgorithm) :
    ((PublishedKeys.findKey configured id candidates).run world state).1 = some (key, algorithm) ↔
      Selected configured id candidates key algorithm := by
  induction candidates generalizing state with
  | nil =>
    constructor
    · exact fun found => nomatch found
    · exact fun selected => nomatch selected
  | cons fields rest ih =>
    -- What comes after a key that is passed over does not depend on what was reported of it.
    have passing (passed : fields.get? "kid" = some (.text id) →
          ∀ key algorithm, PublishedKeys.inspect fields configured ≠ .usable key algorithm) :
        Selected configured id rest key algorithm ↔
          Selected configured id (fields :: rest) key algorithm := by
      constructor
      · exact .later fun named => (inspect_passed fields configured).mp (passed named)
      · intro selected
        cases selected with
        | here named shaped signing readable used =>
          exact absurd ((inspect_usable ..).mpr ⟨_, shaped, signing, readable, used⟩) (passed named _ _)
        | later _ remaining => exact remaining
    unfold PublishedKeys.findKey
    by_cases named : PublishedKeys.isNamed id fields = true
    · rw [if_pos named]
      cases inspected : PublishedKeys.inspect fields configured with
      | usable found own =>
        obtain ⟨jwk, shaped, signing, readable, used⟩ := (inspect_usable ..).mp inspected
        constructor
        · intro same
          obtain ⟨rfl, rfl⟩ : found = key ∧ own = algorithm := by
            simpa [Flow.run, pure] using same
          exact .here ((isNamed_iff id fields).mp named) shaped signing readable used
        · intro selected
          cases selected with
          | here _ other_shaped other_signing other_readable other_used =>
            have other := (inspect_usable ..).mpr ⟨_, other_shaped, other_signing, other_readable, other_used⟩
            rw [inspected] at other
            cases other
            rfl
          | later passed _ =>
            exact absurd inspected
              ((inspect_passed fields configured).mpr (passed ((isNamed_iff id fields).mp named)) _ _)
      | unusable => exact (ih _).trans (passing fun _ _ _ same => by rw [inspected] at same; cases same)
      | unreadable => exact (ih _).trans (passing fun _ _ _ same => by rw [inspected] at same; cases same)
    · rw [if_neg named]
      exact (ih state).trans (passing fun same => absurd ((isNamed_iff id fields).mpr same) named)

/-- The header names a key, the key set is at hand, and a key of the name is found in it. The
clock is read after the search. -/
structure Chosen (keys : PublishedKeys) (token : String) (signal : Signal) (world : World σ) (state : σ)
    (key : Crypto.PublicKey) (algorithm : SigningAlgorithm) (now : Number) : Prop where
  found : ∃ header id candidates, SignedToken.protectedHeader? token = some header ∧
    header.get? "kid" = some (.text id) ∧ id ≠ "" ∧
    ((Keys.getKeys keys.cache keys.url signal).run world state).1 = .ok candidates ∧
    Selected keys.algorithm id candidates key algorithm ∧
    now = (world.reply .clock ((PublishedKeys.findKey keys.algorithm id candidates).run world
      ((Keys.getKeys keys.cache keys.url signal).run world state).2).2).1

theorem verifyUnder_accepts (keys : PublishedKeys) (id token : String) (candidates : List Fields)
    (world : World σ) (state : σ) (claims : Fields) :
    ((keys.verifyUnder id token candidates).run world state).1 = some claims ↔
      ∃ key algorithm, Selected keys.algorithm id candidates key algorithm ∧
        TokenOutcome.check token key algorithm keys.issuer (world.reply .clock
          ((PublishedKeys.findKey keys.algorithm id candidates).run world state).2).1 = .accepted claims := by
  have selects := findKey_selects keys.algorithm id candidates world state
  unfold PublishedKeys.verifyUnder
  rw [Flow.run_bind]
  cases found : ((PublishedKeys.findKey keys.algorithm id candidates).run world state).1 with
  | none =>
    constructor
    · exact fun same => nomatch same
    · rintro ⟨key, algorithm, selected, -⟩
      have same := (selects key algorithm).mpr selected
      rw [found] at same
      cases same
  | some pair =>
    obtain ⟨key, algorithm⟩ := pair
    refine (localKey_accepts ⟨key, algorithm, keys.issuer⟩ _ token world _ claims).trans ?_
    constructor
    · exact fun accepted => ⟨key, algorithm, (selects key algorithm).mp found, accepted⟩
    · rintro ⟨second, own, selected, accepted⟩
      have same := (selects second own).mpr selected
      rw [found] at same
      cases same
      exact accepted

theorem publishedKeys_accepts (keys : PublishedKeys) (token : String) (signal : Signal)
    (world : World σ) (state : σ) (claims : Fields) :
    ((keys.verify token signal).run world state).1 = some claims ↔
      ∃ key algorithm now, Chosen keys token signal world state key algorithm now ∧
        TokenOutcome.check token key algorithm keys.issuer now = .accepted claims := by
  constructor
  · intro accepted
    unfold PublishedKeys.verify at accepted
    split at accepted
    · cases accepted
    next header decoded =>
      split at accepted
      next id named =>
        split at accepted
        · cases accepted
        next nonempty =>
          rw [Flow.run_bind] at accepted
          split at accepted
          · rw [Flow.run_bind] at accepted
            cases accepted
          next candidates looked =>
            obtain ⟨key, algorithm, selected, believed⟩ := (verifyUnder_accepts ..).mp accepted
            exact ⟨key, algorithm, _,
              ⟨header, id, candidates, decoded, named, nonempty, looked, selected, rfl⟩, believed⟩
      · cases accepted
  · rintro ⟨key, algorithm, now,
      ⟨header, id, candidates, decoded, named, nonempty, looked, selected, rfl⟩, believed⟩
    unfold PublishedKeys.verify
    simp only [decoded, named, if_neg nonempty, Flow.run_bind, looked]
    exact (verifyUnder_accepts ..).mpr ⟨key, algorithm, selected, believed⟩

/-- A signed token is accepted as it is pinned and in no other way. Under a key at hand the
configured algorithm counts, under a published one that of the key itself. -/
theorem signed_tokens_pinned (token : String) (world : World σ) (state : σ) (claims : Fields) :
    (∀ (held : LocalKey) (method : String),
      (((held.verify method token).run world state).1 = some claims → ∃ parts,
        Acceptable token parts held.key held.algorithm held.issuer (world.reply .clock state).1 claims) ∧
      ∀ parts, Uncritical parts →
        Acceptable token parts held.key held.algorithm held.issuer (world.reply .clock state).1 claims →
        ((held.verify method token).run world state).1 = some claims) ∧
    (∀ (keys : PublishedKeys) (signal : Signal),
      (((keys.verify token signal).run world state).1 = some claims → ∃ key algorithm now parts,
        Chosen keys token signal world state key algorithm now ∧
        Acceptable token parts key algorithm keys.issuer now claims) ∧
      ∀ key algorithm now parts, Chosen keys token signal world state key algorithm now →
        Uncritical parts → Acceptable token parts key algorithm keys.issuer now claims →
        ((keys.verify token signal).run world state).1 = some claims) ∧
    ∀ moment : Int, moment.natAbs ≤ 8640000000000000 →
      TokenOutcome.seconds? (.finite moment) = some ⌊(moment : Rat) / 1000⌋ := by
  refine ⟨fun held method => ⟨fun accepted => ?_, fun parts uncritical acceptable => ?_⟩,
    fun keys signal => ⟨fun accepted => ?_, fun key algorithm now parts chosen uncritical acceptable => ?_⟩,
    fun _ near => seconds?_floor near⟩
  · exact check_sound ((localKey_accepts ..).mp accepted)
  · exact (localKey_accepts ..).mpr (check_complete acceptable uncritical)
  · obtain ⟨key, algorithm, now, chosen, believed⟩ := (publishedKeys_accepts ..).mp accepted
    obtain ⟨parts, acceptable⟩ := check_sound believed
    exact ⟨key, algorithm, now, parts, chosen, acceptable⟩
  · exact (publishedKeys_accepts ..).mpr
      ⟨key, algorithm, now, chosen, check_complete acceptable uncritical⟩

end TenantAccess.Proofs
