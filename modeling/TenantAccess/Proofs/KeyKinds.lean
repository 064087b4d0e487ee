import TenantAccess.Proofs.KeySelection

/-! Published keys of one name and of several kinds. The kind of a key is not looked at before a token
is checked under it, so a key of another kind that can be read stands in the way of those behind it. -/

namespace TenantAccess.Proofs

def kindOf (algorithm : SigningAlgorithm) : Keys.KeyKind :=
  match algorithm.scheme with
  | .rsaPkcs1 | .rsaPss => .rsa
  | .ecdsa => .curve

def kindName (algorithm : SigningAlgorithm) : String :=
  match algorithm.scheme with
  | .rsaPkcs1 | .rsaPss => "RSA"
  | .ecdsa => "EC"

theorem fits_kind {jwk : Keys.Jwk} {key : Crypto.PublicKey} {algorithm : SigningAlgorithm}
    (imported : jwk.publicKey? = some key) (fits : key.fits algorithm = true) : jwk.kind = kindOf algorithm := by
  obtain ⟨scheme, digest⟩ := algorithm
  unfold Keys.Jwk.publicKey? at imported
  split at imported
  next kind =>
    simp only [Option.bind_eq_bind, Option.bind_eq_some_iff] at imported
    obtain ⟨_, _, _, _, ⟨⟩⟩ := imported
    cases scheme <;> first | exact kind | cases fits
  next kind =>
    simp only [Option.bind_eq_bind, Option.bind_eq_some_iff] at imported
    obtain ⟨_, _, _, _, _, _, built⟩ := imported
    split at built
    · cases built
      cases scheme <;> first | exact kind | cases fits
    · cases built
  next kind =>
    simp only [Option.bind_eq_bind, Option.bind_eq_some_iff] at imported
    obtain ⟨_, _, _, _, built⟩ := imported
    split at built
    · cases built
      cases scheme <;> cases fits
    · cases built

theorem ofFields?_kind {fields : Fields} {jwk : Keys.Jwk} (read : Keys.Jwk.ofFields? fields = some jwk) :
    ∃ value, fields.get? "kty" = some value ∧ Keys.Jwk.kindOf? value = some jwk.kind := by
  simp only [Keys.Jwk.ofFields?, Option.bind_eq_bind, Option.bind_eq_some_iff] at read
  obtain ⟨kind, ⟨kty, given, kinded⟩, id, -, algorithm, -, purpose, -, modulus, -, exponent, -, curve, -, x, -, y, -,
    built⟩ := read
  split at built
  · cases built
  · cases built
    exact ⟨kty, given, kinded⟩

theorem kindOf?_named {value : Json} {algorithm : SigningAlgorithm}
    (read : Keys.Jwk.kindOf? value = some (kindOf algorithm)) : value = .text (kindName algorithm) := by
  obtain ⟨scheme, digest⟩ := algorithm
  unfold Keys.Jwk.kindOf? at read
  split at read <;> cases scheme <;> cases read <;> rfl

theorem Usable.kind {configured algorithm own : SigningAlgorithm} {id : String} {fields : Fields}
    {key : Crypto.PublicKey} (usable : Usable configured id fields key algorithm) (fits : key.fits own = true) :
    fields.get? "kty" = some (.text (kindName own)) := by
  obtain ⟨jwk, read, imported⟩ := usable.imported
  obtain ⟨value, given, kinded⟩ := ofFields?_kind read
  rw [fits_kind imported fits] at kinded
  rw [given, kindOf?_named kinded]

theorem protectedHeader?_parts {token : String} {parts : SignedToken}
    (divided : SignedToken.ofText? token = some parts) : SignedToken.protectedHeader? token =
      if parts.header = [] then none else (SignedToken.decodePart? parts.header).bind Json.record? := by
  unfold SignedToken.ofText? at divided
  split at divided
  next header payload signature split =>
    cases divided
    simp only [SignedToken.protectedHeader?, split, List.length_cons, List.length_nil, Nat.zero_add, Nat.reduceAdd,
      decide_true, Bool.true_or, ↓reduceIte]
    cases header with
    | nil => rfl
    | cons sign rest => rfl
  · cases divided

theorem protectedHeader?_fields {token : String} {parts : SignedToken} {header : Fields}
    (divided : SignedToken.ofText? token = some parts)
    (decoded : SignedToken.protectedHeader? token = some header) : parts.headerFields? = some header := by
  rw [protectedHeader?_parts divided] at decoded
  split at decoded
  · cases decoded
  next written =>
    obtain ⟨value, part, record⟩ := Option.bind_eq_some_iff.mp decoded
    simp [SignedToken.headerFields?, written, part, record]

/-- A token is believed only under the algorithm that its header names, and under a key that fits it. -/
theorem check_named {token : String} {header : Fields} {key : Crypto.PublicKey} {algorithm own : SigningAlgorithm}
    {issuer : Option String} {now : Number} {claims : Fields}
    (decoded : SignedToken.protectedHeader? token = some header)
    (signed : header.get? "alg" = some (.text own.toText))
    (accepted : TokenOutcome.check token key algorithm issuer now = .accepted claims) : key.fits own = true := by
  obtain ⟨parts, acceptable⟩ := check_sound accepted
  obtain ⟨read, given, pinned⟩ := acceptable.pinned
  have part := protectedHeader?_fields ((ofText?_divided token parts).mpr acceptable.divided) decoded
  obtain rfl : header = read := Option.some.inj (part.symm.trans given)
  have same : own.toText = algorithm.toText := by simpa [signed] using pinned
  have found := ofText?_toText own
  rw [same, ofText?_toText] at found
  rw [← Option.some.inj found]
  exact acceptable.fits

section
variable {keys : PublishedKeys} {token id : String} {header : Fields} {own : SigningAlgorithm}

/-- No key of the name is of the kind that the token's algorithm asks for. -/
def Foreign (id : String) (own : SigningAlgorithm) (published : List Json) : Prop :=
  ∀ fields, .record fields ∈ published → Fields.get? fields "kid" = some (.text id) →
    Fields.get? fields "kty" ≠ some (.text (kindName own))

variable (keys) in
theorem foreign_verdict {published : List Json} (decoded : SignedToken.protectedHeader? token = some header)
    (signed : header.get? "alg" = some (.text own.toText)) (foreign : Foreign id own published) (now : Number) :
    verdict keys id token now published = none := by
  unfold verdict
  cases found : chosen? keys.algorithm id published with
  | none => rfl
  | some pair =>
    obtain ⟨key, algorithm⟩ := pair
    obtain ⟨member, listed, held⟩ := List.exists_of_findSome?_eq_some found
    obtain ⟨fields, read, usable⟩ := Option.bind_eq_some_iff.mp held
    obtain rfl := record?_read read
    have usable := (usable?_some ..).mp usable
    change claimsOf (TokenOutcome.check token key algorithm keys.issuer now) = none
    cases outcome : TokenOutcome.check token key algorithm keys.issuer now with
    | accepted claims =>
      have fits := check_named decoded signed outcome
      exact absurd (usable.kind fits) (foreign fields listed usable.named)
    | expired | rejected | keyUnfit => rfl

theorem chosen?_append (configured : SigningAlgorithm) (id : String) (before after : List Json) :
    chosen? configured id (before ++ after) = (chosen? configured id before).or (chosen? configured id after) :=
  List.findSome?_append

/-- A list that holds a key decides whatever stands behind it. -/
theorem verdict_append {before : List Json} (held : chosen? keys.algorithm id before ≠ none) (after : List Json)
    (now : Number) :
    verdict keys id token now (before ++ after) = verdict keys id token now before := by
  obtain ⟨found, held⟩ := Option.ne_none_iff_exists'.mp held
  rw [verdict, verdict, chosen?_append, held, Option.some_or]

/-- A list that holds no key leaves it to what stands behind it. -/
theorem verdict_passed {before : List Json} (passed : chosen? keys.algorithm id before = none) (after : List Json)
    (now : Number) :
    verdict keys id token now (before ++ after) = verdict keys id token now after := by
  rw [verdict, verdict, chosen?_append, passed, Option.none_or]

end

/-- Of the published keys of the name all but one are of another kind than the token's algorithm asks for. Then a
verification comes to what it comes to under the one alone, unless a key that can be used stands before it: under that
one the token stands for nobody. Keys behind it never matter. -/
theorem fitting_key_decides_unless_behind (keys : PublishedKeys) (token id : String) (header : Fields)
    (own : SigningAlgorithm) (named : Names token id header) (signed : header.get? "alg" = some (.text own.toText))
    (before : List Json) (fields : Fields) (after : List Json) (foreign : Foreign id own (before ++ after))
    (now : Number) :
    ∃ claims, Judged keys token [.record fields] now claims ∧
      ((∀ member ∈ before, Unusable id member) →
        Judged keys token (before ++ .record fields :: after) now claims) ∧
      ((∃ member ∈ before, ¬ Unusable id member) →
        Judged keys token (before ++ .record fields :: after) now none) := by
  have early : Foreign id own before := fun other inside => foreign other (List.mem_append_left _ inside)
  have late : Foreign id own after := fun other inside => foreign other (List.mem_append_right _ inside)
  refine ⟨_, verdict_judges keys named [.record fields] now, fun passed => ?_, fun ⟨member, inside, usable⟩ => ?_⟩
  · have same : verdict keys id token now (before ++ .record fields :: after) =
        verdict keys id token now [.record fields] := by
      rw [verdict_passed (chosen?_none.mpr passed), ← List.singleton_append]
      by_cases alone : chosen? keys.algorithm id [.record fields] = none
      · rw [verdict_passed alone, foreign_verdict keys named.1 signed late now, verdict, alone, Option.bind_none]
      · exact verdict_append alone after now
    rw [← same]
    exact verdict_judges keys named _ now
  · have found : chosen? keys.algorithm id before ≠ none :=
      fun nothing => usable (chosen?_none.mp nothing member inside)
    rw [← foreign_verdict keys named.1 signed early now, ← verdict_append found (.record fields :: after)]
    exact verdict_judges keys named _ now

/-- The signs that a token and a published key are written in, where they are not the plain ones. -/
def urlSign : Char → Char
  | '+' => '-'
  | '/' => '_'
  | sign => sign

/-- A number of two hundred and fifty-six octets as it is written. -/
def written (n : Nat) : List Char := (Base64.encode (Crypto.octetsOfNat 256 n)).map urlSign

def sharedModulus : Nat :=
  0xb39aebc7c17d3cd199fc302059fce08456d0525dfb60a4ffc1b3de9e1815d098d82814a72589768d665ad05dd40f9b8f672f9ea967b733dbb76a8c682c44e5b4aac0b198e5e1e2146ff67b7edd3e079d58f40bf94c56ae5978aec103484bdd86aa52dd7872c38ed2b15f4a8fd4252df942e78a14c8bacb9f18df4a7c7fc59a798c801d741f03b9941a9b08edae2dc2fe9e6ed522d83c97641fba97e8a6fbd98b83f8de3f4081e0d6075a2c5fd34d8ce04093b883f8a5f41b28f4e83c9b843d83354d049f1fe4427c63e84727d43c665c969077a1b0d7d09ef26aee457d75c3978d21882ad7e83e51c7cadefaa320ed699c007ef00ec897562d1dabe9bcea1c51

def sharedSignature : Nat :=
  0xa5249b28c62c06a381945952e8d6b7455a6715b08ddfe31f95e105fa0b3e3fda96fde8e295925c40e98e5b7d59362beb3232af44930c43c45c335bb678842c725c2e621b144623dad4550f6607627ec16354307f4c099ed96a89a801ed273a2078d79afca6c8e1297968796f1111edf42544577f2fe853a66e90f83e5de581e22d11869a5da923c3a6bc009511f5f419030c49a2bdbf51bb54ee40f43d874876a36749b5301ba5518ac004384c651a36f89064e0677fc2eb5315dbabebdf88072967686886e811814d62e1e456388c12cf8b83aebd4a8ef235e10983a223f5ab5a4f1a6b7791da6a9f75f2bfd6c525dddcf5a0e361924093cf6f91761dcc0b91

def rs256 : SigningAlgorithm := ⟨.rsaPkcs1, .bits256⟩

/-- The token asks for RS256 and the key named k, and claims nothing. -/
def sharedParts : SignedToken :=
  ⟨"eyJhbGciOiJSUzI1NiIsImtpZCI6ImsifQ".toList, "e30".toList, written sharedSignature⟩

def sharedToken : String :=
  String.ofList (sharedParts.header ++ '.' :: (sharedParts.payload ++ '.' :: sharedParts.signature))

def sharedHeader : Fields := [("alg", .text "RS256"), ("kid", .text "k")]

def rsaKey : Fields :=
  [("kty", .text "RSA"), ("kid", .text "k"), ("n", .text (String.ofList (written sharedModulus))), ("e", .text "Aw")]

def twistedKey : Fields :=
  [("kty", .text "OKP"), ("kid", .text "k"), ("crv", .text "Ed25519"),
    ("x", .text "11qYAYKxCrfVS_7TyWQHOg7hcvPapiMlrwIaaPcHURo")]

theorem sharedToken_divided : Divided sharedToken sharedParts := by
  refine ⟨?_, by decide, by decide, by decide +kernel⟩
  rw [sharedToken, String.toList_ofList]

theorem sharedHeader_part : SignedToken.decodePart? sharedParts.header = some (.record sharedHeader) := by
  decide +kernel

theorem sharedToken_names : Names sharedToken "k" sharedHeader := by
  refine ⟨?_, by decide, by decide⟩
  rw [protectedHeader?_parts ((ofText?_divided ..).mpr sharedToken_divided), sharedHeader_part]
  rfl

theorem twistedKey_foreign : Foreign "k" rs256 [.record twistedKey] := by
  intro fields inside _ kty
  rw [Json.record.inj (List.mem_singleton.mp inside)] at kty
  exact absurd kty (by decide)

/-- Of an RSA key and a twisted one of the same name only the first is of the kind that the token asks for. -/
theorem fitting_key_decides_unless_behind_twisted : Names sharedToken "k" sharedHeader ∧
    sharedHeader.get? "alg" = some (.text rs256.toText) ∧ Foreign "k" rs256 ([] ++ [.record twistedKey]) ∧
    ∃ claims, Judged fleetingKeys sharedToken [.record rsaKey] (.ofInt 0) claims ∧
      ((∀ member ∈ [], Unusable "k" member) →
        Judged fleetingKeys sharedToken ([] ++ .record rsaKey :: [.record twistedKey]) (.ofInt 0) claims) ∧
      ((∃ member ∈ [], ¬ Unusable "k" member) →
        Judged fleetingKeys sharedToken ([] ++ .record rsaKey :: [.record twistedKey]) (.ofInt 0) none) :=
  have named : sharedHeader.get? "alg" = some (.text rs256.toText) := by decide
  ⟨sharedToken_names, named, twistedKey_foreign, fitting_key_decides_unless_behind fleetingKeys sharedToken "k"
    sharedHeader rs256 sharedToken_names named [] rsaKey [.record twistedKey] twistedKey_foreign (.ofInt 0)⟩

theorem sharedModulus_read : Keys.Jwk.number (String.ofList (written sharedModulus)) = sharedModulus := by
  rw [Keys.Jwk.number, String.toList_ofList]
  decide +kernel

theorem rsaKey_usable : Usable rs256 "k" rsaKey (.rsa ⟨sharedModulus, 3⟩) rs256 := by
  have read : Keys.Jwk.ofFields? rsaKey = some ⟨.rsa, "k", none, none, some (String.ofList (written sharedModulus)),
      some "Aw", none, none, none⟩ := by
    rfl
  have exponent : Keys.Jwk.number "Aw" = 3 := by decide +kernel
  refine ⟨by rfl, (shaped_iff _).mpr ⟨_, read⟩, nofun, ⟨_, read, ?_⟩, nofun, fun _ => rfl⟩
  simp only [Keys.Jwk.publicKey?, Option.bind_eq_bind, Option.bind_some, sharedModulus_read, exponent]

theorem twistedKey_usable : Usable rs256 "k" twistedKey .other rs256 := by
  rw [← usable?_some]
  decide +kernel

theorem sharedToken_accepted (now : Number) :
    TokenOutcome.check sharedToken (.rsa ⟨sharedModulus, 3⟩) rs256 none now = .accepted [] := by
  have header : sharedParts.headerFields? = some sharedHeader :=
    protectedHeader?_fields ((ofText?_divided ..).mpr sharedToken_divided) sharedToken_names.1
  have acceptable : Acceptable sharedToken sharedParts (.rsa ⟨sharedModulus, 3⟩) rs256 none now [] := {
    divided := sharedToken_divided
    asymmetric := by decide
    pinned := ⟨_, header, by decide⟩
    fits := by decide +kernel
    signed := by decide +kernel
    payload := by decide +kernel
    issued := nofun
    dated := nofun
    started := nofun
    unexpired := nofun }
  refine check_complete acceptable fun read given => ?_
  rw [header] at given
  cases given
  rfl

theorem Judged.unique {keys : PublishedKeys} {token : String} {published : List Json} {moment : Rat}
    {first second : Option Fields} (one : Judged keys token published (.finite moment) first)
    (other : Judged keys token published (.finite moment) second) : first = second := by
  let holding : Shared :=
    ⟨.finite moment, some ⟨keys.url, published.filterMap Json.record?, .finite moment, .infinite false⟩⟩
  have offers : Offers holding keys.url (published.filterMap Json.record?) := ⟨_, _, rfl, rfl⟩
  have same := (one.held stillReplies .never holding rfl offers).symm.trans
    (other.held stillReplies .never holding rfl offers)
  simpa using same

/-- Behind the twisted key the one that fits is not reached: nothing is what the token comes to both under it alone and
under the two. -/
theorem twisted_key_shadows : Names sharedToken "k" sharedHeader ∧
    Usable fleetingKeys.algorithm "k" rsaKey (.rsa ⟨sharedModulus, 3⟩) rs256 ∧
    Crypto.PublicKey.fits (.rsa ⟨sharedModulus, 3⟩) rs256 = true ∧ Foreign "k" rs256 [.record twistedKey] ∧
    ¬ ∃ claims, Judged fleetingKeys sharedToken [.record rsaKey] (.finite 0) claims ∧
      Judged fleetingKeys sharedToken [.record twistedKey, .record rsaKey] (.finite 0) claims := by
  have fits : Crypto.PublicKey.fits (.rsa ⟨sharedModulus, 3⟩) rs256 = true := by decide +kernel
  have none_before : ∀ member ∈ [], Unusable "k" member := nofun
  have alone : verdict fleetingKeys "k" sharedToken (.finite 0) [.record rsaKey] = some [] := by
    have chosen : chosen? fleetingKeys.algorithm "k" [.record rsaKey] = some (.rsa ⟨sharedModulus, 3⟩, rs256) :=
      chosen?_first none_before rsaKey_usable
    rw [verdict, chosen, Option.bind_some]
    exact congrArg claimsOf (sharedToken_accepted _)
  have behind : verdict fleetingKeys "k" sharedToken (.finite 0) [.record twistedKey, .record rsaKey] = none := by
    have held : chosen? fleetingKeys.algorithm "k" [.record twistedKey] ≠ none := by
      intro nothing
      have chosen : chosen? fleetingKeys.algorithm "k" [.record twistedKey] = some (.other, rs256) :=
        chosen?_first none_before twistedKey_usable
      cases nothing.symm.trans chosen
    rw [← List.singleton_append, verdict_append held]
    exact foreign_verdict _ sharedToken_names.1 rfl twistedKey_foreign _
  refine ⟨sharedToken_names, rsaKey_usable, fits, twistedKey_foreign, ?_⟩
  rintro ⟨claims, first, second⟩
  have accepted := first.unique (alone ▸ verdict_judges fleetingKeys sharedToken_names [.record rsaKey] (.finite 0))
  have refused := second.unique (behind ▸ verdict_judges fleetingKeys sharedToken_names _ (.finite 0))
  cases accepted.symm.trans refused

end TenantAccess.Proofs
