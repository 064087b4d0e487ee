import Mathlib.Data.Bool.AllAny
import TenantAccess.Proofs.AuditTrails
import TenantAccess.Proofs.KeyKinds

/-! Keys that are taken from their text when the service starts, and what becomes of tokens under them. The text alone
decides whether a key is taken. Whether it suits the algorithm that it was named for shows when a token asks for that
algorithm: under a key that does not suit, such a token is not judged but ends in an error. -/

namespace TenantAccess.Proofs
open Rehearsal

inductive Matching : DigestSize → Crypto.CurveName → Prop where
  | p256 : Matching .bits256 .p256
  | p384 : Matching .bits384 .p384
  | p521 : Matching .bits512 .p521

/-- What an algorithm asks of a key: an RSA modulus of 2048 binary digits or more, or a point on its own curve. A key
that is bound to salted signatures serves no others, and only those that its rule lets pass. -/
inductive Suits : Crypto.PublicKey → SigningAlgorithm → Prop where
  | padded {key : Crypto.RsaKey} (digest : DigestSize) (long : 2048 ≤ key.size) :
      Suits (.rsa key) ⟨.rsaPkcs1, digest⟩
  | salted {key : Crypto.RsaKey} (digest : DigestSize) (long : 2048 ≤ key.size) : Suits (.rsa key) ⟨.rsaPss, digest⟩
  | bound {key : Crypto.RsaKey} {rule : Option Crypto.SaltRule} {digest : DigestSize} (long : 2048 ≤ key.size)
      (allowed : ∀ given, rule = some given →
        given.digest = some digest ∧ given.mask = some digest ∧ given.least ≤ digest.octets) :
      Suits (.salted key rule) ⟨.rsaPss, digest⟩
  | curve {name : Crypto.CurveName} {digest : DigestSize} (x y : Nat) (own : Matching digest name) :
      Suits (.curve name x y) ⟨.ecdsa, digest⟩

theorem matching_iff (digest : DigestSize) (name : Crypto.CurveName) :
    Matching digest name ↔ name = Crypto.PublicKey.curveOf digest := by
  constructor
  · rintro (_ | _ | _) <;> rfl
  · rintro rfl
    cases digest <;> constructor

theorem suits_iff (key : Crypto.PublicKey) (algorithm : SigningAlgorithm) :
    Suits key algorithm ↔ key.fits algorithm = true := by
  constructor
  · rintro (⟨_, long⟩ | ⟨_, long⟩ | ⟨long, allowed⟩ | ⟨x, y, own⟩)
    · exact decide_eq_true long
    · exact decide_eq_true long
    next key rule digest =>
      refine Bool.and_eq_true_iff.mpr ⟨decide_eq_true long, ?_⟩
      cases rule with
      | none => rfl
      | some given => simpa [Crypto.SaltRule.allows, and_assoc] using allowed given rfl
    · simpa [Crypto.PublicKey.fits] using (matching_iff ..).mp own
  · obtain ⟨scheme, digest⟩ := algorithm
    intro fits
    cases scheme with
    | rsaPkcs1 =>
      cases key with
      | rsa key => exact .padded digest (of_decide_eq_true fits)
      | _ => cases fits
    | rsaPss =>
      cases key with
      | rsa key => exact .salted digest (of_decide_eq_true fits)
      | salted key rule =>
        obtain ⟨long, allowed⟩ := Bool.and_eq_true_iff.mp fits
        refine .bound (of_decide_eq_true long) fun given same => ?_
        subst same
        simpa [Crypto.SaltRule.allows, and_assoc] using allowed
      | _ => cases fits
    | ecdsa =>
      cases key with
      | curve name x y => exact .curve x y ((matching_iff ..).mpr (eq_of_beq fits))
      | _ => cases fits

/-- The key neither suits the algorithm nor lies on a curve that none of the algorithms knows. Tokens under such a curve
are turned down as unsupported, before the key is looked at. -/
structure Unfit (key : Crypto.PublicKey) (algorithm : SigningAlgorithm) : Prop where
  unsuited : ¬ Suits key algorithm
  known : ¬ (algorithm.scheme = .ecdsa ∧ key = .strangeCurve)

theorem unfit_iff (key : Crypto.PublicKey) (algorithm : SigningAlgorithm) :
    Unfit key algorithm ↔ key.isUnsupported algorithm = false ∧ key.fits algorithm = false := by
  constructor
  · rintro ⟨unsuited, known⟩
    rw [suits_iff] at unsuited
    exact ⟨by simpa [Crypto.PublicKey.isUnsupported] using known, by simpa using unsuited⟩
  · rintro ⟨supported, unfit⟩
    exact ⟨by simp [suits_iff, unfit], by simpa [Crypto.PublicKey.isUnsupported] using supported⟩

def AsksFor (token : String) (algorithm : SigningAlgorithm) : Prop :=
  ∃ parts fields plain, Divided token parts ∧ parts.headerFields? = some fields ∧
    TokenHeader.ofFields fields = .ok ⟨algorithm.toText, plain⟩

theorem ofClaims_judges (claims : Fields) (issuer : Option String) (now : Number) :
    TokenOutcome.ofClaims claims issuer now ≠ .keyUnfit := by
  unfold TokenOutcome.ofClaims
  repeat' split
  all_goals nofun

theorem ofPayload_judges (token : SignedToken) (issuer : Option String) (now : Number) :
    TokenOutcome.ofPayload token issuer now ≠ .keyUnfit := by
  unfold TokenOutcome.ofPayload
  split
  · nofun
  · exact ofClaims_judges _ issuer now

theorem ofHeader_unfit (token : SignedToken) (header : TokenHeader) (key : Crypto.PublicKey)
    (algorithm : SigningAlgorithm) (issuer : Option String) (now : Number) :
    TokenOutcome.ofHeader token header key algorithm issuer now = .keyUnfit ↔
      header.algorithm = algorithm.toText ∧ Unfit key algorithm := by
  rw [unfit_iff]
  unfold TokenOutcome.ofHeader
  constructor
  · intro broken
    split at broken
    · cases broken
    next named =>
      split at broken
      · cases broken
      next supported =>
        split at broken
        next unfit =>
          exact ⟨Decidable.not_not.mp named, by simpa using supported, by simpa using unfit⟩
        · split at broken
          · cases broken
          · split at broken
            · cases broken
            · exact absurd broken (ofPayload_judges token issuer now)
  · rintro ⟨named, supported, unfit⟩
    simp [named, supported, unfit]

/-- The check of a token breaks off for one reason. -/
theorem check_unfit (token : String) (key : Crypto.PublicKey) (algorithm : SigningAlgorithm) (issuer : Option String)
    (now : Number) : TokenOutcome.check token key algorithm issuer now = .keyUnfit ↔
      AsksFor token algorithm ∧ Unfit key algorithm := by
  unfold TokenOutcome.check
  constructor
  · intro broken
    split at broken
    · cases broken
    next parts divided =>
      split at broken
      · cases broken
      next fields given =>
        split at broken
        · cases broken
        next header read =>
          obtain ⟨named, unfit⟩ := (ofHeader_unfit ..).mp broken
          exact ⟨⟨parts, fields, header.payloadIsPlain, (ofText?_divided ..).mp divided, given, named ▸ read⟩, unfit⟩
  · rintro ⟨⟨parts, fields, plain, divided, given, read⟩, unfit⟩
    simp only [(ofText?_divided ..).mpr divided, given, read]
    exact (ofHeader_unfit ..).mpr ⟨rfl, unfit⟩

def brokenMessage : String := "token validation error"

def BrokenOff (history : List Exchanged) : Prop :=
  ∃ entry ∈ Transcript.reports history, entry.message = brokenMessage

theorem outcomeEntry_broken (method : String) (outcome : TokenOutcome) :
    (outcomeEntry method outcome).message = brokenMessage ↔ outcome = .keyUnfit := by
  cases outcome <;> simp [outcomeEntry, validatedMessage, brokenMessage]

/-- Whether a verification under a key at hand breaks off is settled by the token, the key and the algorithm. -/
theorem localKey_broken {held : LocalKey} {method token : String} {history : List Exchanged} {claims : Option Fields}
    (runs : Runs (held.verify method token) history claims) :
    BrokenOff history ↔ AsksFor token held.algorithm ∧ Unfit held.key held.algorithm := by
  obtain ⟨now, rfl, -⟩ := localKey_runs runs
  have told : BrokenOff [⟨.clock, now⟩, ⟨.report (outcomeEntry method (held.check token now)), ()⟩] ↔
      held.check token now = .keyUnfit := by
    simp [BrokenOff, Transcript.reports, outcomeEntry_broken]
  exact told.trans (check_unfit ..)

theorem sign_alphabet (sextet : Nat) : Base64.sign sextet ∈ Base64.alphabet := by
  have inside : sextet % 64 < Base64.alphabet.length := Nat.mod_lt _ (by decide)
  rw [Base64.sign, List.getD_eq_getElem?_getD, List.getElem?_eq_getElem inside, Option.getD_some]
  exact List.getElem_mem inside

theorem encode_alphabet (octets : List UInt8) : ∀ sign ∈ Base64.encode octets, sign ∈ Base64.alphabet := by
  fun_induction Base64.encode octets with
  | case1 a b c rest ih => simpa [sign_alphabet] using ih
  | _ => simp [sign_alphabet]

/-- A token with nothing in it but the name of the algorithm that it asks for. -/
def blankHeader (algorithm : SigningAlgorithm) : List Char :=
  Base64.encode (Utf8.encode ("\x7b\"alg\":\"" ++ algorithm.toText ++ "\"\x7d"))

def blankToken (algorithm : SigningAlgorithm) : String := String.ofList (blankHeader algorithm ++ ['.', '.'])

theorem blankHeader_read (algorithm : SigningAlgorithm) :
    SignedToken.headerFields? ⟨blankHeader algorithm, [], []⟩ = some [("alg", .text algorithm.toText)] := by
  obtain ⟨scheme, digest⟩ := algorithm
  cases scheme <;> cases digest <;> decide +kernel

theorem blankToken_asks (algorithm : SigningAlgorithm) : AsksFor (blankToken algorithm) algorithm := by
  have dotless : '.' ∉ blankHeader algorithm := fun inside => absurd (encode_alphabet _ _ inside) (by decide)
  refine ⟨⟨blankHeader algorithm, [], []⟩, _, false, ⟨?_, dotless, List.not_mem_nil, List.not_mem_nil⟩,
    blankHeader_read algorithm, ?_⟩
  · rw [blankToken, String.toList_ofList]
    rfl
  · exact ofFields_uncritical rfl (by simp [Fields.get?])

/-- The algorithms on curves serve no RSA key, and the others no key on a curve. -/
theorem unsuited_somewhere (key : Crypto.PublicKey) : ∃ algorithm, ¬ Suits key algorithm := by
  cases key with
  | rsa | salted => exact ⟨⟨.ecdsa, .bits256⟩, nofun⟩
  | _ => exact ⟨⟨.rsaPkcs1, .bits256⟩, nofun⟩

def marked (body : List Char) : String :=
  String.ofList (Crypto.PublicKey.beginMarker.toList ++ (body ++ Crypto.PublicKey.endMarker.toList))

theorem withoutMarkers_plain {body : List Char} (plain : ∀ sign ∈ body, sign ≠ '-') (rest : List Char) :
    Crypto.PublicKey.withoutMarkers (body ++ rest) = body ++ Crypto.PublicKey.withoutMarkers rest := by
  induction body with
  | nil => rfl
  | cons sign body ih =>
    obtain ⟨other, plain⟩ := List.forall_mem_cons.mp plain
    -- Both markers begin with a hyphen, so neither begins at a sign of the body.
    have inside (marker : List Char) : ('-' :: marker).isPrefixOf (sign :: (body ++ rest)) = false := by
      simp [List.isPrefixOf, other.symm]
    rw [List.cons_append, Crypto.PublicKey.withoutMarkers, if_neg, if_neg, ih plain, List.cons_append]
    all_goals exact Bool.eq_false_iff.mp (inside _)

theorem withoutMarkers_begin (rest : List Char) :
    Crypto.PublicKey.withoutMarkers (Crypto.PublicKey.beginMarker.toList ++ rest) =
      Crypto.PublicKey.withoutMarkers rest := by
  obtain ⟨tail, whole⟩ : ∃ tail, Crypto.PublicKey.beginMarker.toList = '-' :: tail := ⟨_, rfl⟩
  have long : Crypto.PublicKey.beginMarker.length - 1 = tail.length := by
    rw [← String.length_toList, whole, List.length_cons, Nat.add_sub_cancel]
  have stands : Crypto.PublicKey.beginMarker.toList.isPrefixOf ('-' :: (tail ++ rest)) = true := by
    rw [whole, ← List.cons_append]
    exact List.isPrefixOf_iff_prefix.mpr (List.prefix_append ..)
  rw [whole, List.cons_append, Crypto.PublicKey.withoutMarkers, if_pos stands, long, List.drop_left]

/-- What stands between the markers is read as it stands, however it is broken into lines. -/
theorem ofPem?_marked {body : List Char} (plain : ∀ sign ∈ body, sign ≠ '-') :
    Crypto.PublicKey.ofPem? (marked body) =
      Crypto.PublicKey.ofSpki? (Base64.decode (body.filter (!Text.isBlank ·))) := by
  have ends : Crypto.PublicKey.withoutMarkers Crypto.PublicKey.endMarker.toList = [] := by decide +kernel
  rw [Crypto.PublicKey.ofPem?, marked, String.toList_ofList, if_pos, withoutMarkers_begin, withoutMarkers_plain plain,
    ends, List.append_nil]
  exact List.isPrefixOf_iff_prefix.mpr (List.prefix_append ..)

theorem ofPem?_encoded (octets : List UInt8) :
    Crypto.PublicKey.ofPem? (marked (Base64.encode octets)) =
      Crypto.PublicKey.ofSpki? (Base64.decode (Base64.encode octets)) := by
  have plain : ∀ sign ∈ Base64.alphabet, sign ≠ '-' ∧ (!Text.isBlank sign) = true :=
    List.all_iff_forall_prop.mp (by decide +kernel)
  have written (sign : Char) (inside : sign ∈ Base64.encode octets) := plain sign (encode_alphabet octets sign inside)
  rw [ofPem?_marked fun sign inside => (written sign inside).1,
    List.filter_eq_self.mpr fun sign inside => (written sign inside).2]

/-- What is taken from a text for an algorithm is taken for every algorithm, and there is always one that it does not
suit. A verification under it breaks off exactly when the key is unfit and the token asks for the algorithm, so none
ever does exactly when the key is not unfit. -/
structure TakenKey (pem : String) (held : LocalKey) : Prop where
  anyway : ∀ algorithm issuer, LocalKey.ofPem? pem algorithm issuer = some ⟨held.key, algorithm, issuer⟩
  unsuited : ∃ algorithm, ¬ Suits held.key algorithm
  breaks : ∀ method token history claims, Runs (held.verify method token) history claims →
    (BrokenOff history ↔ AsksFor token held.algorithm ∧ Unfit held.key held.algorithm)
  steady : (∀ method token history claims, Runs (held.verify method token) history claims → ¬ BrokenOff history) ↔
    ¬ Unfit held.key held.algorithm

theorem taken_keys_break_iff_unfit {pem : String} {algorithm : SigningAlgorithm} {issuer : Option String}
    {held : LocalKey} (taken : LocalKey.ofPem? pem algorithm issuer = some held) : TakenKey pem held := by
  obtain ⟨key, read, rfl⟩ := Option.map_eq_some_iff.mp taken
  refine ⟨fun other named => Option.map_eq_some_iff.mpr ⟨key, read, rfl⟩, unsuited_somewhere key,
    fun method token history claims runs => localKey_broken runs, fun steady unfit => ?_,
    fun fit method token history claims runs broken => fit ((localKey_broken runs).mp broken).2⟩
  -- A key that never breaks off is put to the test by the token that only names the algorithm.
  have runs := trace_runs (LocalKey.verify ⟨key, algorithm, issuer⟩ Verifier.localMethod (blankToken algorithm))
    still.world (.begin 0 [])
  exact steady _ _ _ _ runs ((localKey_broken runs).mpr ⟨blankToken_asks algorithm, unfit⟩)

def sharedSpki : List UInt8 :=
  [0x30, 0x82, 1, 0x20, 0x30, 0x0D, 6, 9, 0x2A, 0x86, 0x48, 0x86, 0xF7, 0x0D, 1, 1, 1, 5, 0, 3, 0x82, 1, 0x0D, 0, 0x30,
    0x82, 1, 8, 2, 0x82, 1, 1, 0] ++ Crypto.octetsOfNat 256 sharedModulus ++ [2, 1, 3]

def sharedPem : String := marked (Base64.encode sharedSpki)

theorem sharedPem_read : Crypto.PublicKey.ofPem? sharedPem = some (.rsa ⟨sharedModulus, 3⟩) := by
  rw [sharedPem, ofPem?_encoded]
  decide +kernel

theorem sharedPem_taken (algorithm : SigningAlgorithm) (issuer : Option String) :
    LocalKey.ofPem? sharedPem algorithm issuer = some ⟨.rsa ⟨sharedModulus, 3⟩, algorithm, issuer⟩ :=
  Option.map_eq_some_iff.mpr ⟨_, sharedPem_read, rfl⟩

theorem taken_keys_break_iff_unfit_shared :
    LocalKey.ofPem? sharedPem rs256 none = some ⟨.rsa ⟨sharedModulus, 3⟩, rs256, none⟩ ∧
    TakenKey sharedPem ⟨.rsa ⟨sharedModulus, 3⟩, rs256, none⟩ :=
  ⟨sharedPem_taken rs256 none, taken_keys_break_iff_unfit (sharedPem_taken rs256 none)⟩

def es256 : SigningAlgorithm := ⟨.ecdsa, .bits256⟩

/-- An RSA key is taken for signatures on curves, and the first token that asks for these ends in an error. -/
theorem rsa_key_taken_for_curves :
    LocalKey.ofPem? sharedPem es256 none = some ⟨.rsa ⟨sharedModulus, 3⟩, es256, none⟩ ∧
    ¬ Suits (.rsa ⟨sharedModulus, 3⟩) es256 ∧
    BrokenOff ((LocalKey.verify ⟨.rsa ⟨sharedModulus, 3⟩, es256, none⟩ Verifier.localMethod (blankToken es256)).trace
      still.world (.begin 0 [])) := by
  have unsuited : ¬ Suits (.rsa ⟨sharedModulus, 3⟩) es256 := nofun
  refine ⟨sharedPem_taken es256 none, unsuited, ?_⟩
  exact (localKey_broken (trace_runs _ _ _)).mpr ⟨blankToken_asks es256, unsuited, nofun⟩

end TenantAccess.Proofs
