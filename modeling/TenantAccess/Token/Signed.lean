import TenantAccess.Crypto.PublicKey
import TenantAccess.Json.Parser
import TenantAccess.Text.Base64
import TenantAccess.Text.Utf8

/-! Signed tokens: three parts between dots, a header that pins the algorithm, a record of claims,
and a signature over the first two parts as they are written. -/

namespace TenantAccess

inductive TokenRejection where
  | malformed
  | unsupported
  | algorithmNotAllowed
  | signature
  | payload
  | claim
  deriving DecidableEq, Repr

def TokenRejection.code : TokenRejection → String
  | .malformed => "ERR_JWS_INVALID"
  | .unsupported => "ERR_JOSE_NOT_SUPPORTED"
  | .algorithmNotAllowed => "ERR_JOSE_ALG_NOT_ALLOWED"
  | .signature => "ERR_JWS_SIGNATURE_VERIFICATION_FAILED"
  | .payload => "ERR_JWT_INVALID"
  | .claim => "ERR_JWT_CLAIM_VALIDATION_FAILED"

/-- The parts of a token as they are written. -/
structure SignedToken where
  header : List Char
  payload : List Char
  signature : List Char
  deriving DecidableEq, Repr

namespace SignedToken

def ofText? (token : String) : Option SignedToken :=
  match token.toList.splitOn '.' with
  | [header, payload, signature] => some ⟨header, payload, signature⟩
  | _ => none

/-- What is signed: the first two parts and the dot between them. -/
def message (token : SignedToken) : List UInt8 :=
  Utf8.encode (String.ofList (token.header ++ '.' :: token.payload))

def decodePart? (part : List Char) : Option Json :=
  Json.ofText? (Utf8.decodeUnmarked (Base64.decode part))

/-- An empty header names nothing, and neither does one that is no record. -/
def headerFields? (token : SignedToken) : Option Fields :=
  if token.header.isEmpty then some []
  else (decodePart? token.header).map fun header => header.record?.getD []

/-- The header that names a key; here it must be a record, and a token of five parts has one too. -/
def protectedHeader? (token : String) : Option Fields :=
  let parts := token.toList.splitOn '.'
  if parts.length = 3 || parts.length = 5 then
    match parts with
    | [] :: _ => none
    | header :: _ => (decodePart? header).bind Json.record?
    | [] => none
  else none

end SignedToken

/-- What a header asks of the one who checks the token. -/
structure TokenHeader where
  algorithm : String
  payloadIsPlain : Bool
  deriving DecidableEq, Repr

namespace TokenHeader

/-- The one extension that may be listed as critical. -/
def plainPayload : String := "b64"

def criticalNames? : Json → Option (List String)
  | .list items => items.mapM Json.text?
  | _ => none

/-- Every listed name must be known and present. -/
def checkNames (fields : Fields) : List String → Except TokenRejection Unit
  | [] => .ok ()
  | name :: rest =>
    if name ≠ plainPayload then .error .unsupported
    else if (fields.get? plainPayload).isNone then .error .malformed
    else checkNames fields rest

/-- Whether the payload is critically announced to be plain text. -/
def readCritical (fields : Fields) : Except TokenRejection Bool :=
  match fields.get? "crit" with
  | none => .ok false
  | some critical => match criticalNames? critical with
    | none => .error .malformed
    | some names =>
      if names.isEmpty || names.any (·.isEmpty) then .error .malformed
      else match checkNames fields names with
        | .error rejection => .error rejection
        | .ok () => match fields.get? plainPayload with
          | some (.boolean encoded) => .ok (!encoded)
          | _ => .error .malformed

def ofFields (fields : Fields) : Except TokenRejection TokenHeader :=
  match readCritical fields with
  | .error rejection => .error rejection
  | .ok payloadIsPlain => match fields.get? "alg" with
    | some (.text algorithm) =>
      if algorithm = "" then .error .malformed else .ok ⟨algorithm, payloadIsPlain⟩
    | _ => .error .malformed

end TokenHeader
end TenantAccess
