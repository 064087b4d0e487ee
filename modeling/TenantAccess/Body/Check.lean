import TenantAccess.Body.Brotli
import TenantAccess.Body.Charset
import TenantAccess.Body.MediaType
import TenantAccess.Body.Wrapping
import TenantAccess.Json.Parser
import TenantAccess.Stage.Basic

/-! The check that a body can be read, made before anything else looks at a request. No handler uses
what a body says, but a body that claims a type that is read has to hold a list or a record. -/

namespace TenantAccess.Body

inductive Problem where
  | unknownCharset
  | unknownWrapping
  | tooLarge
  | brokenWrapping
  | malformed
  deriving DecidableEq, Repr

def Problem.message : Problem → String
  | .unknownCharset => "unsupported charset"
  | .unknownWrapping => "unsupported content encoding"
  | .tooLarge => "request entity too large"
  | .brokenWrapping => "unreadable content encoding"
  | .malformed => "malformed body"

def Problem.failure (problem : Problem) : Failure := .error "Error" problem.message

def limit : Nat := 1024 * 1024

def readType : String := "application/json"

/-- The octets of a body without its wrapping. -/
def unwrap (wrapping : String) (octets : List UInt8) : Except Problem (List UInt8) :=
  let opened (result : Option (List UInt8)) : Except Problem (List UInt8) :=
    match result with
    | some octets => .ok octets
    | none => .error .brokenWrapping
  if wrapping = "identity" then .ok octets
  else if wrapping = "gzip" then opened (Wrapping.openGzip? limit octets)
  else if wrapping = "deflate" then opened (Wrapping.openDeflate? limit octets)
  else if wrapping = "br" then opened (Brotli.open? limit octets)
  else .error .unknownWrapping

/-- A text with nothing in it stands for an empty record. -/
def isReadable (text : List Char) : Bool :=
  match text with
  | [] => true
  | _ => match Json.ofText? (String.ofList text) with
    | some (.list _) | some (.record _) => true
    | _ => false

def checkAs (type : MediaType) (wrapping : String) (octets : List UInt8) : Except Problem Unit :=
  match Charset.ofName? ((type.parameter "charset").getD "utf-8") with
  | none => .error .unknownCharset
  | some charset => match unwrap wrapping octets with
    | .error problem => .error problem
    | .ok octets =>
      if limit < octets.length then .error .tooLarge
      else if isReadable (charset.decodeUnmarked octets) then .ok ()
      else .error .malformed

/-- The body of a request. One that is announced is there, even when nothing is in it. -/
def announced (request : Request) (body : Option (List UInt8)) : Option (List UInt8) :=
  if (request.header? "transfer-encoding").isSome || (request.header? "content-length").isSome then
    some (body.getD [])
  else body

/-- A request without a body, or with one of a type that is not read, passes as it is. -/
def check (request : Request) (body : Option (List UInt8)) : Except Problem Unit :=
  match announced request body, (request.header? "content-type").bind MediaType.ofText? with
  | some octets, some type =>
    if type.name = readType then
      checkAs type (((request.nonemptyHeader? "content-encoding").getD "identity").map Char.toLower) octets
    else .ok ()
  | _, _ => .ok ()

end TenantAccess.Body
