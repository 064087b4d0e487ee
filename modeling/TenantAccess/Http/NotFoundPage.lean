import TenantAccess.Stage.Basic
import TenantAccess.Text.Form
import TenantAccess.Text.Percent
import TenantAccess.Routing.Target

/-! The page for a request that left the service without an answer. It shows the path, with every
character escaped that could mean something else in an address or in the page. -/

namespace TenantAccess.NotFoundPage

/-- Characters that may stand in an address as they are. -/
def isPlain (c : Char) : Bool :=
  c == '!' || ('#' ≤ c && c ≤ ';') || c == '=' || ('?' ≤ c && c ≤ '_') || ('a' ≤ c && c ≤ 'z') ||
    c == '|' || c == '~'

def escapeOctet (octet : UInt8) : List Char :=
  ['%', Form.upperHex (octet.toNat / 16), Form.upperHex (octet.toNat % 16)]

/-- An escape that is there already is kept; a percent sign that begins none is escaped. -/
def escapePath : List Char → List Char
  | '%' :: high :: low :: rest =>
    if (Percent.octet? high low).isSome then '%' :: high :: low :: escapePath rest
    else escapeOctet 37 ++ escapePath (high :: low :: rest)
  | '%' :: rest => escapeOctet 37 ++ escapePath rest
  | c :: rest => (if isPlain c then [c] else (Percent.plain c).flatMap escapeOctet) ++ escapePath rest
  | [] => []

def escapeMarkup (c : Char) : List Char :=
  match c with
  | '"' => "&quot;".toList
  | '&' => "&amp;".toList
  | '\'' => "&#39;".toList
  | '<' => "&lt;".toList
  | '>' => "&gt;".toList
  | _ => [c]

/-- The path of a target; one without a path and one that cannot be read are told apart. -/
def resource (target : String) : String :=
  match Target.parse? target with
  | some parts => parts.path.getD "null"
  | none => "resource"

def message (method target : String) : String :=
  let shown := "Cannot ".toList ++ method.toList ++ ' ' :: escapePath (resource target).toList
  String.ofList (shown.flatMap escapeMarkup)

def text (method target : String) : String :=
  "<!DOCTYPE html>\n<html lang=\"en\">\n<head>\n<meta charset=\"utf-8\">\n<title>Error</title>\n" ++
    "</head>\n<body>\n<pre>" ++ message method target ++ "</pre>\n</body>\n</html>\n"

def answer (request : Request) : Answer :=
  ⟨404, .page (text request.method request.wholeTarget), none⟩

end TenantAccess.NotFoundPage
