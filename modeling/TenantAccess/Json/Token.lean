import TenantAccess.Json.Basic
import TenantAccess.Number.Decimal
import TenantAccess.Text.Utf16

/-! The tokens of the interchange format, scanned in one pass over the characters. A text may hold
any escape, and two escapes that write one character in halves are put together. -/

namespace TenantAccess.Json

inductive Token where
  | listOpen
  | listClose
  | recordOpen
  | recordClose
  | comma
  | colon
  | scalar (value : Json)

namespace Token

/-- What the scanner has read of the token it is in. Characters are kept latest first; a text is
kept as code points because an escape may write half a character. -/
inductive Reading where
  | between
  | word (read : List Char)
  | text (read : List Nat)
  | escape (read : List Nat)
  | codePoint (read : List Nat) (digits : List Char)

def isSpace (c : Char) : Bool := c == ' ' || c == '\t' || c == '\n' || c == '\r'

def isWordCharacter (c : Char) : Bool :=
  c.isAlphanum || c == '-' || c == '+' || c == '.'

def ofWord? (word : List Char) : Option Token :=
  if word = "null".toList then some (.scalar .null)
  else if word = "true".toList then some (.scalar (.boolean true))
  else if word = "false".toList then some (.scalar (.boolean false))
  else (Number.ofStrict? word).map fun n => .scalar (.number n)

def ofText (read : List Nat) : Token :=
  .scalar (.text (String.ofList (Utf16.ofUnits read.reverse)))

def plainEscape? (c : Char) : Option Nat :=
  match c with
  | '"' | '\\' | '/' => some c.toNat
  | 'b' => some 8
  | 'f' => some 12
  | 'n' => some 10
  | 'r' => some 13
  | 't' => some 9
  | _ => none

/-- A character where no token is under way. -/
def start (tokens : List Token) (c : Char) : Option (List Token × Reading) :=
  match c with
  | '[' => some (.listOpen :: tokens, .between)
  | ']' => some (.listClose :: tokens, .between)
  | '\x7b' => some (.recordOpen :: tokens, .between)
  | '\x7d' => some (.recordClose :: tokens, .between)
  | ',' => some (.comma :: tokens, .between)
  | ':' => some (.colon :: tokens, .between)
  | '"' => some (tokens, .text [])
  | _ =>
    if isSpace c then some (tokens, .between)
    else if isWordCharacter c then some (tokens, .word [c])
    else none

def step (tokens : List Token) (reading : Reading) (c : Char) : Option (List Token × Reading) :=
  match reading with
  | .between => start tokens c
  | .word read =>
    if isWordCharacter c then some (tokens, .word (c :: read))
    else match ofWord? read.reverse with
      | some token => start (token :: tokens) c
      | none => none
  | .text read =>
    if c = '"' then some (ofText read :: tokens, .between)
    else if c = '\\' then some (tokens, .escape read)
    else if c.toNat < 0x20 then none
    else some (tokens, .text (c.toNat :: read))
  | .escape read =>
    if c = 'u' then some (tokens, .codePoint read [])
    else (plainEscape? c).map fun n => (tokens, .text (n :: read))
  | .codePoint read digits =>
    if 16 ≤ Number.radixDigit c then none
    else if digits.length < 3 then some (tokens, .codePoint read (digits ++ [c]))
    else some (tokens, .text (Number.Decimal.digitsValue 16 Number.radixDigit (digits ++ [c]) :: read))

def scanFrom (tokens : List Token) (reading : Reading) : List Char → Option (List Token)
  | [] => match reading with
    | .between => some tokens.reverse
    | .word read => (ofWord? read.reverse).map fun token => (token :: tokens).reverse
    | _ => none
  | c :: rest => match step tokens reading c with
    | some (tokens, reading) => scanFrom tokens reading rest
    | none => none

/-- The tokens of a text, none when some part of it is no token. -/
def scan (text : List Char) : Option (List Token) := scanFrom [] .between text

end Token
end TenantAccess.Json
