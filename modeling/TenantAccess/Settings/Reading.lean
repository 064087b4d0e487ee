import TenantAccess.Number.Decimal
import TenantAccess.Settings.Basic
import TenantAccess.Settings.Issue
import TenantAccess.Text.Search
import TenantAccess.Url.Validity

/-! Reading one variable. A value of the wrong kind is unusable; one of the right kind that breaks a
rule is faulty but still there for the rules that look at several variables. -/

namespace TenantAccess.Settings

inductive Reading (α : Type) where
  | good (value : α)
  | faulty (value : α) (problems : List Problem)
  | unusable (problem : Problem)
  deriving Repr

namespace Reading

def ofProblems (value : α) (problems : List Problem) : Reading α :=
  if problems.isEmpty then .good value else .faulty value problems

def value? : Reading α → Option α
  | .good value | .faulty value _ => some value
  | .unusable _ => none

def problems : Reading α → List Problem
  | .good _ => []
  | .faulty _ problems => problems
  | .unusable problem => [problem]

end Reading

/-- A text that must be one of the names of a list. -/
def readNamed (names : List (String × α)) (standard : α) : Option Json → Reading α
  | none => .good standard
  | some (.text text) => match names.lookup text with
    | some value => .good value
    | none => .unusable (.notListed (names.map (·.1)) text)
  | some other => .unusable (.notText (names.map (·.1)) (kindOf other))

def readText (standard : Option String) (given : Option Json) : Reading String :=
  match given, standard with
  | none, some standard => .good standard
  | none, none => .unusable .required
  | some (.text text), _ => .ofProblems text (if text = "" then [.empty] else [])
  | some other, _ => .unusable (.wrongKind "string" (kindOf other))

def rangeProblems (least greatest : Nat) (number : Number) : List Problem :=
  (if number.isWhole then [] else [.fraction]) ++
    (if number.below (.ofInt least) then [.below least] else []) ++
    (if Number.below (.ofInt greatest) number then [.above greatest] else [])

def wholeValue : Number → Nat
  | .finite value => value.num.toNat
  | _ => 0

def readNumber (least greatest : Nat) (number : Number) : Reading Nat :=
  .ofProblems (wholeValue number) (rangeProblems least greatest number)

/-- A whole number in a range. A text is read as a number, and an empty one counts as not given. -/
def readWhole (standard least greatest : Nat) : Option Json → Reading Nat
  | none | some .null => readNumber least greatest (.ofInt standard)
  | some (.number .undefined) => .unusable (.wrongKind "number" (kindOf (.number .undefined)))
  | some (.number number) => readNumber least greatest number
  | some (.text text) =>
    if text = "" then readNumber least greatest (.ofInt standard)
    else
      let number := Number.ofLenient text
      if number.isFinite then readNumber least greatest number
      else .unusable (.wrongKind "number" "string")
  | some other => .unusable (.wrongKind "number" (kindOf other))

/-- A blank text counts as not given. -/
def readOptional : Option Json → Reading (Option String)
  | none => .good none
  | some (.text text) => .good (if Text.isBlankText text then none else some text)
  | some other => .unusable (.wrongKind "string" (kindOf other))

def readUrl (given : Option Json) : Reading (Option String) :=
  match readOptional given with
  | .good (some url) => .ofProblems (some url) (if Url.isValid url then [] else [.url])
  | reading => reading

/-- A backslash and an n stand for a line end. -/
def expandLineEnds : List Char → List Char
  | '\\' :: 'n' :: rest => '\n' :: expandLineEnds rest
  | c :: rest => c :: expandLineEnds rest
  | [] => []

/-- Anything but a text that is not blank counts as not given. -/
def readPublicKey : Option Json → Reading (Option String)
  | some (.text text) =>
    if Text.isBlankText text then .good none
    else
      let pem := Text.trimmed (expandLineEnds text.toList)
      .ofProblems (some (String.ofList pem))
        (if Text.occursIn Crypto.PublicKey.beginMarker.toList pem then [] else [.publicKey])
  | _ => .good none

/-- The name of an algorithm with a shared secret, in any letter case. -/
def isSharedSecret (name : String) : Bool :=
  match name.toList with
  | h :: s :: digit :: digits =>
    h.toLower == 'h' && s.toLower == 's' && (digit :: digits).all Number.Decimal.isDigit
  | _ => false

def algorithmNames : List (String × SigningAlgorithm) :=
  [.rsaPkcs1, .ecdsa, .rsaPss].flatMap fun scheme =>
    [.bits256, .bits384, .bits512].map fun digest =>
      ((SigningAlgorithm.mk scheme digest).toText, ⟨scheme, digest⟩)

def standardAlgorithm : SigningAlgorithm := ⟨.rsaPkcs1, .bits256⟩

/-- A shared-secret algorithm is refused by a rule of its own, before the list is looked at. -/
def readAlgorithm : Option Json → Reading SigningAlgorithm
  | some (.text text) =>
    if isSharedSecret text then .faulty standardAlgorithm [.sharedSecret]
    else readNamed algorithmNames standardAlgorithm (some (.text text))
  | some other => .unusable (.wrongKind "string" (kindOf other))
  | none => .good standardAlgorithm

def readFlag : Option Json → Reading Bool
  | none => .good true
  | some (.boolean value) => .good value
  | some (.text text) =>
    let word := Text.lowercase (Text.trim text)
    if ["1", "true", "yes", "on"].contains word then .good true
    else if ["0", "false", "no", "off"].contains word then .good false
    else .unusable (.wrongKind "boolean" "string")
  | some other => .unusable (.wrongKind "boolean" (kindOf other))

end TenantAccess.Settings
