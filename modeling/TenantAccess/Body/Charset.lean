import TenantAccess.Text.Base64
import TenantAccess.Text.Utf16
import TenantAccess.Text.Utf8

/-! The encodings of a body's text, all of them forms of Unicode. -/

namespace TenantAccess

inductive Charset where
  | utf8
  | utf16
  | utf16LittleEndian
  | utf16BigEndian
  | utf7
  | utf7Mailbox
  deriving DecidableEq, Repr

namespace Charset

/-- Letters and digits of a name decide, and a year behind a colon does not count. -/
def plainName (name : String) : String :=
  let text := name.toList.map Char.toLower
  let kept := match text.reverse with
    | a :: b :: c :: d :: ':' :: rest => if [a, b, c, d].all Char.isDigit then rest.reverse else text
    | _ => text
  String.ofList (kept.filter Char.isAlphanum)

def known : List (String × Charset) :=
  [("utf8", .utf8), ("utf16", .utf16), ("utf16le", .utf16LittleEndian), ("utf16be", .utf16BigEndian),
    ("utf7", .utf7), ("utf7imap", .utf7Mailbox)]

/-- Only names that begin like those of Unicode's own encodings are looked at. -/
def ofName? (name : String) : Option Charset :=
  if "utf-".toList.isPrefixOf (name.toList.map Char.toLower) then known.lookup (plainName name) else none

/-- A form in which a sign opens a run of sixteen-bit units in sixty-four characters. -/
structure ShiftForm where
  opener : Char
  isRunCharacter : Char → Bool

def plainForm : ShiftForm := ⟨'+', fun c => c.isAlphanum || c == '+' || c == '/'⟩

/-- In the names of mailboxes a comma stands for the slash. -/
def mailboxForm : ShiftForm := ⟨'&', fun c => c.isAlphanum || c == '+' || c == '/' || c == ','⟩

/-- The text read so far, latest first, and the run that is open, latest first as well. -/
structure Shifting where
  read : List Char
  run : Option (List Char)

def withoutMark : List Char → List Char
  | '\uFEFF' :: rest => rest
  | text => text

/-- The characters of a run. Each run may begin with a byte order mark. -/
def readRun (run : List Char) : List Char :=
  withoutMark (Utf16.decode true (Base64.decode (run.map fun c => if c = ',' then '/' else c)))

def readPlain (form : ShiftForm) (read : List Char) (c : Char) : Shifting :=
  if c = form.opener then ⟨read, some []⟩ else ⟨(if c.toNat < 0x80 then c else '\uFFFD') :: read, none⟩

/-- A minus may close a run, and a run with nothing in it is the sign that opens one. -/
def readShifted (form : ShiftForm) (state : Shifting) (c : Char) : Shifting :=
  match state.run with
  | none => readPlain form state.read c
  | some run =>
    if form.isRunCharacter c then ⟨state.read, some (c :: run)⟩
    else if c = '-' then
      ⟨if run.isEmpty then form.opener :: state.read else (readRun run.reverse).reverse ++ state.read, none⟩
    else readPlain form ((readRun run.reverse).reverse ++ state.read) c

/-- A run that is never closed is read in two parts, the first of them in whole groups of eight. -/
def decodeShifted (form : ShiftForm) (text : List Char) : List Char :=
  let final := text.foldl (readShifted form) ⟨[], none⟩
  let run := (final.run.getD []).reverse
  let whole := run.length - run.length % 8
  final.read.reverse ++ readRun (run.take whole) ++ readRun (run.drop whole)

def decode (charset : Charset) (octets : List UInt8) : List Char :=
  match charset with
  | .utf8 => Utf8.decodeFrom none [] octets
  | .utf16 => Utf16.decode (Utf16.isBigEndian octets) octets
  | .utf16LittleEndian => Utf16.decode false octets
  | .utf16BigEndian => Utf16.decode true octets
  | .utf7 => decodeShifted plainForm (octets.map fun octet => Char.ofNat octet.toNat)
  | .utf7Mailbox => decodeShifted mailboxForm (octets.map fun octet => Char.ofNat octet.toNat)

/-- A byte order mark at the start is no part of the text. -/
def decodeUnmarked (charset : Charset) (octets : List UInt8) : List Char :=
  withoutMark (charset.decode octets)

end Charset
end TenantAccess
