import TenantAccess.Failure

/-! What the service reports about its own work. -/

namespace TenantAccess

inductive Severity where
  | debug
  | info
  | warn
  | error
  deriving DecidableEq, Repr

def Severity.toText : Severity → String
  | .debug => "debug"
  | .info => "info"
  | .warn => "warn"
  | .error => "error"

/-- What a reader of the log asks to see: nothing below one level, or nothing at all. -/
inductive LogLevel where
  | fatal
  | error
  | warn
  | info
  | debug
  | trace
  | silent
  deriving DecidableEq, Repr

namespace LogLevel

def toText : LogLevel → String
  | .fatal => "fatal"
  | .error => "error"
  | .warn => "warn"
  | .info => "info"
  | .debug => "debug"
  | .trace => "trace"
  | .silent => "silent"

def all : List LogLevel := [.fatal, .error, .warn, .info, .debug, .trace, .silent]

def ofText? (text : String) : Option LogLevel := all.find? (·.toText == text)

/-- What is said of a name that no level has. -/
def unknown (name : String) : String := "default level:" ++ name ++ " must be included in custom levels"

/-- How grave a level is; silence has no place in the order. -/
def gravity? : LogLevel → Option Nat
  | .fatal => some 60
  | .error => some 50
  | .warn => some 40
  | .info => some 30
  | .debug => some 20
  | .trace => some 10
  | .silent => none

end LogLevel

def Severity.level : Severity → LogLevel
  | .debug => .debug
  | .info => .info
  | .warn => .warn
  | .error => .error

inductive LogValue where
  | plain (value : Json)
  | failure (value : Failure)
  deriving Repr, BEq

structure LogEntry where
  severity : Severity
  fields : List (String × LogValue)
  message : String
  deriving Repr, BEq

namespace LogEntry

def text (name value : String) : String × LogValue := (name, .plain (.text value))

def number (name : String) (value : Number) : String × LogValue := (name, .plain (.number value))

/-- A missing identifier is written as null. -/
def optional (name : String) (value : Option String) : String × LogValue :=
  (name, .plain ((value.map Json.text).getD .null))

/-- A field that is left out when there is nothing to report. -/
def present (name : String) (value : Option Json) : List (String × LogValue) :=
  (value.map fun value => (name, .plain value)).toList

end LogEntry
end TenantAccess
