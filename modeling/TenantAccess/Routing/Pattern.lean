import TenantAccess.Json.Basic
import TenantAccess.Text.Percent

/-! Patterns of paths. Letters match in either case, a parameter takes one segment, and one slash may
follow. A mounted pattern takes the start of a path up to a slash or its end, a route all of it. -/

namespace TenantAccess

inductive Segment where
  | literal (text : String)
  | parameter (name : String)
  deriving DecidableEq, Repr

abbrev Pattern := List Segment

/-- How a path meets a pattern: not at all, with a parameter that spells nothing, or with what the
pattern takes of it. -/
inductive PathMatch where
  | no
  | undecodable (segment : String)
  | yes (taken : List Char) (params : List (String × Option Json))

namespace Pattern

def sameLetters (pattern path : List Char) : Bool := pattern.map Char.toLower == path.map Char.toLower

/-- Splits the next segment, behind its slash, off a path. -/
def nextSegment? : List Char → Option (List Char × List Char)
  | '/' :: rest => some (rest.takeWhile (· != '/'), rest.dropWhile (· != '/'))
  | _ => none

/-- The raw texts of the parameters, what the pattern takes, and what is left. -/
def take? : Pattern → List Char → Option (List (String × List Char) × List Char × List Char)
  | [], path => some ([], [], path)
  | segment :: pattern, path => match nextSegment? path with
    | none => none
    | some (text, rest) => match segment with
      | .literal expected =>
        if sameLetters expected.toList text then
          (take? pattern rest).map fun (params, taken, left) => (params, '/' :: text ++ taken, left)
        else none
      | .parameter name =>
        if text.isEmpty then none
        else (take? pattern rest).map fun (params, taken, left) =>
          ((name, text) :: params, '/' :: text ++ taken, left)

/-- A slash behind the pattern is taken when the path ends there or goes on with another one. -/
def takeSlash (left : List Char) : List Char :=
  match left with
  | ['/'] | '/' :: '/' :: _ => ['/']
  | _ => []

def decodeParams (taken : List Char) (done : List (String × Option Json)) :
    List (String × List Char) → PathMatch
  | [] => .yes taken done
  | (name, text) :: more => match Percent.decode? (String.ofList text) with
    | some value => decodeParams taken (done ++ [(name, some (.text value))]) more
    | none => .undecodable (String.ofList text)

/-- The empty pattern is mounted on every path and takes nothing of it. -/
def mounted (pattern : Pattern) (path : String) : PathMatch :=
  if pattern.isEmpty then .yes [] []
  else match take? pattern path.toList with
    | none => .no
    | some (params, taken, left) => decodeParams (taken ++ takeSlash left) [] params

def isRoute (pattern : Pattern) (path : String) : Bool :=
  match take? pattern path.toList with
  | some (_, _, left) => left.isEmpty || left = ['/']
  | none => false

end Pattern
end TenantAccess
