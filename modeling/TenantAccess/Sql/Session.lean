import TenantAccess.Flow.Basic

/-! Sessions of the database, borrowed for one piece of work and given back on every way out. -/

namespace TenantAccess.Sql

/-- A pool prepares each session with a limit on the time of its statements; a plain lender hands
sessions out as they are. -/
inductive Lender where
  | plain
  | pooled (statementTimeout : Number)
  deriving DecidableEq, Repr

def timeoutStatement (limit : Number) : String := "SET statement_timeout = " ++ limit.toText

def prepare : Lender → Flow (Except Failure Unit)
  | .plain => pure (.ok ())
  | .pooled limit => do
    match ← Flow.request (.query .pool (timeoutStatement limit) none) with
    | .error failure => pure (.error failure)
    | .ok _ => pure (.ok ())

/-- The work runs only in a prepared session, and its result is passed on unchanged. -/
def withSession (lender : Lender) (work : Flow (Except Failure α)) : Flow (Except Failure α) := do
  match ← Flow.request .borrow with
  | .error failure => pure (.error failure)
  | .ok () =>
    match ← prepare lender with
    | .error failure =>
      Flow.request .giveBack
      pure (.error failure)
    | .ok () =>
      let result ← work
      Flow.request .giveBack
      pure result

/-- Runs in the request's own session when it has one, and otherwise in a borrowed one. -/
def inSession (lender : Lender) (ownSession : Bool) (work : SessionKind → Flow (Except Failure α)) :
    Flow (Except Failure α) :=
  if ownSession then work .request else withSession lender (work .pool)

end TenantAccess.Sql
