import TenantAccess.Verifier.Provider
import TenantAccess.Verifier.PublishedKeys

/-! The ways of finding out whom a token stands for. -/

namespace TenantAccess

/-- Strategies that ask someone outside the process. -/
inductive RemoteVerifier where
  | introspection (provider url : String) (timeout : Number)
  | userinfo (url : String) (timeout : Number)
  | publishedKeys (keys : PublishedKeys)

namespace RemoteVerifier

def method : RemoteVerifier → String
  | .introspection provider _ _ => provider
  | .userinfo _ _ => Userinfo.provider
  | .publishedKeys _ => PublishedKeys.method

def verify (remote : RemoteVerifier) (token : String) (signal : Signal) :
    Flow (Except Failure (Option Fields)) :=
  match remote with
  | .introspection provider url timeout => Introspection.verify provider url timeout token signal
  | .userinfo url timeout => Userinfo.verify url timeout token signal
  | .publishedKeys keys => .ok <$> keys.verify token signal

end RemoteVerifier

/-- A configured key is asked first and only then the remote strategy. A consulted verifier is one
that the world brings along. -/
inductive Verifier where
  | disabled
  | localKey (key : LocalKey)
  | remote (strategy : RemoteVerifier)
  | localFirst (key : LocalKey) (strategy : Option RemoteVerifier)
  | consulted (method : String)

namespace Verifier

def localMethod : String := "local"

def method : Verifier → String
  | .disabled => "none"
  | .localKey _ => localMethod
  | .remote strategy => strategy.method
  | .localFirst _ none => localMethod
  | .localFirst _ (some strategy) => localMethod ++ "+" ++ strategy.method
  | .consulted method => method

def verifyLocalFirst (key : LocalKey) (remote : Option RemoteVerifier) (token : String)
    (signal : Signal) : Flow (Except Failure (Option Fields)) := do
  match ← key.verify localMethod token with
  | some claims => pure (.ok (some claims))
  | none => match remote with
    | none => pure (.ok none)
    | some remote => remote.verify token signal

/-- The claims a token stands for, or none. A strategy that asks someone outside can fail. -/
def verify (verifier : Verifier) (token : String) (signal : Signal) :
    Flow (Except Failure (Option Fields)) :=
  match verifier with
  | .disabled => do
    Flow.report .debug [] "token verification disabled"
    pure (.ok none)
  | .localKey key => .ok <$> key.verify localMethod token
  | .remote strategy => strategy.verify token signal
  | .localFirst key strategy => verifyLocalFirst key strategy token signal
  | .consulted _ => Flow.request (.consult token signal)

end Verifier
end TenantAccess
