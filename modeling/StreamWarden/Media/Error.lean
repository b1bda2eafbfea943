/-!
# Failures of a media server

A request to a media server fails in one of five ways: the server cannot be reached, it refuses
the credentials, its answer cannot be understood, it reports an error of its own (a status of
500 or more), or the server's configuration is unusable.

The failures are grouped in four classes that decide what a failure says about the server:
unreachable (no answer, or a server error), auth, config, and other (a protocol failure). Only
an unreachable or a server error is worth trying again at another address of the same server.
-/

namespace StreamWarden

/-- A failure of a request to a media server. -/
inductive ProviderError where
  | unreachable (detail : String)
  | auth (status : Nat)
  | protocol (detail : String)
  | serverError (status : Nat)
  | config (detail : String)
  deriving DecidableEq, Repr, Inhabited

/-- The class of a failure, as far as the server's status is concerned. -/
inductive FailureClass where
  | unreachable
  | auth
  | config
  | other
  deriving DecidableEq, Repr

namespace FailureClass

/-- The name of a class. -/
def name : FailureClass → String
  | .unreachable => "unreachable"
  | .auth => "auth"
  | .config => "config"
  | .other => "other"

end FailureClass

namespace ProviderError

/-- The wording of a failure. -/
def message : ProviderError → String
  | .unreachable d => "provider unreachable: " ++ d
  | .auth s => s!"provider rejected credentials (HTTP {s})"
  | .protocol d => "malformed provider response: " ++ d
  | .serverError s => s!"provider server error (HTTP {s})"
  | .config d => "invalid provider configuration: " ++ d

/-- The name of the kind of a failure. -/
def kindName : ProviderError → String
  | .unreachable _ => "Unreachable"
  | .auth _ => "Auth"
  | .protocol _ => "Protocol"
  | .serverError _ => "ServerError"
  | .config _ => "Config"

/-- The class of a failure: a server error counts as unreachable. -/
def classify : ProviderError → FailureClass
  | .unreachable _ | .serverError _ => .unreachable
  | .auth _ => .auth
  | .config _ => .config
  | .protocol _ => .other

/-- Another address of the same server may answer where this one failed. -/
def shouldTryNextBase : ProviderError → Bool
  | .unreachable _ | .serverError _ => true
  | _ => false

/-- The failure an HTTP status stands for; none for a success (2xx). -/
def ofStatus (code : Nat) : Option ProviderError :=
  if 200 ≤ code ∧ code ≤ 299 then none
  else if code = 401 ∨ code = 403 then some (.auth code)
  else if code ≥ 500 then some (.serverError code)
  else some (.protocol s!"unexpected HTTP status {code}")

end ProviderError

end StreamWarden
