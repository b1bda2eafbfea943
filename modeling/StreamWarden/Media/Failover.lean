import StreamWarden.Media.Error

/-!
# Failover between the addresses of a server

A server may be reachable at several base URLs. An operation is tried at each in order and the
first answer wins. Only a failure that another address might not have (the server is
unreachable, or reports an error of its own) moves on to the next address; any other failure is
the answer at once.

When every address failed, the answer is the last failure, unless that was an unreachable one
(or there was no address): then it is one unreachable failure that lists every attempt,
`{what} failed on every base URL: [{base} -> {failure}, ...]`.
-/

namespace StreamWarden

/-- The failure reported once every address has failed. -/
def exhaustedError (what : String) (attempts : List String) : Option ProviderError → ProviderError
  | some (.unreachable _) | none =>
    .unreachable (what ++ " failed on every base URL: [" ++ ", ".intercalate attempts ++ "]")
  | some e => e

/-- The line an attempt adds to the report of a failover that found no address. -/
def attemptLine (base : String) (e : ProviderError) : String := base ++ " -> " ++ e.message

/-- Tries the remaining addresses, with the attempts so far and the last failure. -/
def failoverFrom {m : Type → Type} [Monad m] {α : Type} (what : String)
    (attempt : String → m (Except ProviderError α)) :
    List String → List String → Option ProviderError → m (Except ProviderError α)
  | [], attempts, last => pure (.error (exhaustedError what attempts last))
  | base :: rest, attempts, _ => do
    match ← attempt base with
    | .ok v => pure (.ok v)
    | .error e =>
      if e.shouldTryNextBase then
        failoverFrom what attempt rest (attempts ++ [attemptLine base e]) (some e)
      else pure (.error e)

/-- Runs an operation at each base URL in order until one answers. -/
def firstResponding {m : Type → Type} [Monad m] {α : Type} (bases : List String) (what : String)
    (attempt : String → m (Except ProviderError α)) : m (Except ProviderError α) :=
  failoverFrom what attempt bases [] none

end StreamWarden
