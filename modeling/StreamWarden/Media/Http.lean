import StreamWarden.Media.Error
import StreamWarden.Net.Url

/-!
# Requests to media servers

Media servers are asked over HTTP. A request is a method, the full URL, its headers and a body;
sending it either brings an answer (a status and a body) or fails before any answer, when no
connection could be made.

A request that gets no answer is a failure of the unreachable kind, worded
`error sending request for url (URL)` with the full URL, query included. An answer whose status
is not a success is the failure `ProviderError.ofStatus` gives. A target that is no HTTP URL
cannot be sent at all: that is the unreachable failure `builder error`.

The way requests travel is a parameter (`Transport`), so that the adapters can be run against
any network: a scripted one, or one that refuses every connection.
-/

namespace StreamWarden.Http

open StreamWarden.Net

/-- The HTTP methods the adapters use. -/
inductive Method where
  | get
  | post
  deriving DecidableEq, Repr

/-- The name of a method, as it is written on the wire. -/
def Method.name : Method → String
  | .get => "GET"
  | .post => "POST"

/-- A request ready to be sent. -/
structure Request where
  method : Method
  url : String
  headers : List (String × String)
  body : String := ""
  deriving Repr

/-- What sending a request brings: an answer, or none at all. -/
inductive Reply where
  | answered (status : Nat) (body : String)
  | unanswered
  deriving Repr

/-- A way of sending requests, with the effects of a monad. -/
abbrev Transport (m : Type → Type) := Request → m Reply

/-- The network that refuses every connection. -/
def refusing {m : Type → Type} [Pure m] : Transport m := fun _ => pure .unanswered

/-- The failure of a request that got no answer. -/
def unansweredError (url : String) : ProviderError :=
  .unreachable ("error sending request for url (" ++ url ++ ")")

/-- The failure of a target that is no HTTP URL. -/
def builderError : ProviderError := .unreachable "builder error"

/-- Builds a request for `base ++ path`, with form-encoded parameters added to its query. -/
def Request.build (method : Method) (target : String) (params : List (String × String))
    (headers : List (String × String)) (body : String := "") : Except ProviderError Request :=
  match Url.parse? target with
  | some u => .ok { method, url := (u.withParams params).text, headers, body }
  | none => .error builderError

/-- Sends a built request: the status and body of a successful answer, else the failure. -/
def exchange {m : Type → Type} [Monad m] (send : Transport m)
    (request : Except ProviderError Request) : m (Except ProviderError String) := do
  match request with
  | .error e => pure (.error e)
  | .ok req =>
    match ← send req with
    | .unanswered => pure (.error (unansweredError req.url))
    | .answered status body =>
      match ProviderError.ofStatus status with
      | some e => pure (.error e)
      | none => pure (.ok body)

end StreamWarden.Http
