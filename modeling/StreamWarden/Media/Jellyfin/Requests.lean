import StreamWarden.Media.Http
import StreamWarden.Media.Failover
import StreamWarden.Media.Jellyfin.Sessions
import StreamWarden.Media.Jellyfin.SessionId
import StreamWarden.Json.Reader
import StreamWarden.Json.Writer

/-!
# Talking to a Jellyfin server

Every request carries the token in the `X-Emby-Token` header and asks for JSON. Sessions are
listed at `/Sessions?EnableRemoteIP=true`; a session whose title or kind is missing is completed
from its item (`/Items/{id}`), whose summary is kept in the item cache. A failed item look-up
leaves the session as it is and is tried again at the next listing.

A message is shown in a client by a `POST` to `/Sessions/{id}/Message`, and playback is stopped
by a `POST` to `/Sessions/{id}/Playing/Stop`; the id is the part of the session key before the
first `:`. Both answer `true` once the server accepted the command.
-/

namespace StreamWarden.Jellyfin

open StreamWarden.Http

/-- Where the server lists its sessions. -/
def sessionsPath : String := "/Sessions?EnableRemoteIP=true"

/-- The headers of every request. -/
def headers (token : String) : List (String × String) :=
  [("X-Emby-Token", token), ("Accept", "application/json")]

/-- The JSON answer to a `GET` of a path, from the first base URL that answers. An answer that is
no JSON is a protocol failure, and is not tried elsewhere. -/
def getJson {m : Type → Type} [Monad m] (send : Transport m) (bases : List String)
    (token path : String) : m (Except ProviderError Json) :=
  firstResponding bases "jellyfin GET" fun base => do
    match ← exchange send (Request.build .get (base ++ path) [] (headers token)) with
    | .error e => pure (.error e)
    | .ok body =>
      match Json.parse body with
      | .ok j => pure (.ok j)
      | .error e => pure (.error (.protocol e.message))

/-- Posts a JSON body to a path, at the first base URL that answers. -/
def postJson {m : Type → Type} [Monad m] (send : Transport m) (bases : List String)
    (token path : String) (payload : Json) : m (Except ProviderError Unit) :=
  let body := Json.render payload
  firstResponding bases "jellyfin POST" fun base => do
    let request := Request.build .post (base ++ path) []
      (headers token ++ [("Content-Type", "application/json")]) body
    return (← exchange send request).map fun _ => ()

/-- The summary of an item: from the cache, else asked of the server and then kept. -/
def itemDetails {m : Type → Type} [Monad m] [MonadStateOf ItemCache m] (send : Transport m)
    (bases : List String) (token : String) (serverId : Int) (itemId : String) :
    m (Option ItemSummary) := do
  match (← get).get? serverId itemId with
  | some cached => pure (some cached)
  | none =>
    match ← getJson send bases token ("/Items/" ++ itemId) with
    | .error _ => pure none
    | .ok body =>
      match itemSummary? body with
      | none => pure none
      | some summary =>
        modify (·.insert serverId itemId summary)
        pure (some summary)

/-- Completes a session from its item when its title or kind is missing. -/
def completeSession {m : Type → Type} [Monad m] [MonadStateOf ItemCache m] (send : Transport m)
    (bases : List String) (token : String) (serverId : Int) (s : NormalizedSession) :
    m NormalizedSession := do
  if !needsItemDetails s then return s
  match s.mediaKey with
  | none => pure s
  | some itemId =>
    match ← itemDetails send bases token serverId itemId with
    | some item => pure (completeWith s item)
    | none => pure s

/-- The sessions playing on the server, seen at `now`. -/
def listSessions {m : Type → Type} [Monad m] [MonadStateOf ItemCache m] (send : Transport m)
    (bases : List String) (token : String) (serverId now : Int) :
    m (Except ProviderError (List NormalizedSession)) := do
  match ← getJson send bases token sessionsPath with
  | .error e => pure (.error e)
  | .ok body =>
    match parseSessions serverId body now with
    | .error e => pure (.error e)
    | .ok sessions => return .ok (← sessions.mapM (completeSession send bases token serverId))

/-- The body of a message command. -/
def messageBody (title text : String) (timeoutMs : Nat) : Json :=
  .obj [("Header", .str title), ("Text", .str text), ("TimeoutMs", .num (.nat timeoutMs))]

/-- Shows a message in the client of a session. -/
def sendMessage {m : Type → Type} [Monad m] (send : Transport m) (bases : List String)
    (token key title text : String) (timeoutMs : Nat) : m (Except ProviderError Bool) := do
  let path := "/Sessions/" ++ sessionIdFromKey key ++ "/Message"
  return (← postJson send bases token path (messageBody title text timeoutMs)).map fun _ => true

/-- Stops the playback of a session. -/
def terminate {m : Type → Type} [Monad m] (send : Transport m) (bases : List String)
    (token key : String) : m (Except ProviderError Bool) := do
  let path := "/Sessions/" ++ sessionIdFromKey key ++ "/Playing/Stop"
  return (← postJson send bases token path (.obj [])).map fun _ => true

end StreamWarden.Jellyfin
