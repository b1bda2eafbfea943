import StreamWarden.Media.Server
import StreamWarden.Media.Plex
import StreamWarden.Media.Jellyfin.Requests

/-!
# Media server adapters

An adapter is bound to one server and offers the three things the monitor asks of a server:
the sessions playing now, a message shown in a session's client (answering `false` where the
server has no such thing), and stopping a session. Each answers a failure as data.

The HTTP adapters are built from a server's settings: a server without a usable base URL, or
then without a token, is a configuration failure. The Jellyfin adapter keeps item summaries in
the item cache of its monad.
-/

namespace StreamWarden

open StreamWarden.Http

/-- What the monitor can ask of one media server. -/
structure Adapter (m : Type → Type) where
  kind : ProviderKind
  serverId : Int
  /-- The sessions playing now, seen at the given time. -/
  listSessions : Int → m (Except ProviderError (List NormalizedSession))
  /-- Shows a message (title, text, how long in ms) in the client of the session with a key. -/
  sendMessage : String → String → String → Nat → m (Except ProviderError Bool)
  /-- Stops the session with a key, giving a reason. -/
  terminate : String → String → m (Except ProviderError Bool)

/-- The HTTP adapter of a server, or why it cannot be built. -/
def Adapter.overHttp {m : Type → Type} [Monad m] [MonadStateOf Jellyfin.ItemCache m]
    (send : Transport m) (server : ServerConfig) : Except ProviderError (Adapter m) := do
  let bases ← server.requireBases
  let token ← server.requireToken
  match server.provider with
  | .plex =>
    pure { kind := .plex, serverId := server.id
           listSessions := Plex.listSessions send bases token server.id
           sendMessage := fun _ _ _ _ => pure (.ok false)
           terminate := Plex.terminate send bases token }
  | .jellyfin =>
    pure { kind := .jellyfin, serverId := server.id
           listSessions := Jellyfin.listSessions send bases token server.id
           sendMessage := Jellyfin.sendMessage send bases token
           terminate := fun key _ => Jellyfin.terminate send bases token key }

end StreamWarden
