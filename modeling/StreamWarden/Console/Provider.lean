import StreamWarden.Console.Basic
import StreamWarden.Media.Adapter
import StreamWarden.Time.Instant

/-!
# Console operation on media server adapters

A `provider` request builds the HTTP adapter of one server and runs a list of actions on it:
listing the sessions, sending a message, stopping a session. The console's network refuses
every connection, so every request an adapter makes fails as unreachable and no call reaches a
server; the answers show what the adapters make of that.

Base URLs must name a host, not an IP address, and carry no port: any other base is refused
before the adapter is built.
-/

namespace StreamWarden.Console

open StreamWarden.Http

/-- A session in the common form as an answer shows it (without the time it was seen). -/
def normalizedJson (s : NormalizedSession) : Json :=
  Json.object [
    ("server_id", .int s.serverId), ("provider", .str s.provider.name),
    ("session_key", .str s.sessionKey), ("external_user_id", Json.optStr s.externalUserId),
    ("username", Json.optStr s.username), ("media_key", Json.optStr s.mediaKey),
    ("media_type", .str s.mediaType.name), ("title", Json.optStr s.title),
    ("grandparent_title", Json.optStr s.grandparentTitle),
    ("parent_title", Json.optStr s.parentTitle), ("season_episode", Json.optStr s.seasonEpisode),
    ("state", .str s.state.name), ("progress_ms", Json.optInt s.progressMs),
    ("duration_ms", Json.optInt s.durationMs), ("is_transcode", .bool s.isTranscode),
    ("play_method", .str s.playMethod.name), ("video_decision", Json.optStr s.videoDecision),
    ("audio_decision", Json.optStr s.audioDecision), ("bitrate_kbps", Json.optInt s.bitrateKbps),
    ("video_codec", Json.optStr s.videoCodec), ("audio_codec", Json.optStr s.audioCodec),
    ("media_height", Json.optInt s.mediaHeight), ("client_name", Json.optStr s.clientName),
    ("client_product", Json.optStr s.clientProduct), ("device", Json.optStr s.device),
    ("ip", Json.optStr s.ip), ("started_at", Json.optStr (s.startedAt.map Time.rfc3339)),
    ("library_section_id", Json.optStr s.librarySectionId), ("raw", s.raw)]

/-- One action on an adapter. -/
inductive Action where
  | list
  | message (key title text : String) (timeoutMs : Nat)
  | terminate (key reason : String)

/-- Reads an action. -/
def decodeAction (j : Json) : Decode Action :=
  let text (k : String) : String := (strMember? j k).getD ""
  match strMember? j "action" with
  | some "list" => pure .list
  | some "message" =>
    let timeout := match j.get? "timeout_ms" with
      | some (.num n) => n.asU64?.getD 8000
      | _ => 8000
    pure (.message (text "session_key") (text "title") (text "text") timeout)
  | some "terminate" => pure (.terminate (text "session_key") (text "reason"))
  | some other => throw ("unknown action " ++ other)
  | none => throw "unknown action "

/-- A base URL the console's network can address: a host name without a port. -/
def addressableBase (base : String) : Bool :=
  match Net.Url.parse? base with
  | some u => (match u.host with | .domain _ => true | _ => false) && u.port.isNone
  | none => false

/-- An adapter's answer: what it gives, or its failure as data. -/
def adapterResultJson {α : Type} (ok : α → Json) : Except ProviderError α → Json
  | .ok v => ok v
  | .error e => providerErrorJson e

/-- The answer to one action. -/
def runAction (adapter : Adapter (StateM Jellyfin.ItemCache)) :
    Action → StateM Jellyfin.ItemCache Json
  | .list => do
    let r ← adapter.listSessions 0
    pure (adapterResultJson (fun ss => Json.object [("sessions", .arr (ss.map normalizedJson))]) r)
  | .message key title text timeout => do
    let r ← adapter.sendMessage key title text timeout
    pure (adapterResultJson (fun b => Json.object [("ok", .bool b)]) r)
  | .terminate key reason => do
    let r ← adapter.terminate key reason
    pure (adapterResultJson (fun b => Json.object [("ok", .bool b)]) r)

/-- Builds a server's adapter over a network that refuses every connection and runs actions. -/
def answerProvider (req : Json) : Answer := do
  let kind ← match strMember? req "provider" with
    | some "plex" => pure ProviderKind.plex
    | some "jellyfin" => pure ProviderKind.jellyfin
    | _ => throw "provider"
  let config ← within "server" (decodeServerConfig ((req.get? "server").getD (.obj [])))
  let server := { config with provider := kind }
  let actions ← match req.get? "actions" with
    | some (.arr items) => items.mapM decodeAction
    | _ => pure [Action.list]
  match server.candidateBases.find? (!addressableBase ·) with
  | some base => pure (errorJson "driver_guard" ("base " ++ base ++ " must be a host name without port"))
  | none =>
    match Adapter.overHttp (m := StateM Jellyfin.ItemCache) refusing server with
    | .error e => pure (errorJson ("Provider." ++ e.kindName) e.message)
    | .ok adapter =>
      let results := (Id.run ((actions.mapM (runAction adapter)).run {})).1
      pure (Json.object [("kind", .str kind.name), ("server_id", .int server.id),
        ("results", .arr (results.map fun r => Json.object [("result", r), ("calls", .arr [])]))])

end StreamWarden.Console
