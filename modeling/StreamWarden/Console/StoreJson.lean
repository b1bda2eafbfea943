import StreamWarden.Console.Basic
import StreamWarden.Monitor.Collect
import StreamWarden.Enforce.Tick
import StreamWarden.Media.Scripted

/-!
# The store as answers show it

Rows are written with every column, booleans as JSON booleans. Times near the instant of the
answer are written relative to it, so that answers do not depend on when they were made: a time
within `10 ^ 10` ms of now is `"now"`, or `"now+Ns"` / `"now-Ns"` with the difference rounded
to whole seconds (halves away from zero). Times farther away stay numbers.
-/

namespace StreamWarden.Console

/-- The members of answers that hold times. -/
def timeKeys : List String :=
  ["started_at", "last_seen_at", "stopped_at", "ts", "created_at", "first_seen_at", "warned_at",
    "killed_at", "last_checked", "last_warned_at"]

/-- A difference in milliseconds as whole seconds, halves away from zero. -/
def roundSeconds (d : Int) : Int :=
  if d ≥ 0 then (d + 500) / 1000 else -((-d + 500) / 1000)

/-- A time as an answer shows it, relative to `now` when it is near. -/
def relativeTime (now ts : Int) : Json :=
  let d := ts - now
  if d.natAbs < Nat.pow 10 10 then
    let n := roundSeconds d
    if n = 0 then .str "now"
    else if n > 0 then .str ("now+" ++ toString n ++ "s")
    else .str ("now-" ++ toString (-n) ++ "s")
  else .int ts

mutual
/-- Writes the times of a value relative to `now`, at any depth. -/
def relativeTimes (now : Int) : Json → Json
  | .arr items => .arr (relativeItems now items)
  | .obj members => .obj (relativeMembers now members)
  | j => j

/-- Writes the times of the items of an array relative to `now`. -/
def relativeItems (now : Int) : List Json → List Json
  | [] => []
  | j :: rest => relativeTimes now j :: relativeItems now rest

/-- Writes the times of the members of an object relative to `now`. -/
def relativeMembers (now : Int) : List (String × Json) → List (String × Json)
  | [] => []
  | (k, v) :: rest =>
    let v' := match v with
      | .num n => if timeKeys.contains k then
          (match n.asI64? with | some ts => relativeTime now ts | none => v) else v
      | _ => relativeTimes now v
    (k, v') :: relativeMembers now rest
end

/-- A session playing now, with every column. -/
def liveRowJson (r : LiveRow) : Json :=
  Json.object [
    ("id", .int r.id), ("server_id", .int r.serverId), ("session_key", .str r.sessionKey),
    ("media_user_id", .optInt r.mediaUserId), ("external_user_id", .optStr r.externalUserId),
    ("username", .optStr r.username), ("media_key", .optStr r.mediaKey),
    ("media_type", .str r.mediaType.name), ("title", .optStr r.title),
    ("grandparent_title", .optStr r.grandparentTitle), ("parent_title", .optStr r.parentTitle),
    ("season_episode", .optStr r.seasonEpisode), ("state", .str r.state.name),
    ("progress_ms", .optInt r.progressMs), ("duration_ms", .optInt r.durationMs),
    ("is_transcode", .bool r.isTranscode), ("was_transcode", .bool r.wasTranscode),
    ("play_method", .str r.playMethod.name), ("video_decision", .optStr r.videoDecision),
    ("audio_decision", .optStr r.audioDecision), ("bitrate_kbps", .optInt r.bitrateKbps),
    ("peak_bitrate_kbps", .optInt r.peakBitrateKbps), ("video_codec", .optStr r.videoCodec),
    ("audio_codec", .optStr r.audioCodec), ("media_height", .optInt r.mediaHeight),
    ("client_name", .optStr r.clientName), ("client_product", .optStr r.clientProduct),
    ("device", .optStr r.device), ("ip", .optStr r.ip),
    ("library_section_id", .optStr r.librarySectionId), ("started_at", .int r.startedAt),
    ("last_seen_at", .int r.lastSeenAt), ("raw_json", .optStr r.rawJson)]

/-- A lifecycle event, with every column. -/
def eventRowJson (e : EventRow) : Json :=
  Json.object [
    ("id", .int e.id), ("server_id", .int e.serverId), ("provider", .str e.provider.name),
    ("event_type", .str e.eventType.name), ("ts", .int e.ts), ("session_key", .str e.sessionKey),
    ("media_user_id", .optInt e.mediaUserId), ("external_user_id", .optStr e.externalUserId),
    ("media_key", .optStr e.mediaKey), ("title", .optStr e.title),
    ("payload_json", .optStr (e.payloadJson.map (·.render)))]

/-- A finished session, with every column. -/
def historyRowJson (h : HistoryRow) : Json :=
  Json.object [
    ("id", .int h.id), ("server_id", .int h.serverId), ("provider", .str h.provider.name),
    ("session_key", .str h.sessionKey), ("media_key", .optStr h.mediaKey),
    ("external_user_id", .optStr h.externalUserId), ("media_user_id", .optInt h.mediaUserId),
    ("media_type", .str h.mediaType.name), ("title", .optStr h.title),
    ("grandparent_title", .optStr h.grandparentTitle), ("parent_title", .optStr h.parentTitle),
    ("season_episode", .optStr h.seasonEpisode), ("started_at", .int h.startedAt),
    ("stopped_at", .int h.stoppedAt), ("duration_ms", .optInt h.durationMs),
    ("watch_ms", .int h.watchMs), ("peak_bitrate_kbps", .optInt h.peakBitrateKbps),
    ("was_transcode", .bool h.wasTranscode), ("play_method", .str h.playMethod.name),
    ("client_name", .optStr h.clientName), ("client_product", .optStr h.clientProduct),
    ("device", .optStr h.device), ("ip", .optStr h.ip),
    ("library_section_id", .optStr h.librarySectionId), ("library_name", .optStr h.libraryName),
    ("raw_json", .optStr h.rawJson)]

/-- An entry of the enforcement log, with every column. -/
def enforcementRowJson (e : EnforcementRow) : Json :=
  Json.object [
    ("id", .int e.id), ("policy_id", .int e.policyId), ("server_id", .int e.serverId),
    ("provider", .str e.provider), ("session_key", .str e.sessionKey),
    ("actor_key", .str e.actorKey), ("vodum_user_id", .optInt e.vodumUserId),
    ("external_user_id", .optStr e.externalUserId), ("action", .str e.action.name),
    ("reason", .str e.reason), ("succeeded", .bool e.succeeded), ("created_at", .int e.createdAt)]

/-- A summary row of the enforcement log, with every column. -/
def enforcementStateJson (st : EnforcementState) : Json :=
  Json.object [
    ("id", .int st.id), ("policy_id", .int st.policyId), ("server_id", .int st.serverId),
    ("actor_key", .str st.actorKey), ("first_seen_at", .int st.firstSeenAt),
    ("last_seen_at", .int st.lastSeenAt), ("warned_at", .optInt st.warnedAt),
    ("killed_at", .optInt st.killedAt), ("last_reason", .optStr st.lastReason)]

/-- The global switches. -/
def settingsJson (s : Settings) : Json :=
  Json.object [
    ("enforcement_enabled", .bool s.enforcementEnabled),
    ("monitoring_enabled", .bool s.monitoringEnabled),
    ("data_retention_years", .int s.dataRetentionYears), ("log_filter", .optStr s.logFilter)]

/-- What a poll did. -/
def outcomeJson (o : CollectOutcome) : Json :=
  Json.object [("server_id", .int o.serverId), ("sessions_seen", .int o.sessionsSeen),
    ("events", .int o.events), ("stopped", .int o.stopped)]

/-- What a round of polls did. -/
def collectReportJson (r : CollectReport) : Json :=
  Json.object [("servers", .int r.servers), ("sessions_seen", .int r.sessionsSeen),
    ("events", .int r.events),
    ("errors", .arr (r.errors.map fun e =>
      Json.object [("server_id", .int e.serverId), ("message", .str e.message)]))]

/-- What a tick did. -/
def tickReportJson (r : TickReport) : Json :=
  Json.object [("policies", .int r.policies), ("live_sessions", .int r.liveSessions),
    ("violations", .int r.violations), ("warned", .int r.warned), ("cleared", .int r.cleared),
    ("killed", .int r.killed), ("failed", .int r.failed), ("abandoned", .bool r.abandoned)]

/-- A call made to a scripted server. -/
def callJson : Call → Json
  | .message server key title text timeout =>
    Json.object [("call", .str "message"), ("server_id", .int server), ("session_key", .str key),
      ("title", .str title), ("text", .str text), ("timeout_ms", .int timeout)]
  | .terminate server key reason =>
    Json.object [("call", .str "terminate"), ("server_id", .int server), ("session_key", .str key),
      ("reason", .str reason)]

/-- What a finished session wrote. -/
def finalizedJson : Option Finalized → Json
  | none => .null
  | some f => Json.object [("session_key", .str f.sessionKey), ("started_at", .int f.startedAt),
      ("stopped_at", .int f.stoppedAt), ("watch_ms", .int f.watchMs),
      ("history_written", .bool f.historyWritten)]

/-- What a purge removed. -/
def purgeJson (r : PurgeReport) : Json :=
  Json.object [("history", .int r.history), ("events", .int r.events),
    ("enforcements", .int r.enforcements), ("total", .int r.total)]

end StreamWarden.Console
