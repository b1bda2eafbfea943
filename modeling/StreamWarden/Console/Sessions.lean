import StreamWarden.Console.Records
import StreamWarden.Time.Instant
import StreamWarden.Monitor.Diff

/-!
# Reported sessions in console requests

A reported session is read as a record whose enumerations are spelled exactly as their
lowercase names, whose times are RFC 3339 texts, and whose raw report is any JSON value.
-/

namespace StreamWarden.Console

/-- The names of some alternatives as a failure message lists them. -/
def alternatives (names : List String) : String :=
  match names with
  | [a] => s!"`{a}`"
  | [a, b] => s!"`{a}` or `{b}`"
  | _ => "one of " ++ ", ".intercalate (names.map fun n => s!"`{n}`")

/-- A member of an enumeration, spelled exactly as its name. -/
def enumOf {α : Type} (members : List α) (name : α → String) (v : Json) : Decode α :=
  match v with
  | .str s => match members.find? (name · == s) with
    | some m => .ok m
    | none => .error s!"unknown variant `{s}`, expected {alternatives (members.map name)}"
  | v => .error (invalidType v "string or map")

/-- A family, spelled exactly. -/
def providerKindOf : Json → Decode ProviderKind := enumOf [.plex, .jellyfin] ProviderKind.name

/-- A playback state, spelled exactly. -/
def playbackStateOf : Json → Decode PlaybackState :=
  enumOf [.playing, .paused, .buffering, .unknown] PlaybackState.name

/-- A media type, spelled exactly. -/
def mediaTypeOf : Json → Decode MediaType := enumOf [.movie, .serie, .music, .other] MediaType.name

/-- A play method, spelled exactly. -/
def playMethodOf : Json → Decode PlayMethod :=
  enumOf [.directPlay, .directStream, .transcode, .unknown] PlayMethod.name

/-- An instant written in RFC 3339 form, as milliseconds. -/
def instantOf (v : Json) : Decode Int :=
  match v with
  | .str s => Time.parseRfc3339? s
  | v => .error (invalidType v "an RFC 3339 formatted date and time string")

/-- The default last sighting of a reported session: 2001-01-01T00:00:00Z. -/
def defaultLastSeen : Int := 978307200000

/-- The type check of one field of a reported session. -/
def normalizedField (k : String) (v : Json) : Decode Unit :=
  if k = "server_id" then ignoring (asI64 v)
  else if k = "provider" then ignoring (providerKindOf v)
  else if k = "session_key" then ignoring (asStr v)
  else if k = "media_type" then ignoring (mediaTypeOf v)
  else if k = "state" then ignoring (playbackStateOf v)
  else if k = "play_method" then ignoring (playMethodOf v)
  else if k = "is_transcode" then ignoring (asBool v)
  else if k = "progress_ms" ∨ k = "duration_ms" ∨ k = "bitrate_kbps" ∨ k = "media_height" then
    ignoring (optional asI64 v)
  else if k = "started_at" then ignoring (optional instantOf v)
  else if k = "last_seen_at" then ignoring (instantOf v)
  else if k = "raw" then pure ()
  else if ["external_user_id", "username", "media_key", "title", "grandparent_title",
      "parent_title", "season_episode", "video_decision", "audio_decision", "video_codec",
      "audio_codec", "client_name", "client_product", "device", "ip",
      "library_section_id"].contains k then ignoring (optional asStr v)
  else pure ()

/-- Reads a reported session; the server defaults to the one given. -/
def decodeNormalized (server : Int) (j : Json) : Decode NormalizedSession := do
  let ms ← asMembers j "struct NormalizedSession"
  checkMembers ms normalizedField
  let s (k : String) := fieldOr ms k none (optional asStr)
  let i (k : String) := fieldOr ms k none (optional asI64)
  pure {
    serverId := ← fieldOr ms "server_id" server asI64
    provider := ← fieldOr ms "provider" .plex providerKindOf
    sessionKey := ← fieldOr ms "session_key" "s" asStr
    externalUserId := ← s "external_user_id"
    username := ← s "username"
    mediaKey := ← s "media_key"
    mediaType := ← fieldOr ms "media_type" .other mediaTypeOf
    title := ← s "title"
    grandparentTitle := ← s "grandparent_title"
    parentTitle := ← s "parent_title"
    seasonEpisode := ← s "season_episode"
    state := ← fieldOr ms "state" .unknown playbackStateOf
    progressMs := ← i "progress_ms"
    durationMs := ← i "duration_ms"
    isTranscode := ← fieldOr ms "is_transcode" false asBool
    playMethod := ← fieldOr ms "play_method" .unknown playMethodOf
    videoDecision := ← s "video_decision"
    audioDecision := ← s "audio_decision"
    bitrateKbps := ← i "bitrate_kbps"
    videoCodec := ← s "video_codec"
    audioCodec := ← s "audio_codec"
    mediaHeight := ← i "media_height"
    clientName := ← s "client_name"
    clientProduct := ← s "client_product"
    device := ← s "device"
    ip := ← s "ip"
    startedAt := ← fieldOr ms "started_at" none (optional instantOf)
    lastSeenAt := ← fieldOr ms "last_seen_at" defaultLastSeen instantOf
    librarySectionId := ← s "library_section_id"
    raw := (ms.lookup "raw").getD .null }

/-- A transition as an answer shows it. -/
def transitionJson (t : Transition) : Json :=
  Json.object [("event_type", .str t.event.name), ("session_key", .str t.sessionKey),
    ("from", .optStr (t.fromState.map (·.name))), ("to", .str t.toState.name)]

end StreamWarden.Console
