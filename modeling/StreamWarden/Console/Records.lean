import StreamWarden.Console.Fields
import StreamWarden.Enforce.Evaluate
import StreamWarden.Media.Server
import StreamWarden.Json.Writer

/-!
# Records in console requests and answers

Policies, live sessions and server settings are read from request objects; policies, rule
settings, violations and failures of media servers are written into answers. A record is read
field by field in the key order of its object, so the first field (in that order) of the wrong
type is the one reported; keys that name no field are ignored.
-/

namespace StreamWarden.Console

/-- Runs a check on each member that names a field, in key order. -/
def checkMembers (ms : List (String × Json)) (check : String → Json → Decode Unit) : Decode Unit :=
  ms.forM fun (k, v) => check k v

/-- A field of a record, or its default when the key is absent. -/
def fieldOr {α : Type} (ms : List (String × Json)) (key : String) (dflt : α)
    (read : Json → Decode α) : Decode α :=
  match ms.lookup key with
  | some v => read v
  | none => pure dflt

/-- Discards the value of a reading. -/
def ignoring {α : Type} (d : Decode α) : Decode Unit := d.map fun _ => ()

/-! ### Live sessions -/

/-- The type check of one field of a live session. -/
def liveSessionField (k : String) (v : Json) : Decode Unit :=
  if k = "server_id" ∨ k = "started_at" ∨ k = "last_seen_at" then ignoring (asI64 v)
  else if k = "provider" ∨ k = "session_key" then ignoring (asStr v)
  else if k = "media_user_id" ∨ k = "vodum_user_id" ∨ k = "bitrate_kbps" ∨ k = "media_height" then
    ignoring (optional asI64 v)
  else if k = "external_user_id" ∨ k = "username" ∨ k = "title" ∨ k = "ip" ∨ k = "device" ∨
      k = "client_name" ∨ k = "client_product" ∨ k = "raw_json" then ignoring (optional asStr v)
  else if k = "is_transcode" then ignoring (asBool v)
  else pure ()

/-- Reads a live session; absent fields take their defaults. -/
def decodeLiveSession (j : Json) : Decode LiveSession := do
  let ms ← asMembers j "struct LiveSessionView"
  checkMembers ms liveSessionField
  let d : LiveSession := {}
  pure {
    serverId := ← fieldOr ms "server_id" d.serverId asI64
    provider := ← fieldOr ms "provider" d.provider asStr
    sessionKey := ← fieldOr ms "session_key" d.sessionKey asStr
    mediaUserId := ← fieldOr ms "media_user_id" none (optional asI64)
    vodumUserId := ← fieldOr ms "vodum_user_id" none (optional asI64)
    externalUserId := ← fieldOr ms "external_user_id" none (optional asStr)
    username := ← fieldOr ms "username" none (optional asStr)
    title := ← fieldOr ms "title" none (optional asStr)
    ip := ← fieldOr ms "ip" none (optional asStr)
    device := ← fieldOr ms "device" none (optional asStr)
    clientName := ← fieldOr ms "client_name" none (optional asStr)
    clientProduct := ← fieldOr ms "client_product" none (optional asStr)
    isTranscode := ← fieldOr ms "is_transcode" d.isTranscode asBool
    bitrateKbps := ← fieldOr ms "bitrate_kbps" none (optional asI64)
    mediaHeight := ← fieldOr ms "media_height" none (optional asI64)
    startedAt := ← fieldOr ms "started_at" d.startedAt asI64
    lastSeenAt := ← fieldOr ms "last_seen_at" d.lastSeenAt asI64
    rawJson := ← fieldOr ms "raw_json" none (optional asStr) }

/-- A live session as an answer shows it. -/
def liveSessionJson (s : LiveSession) : Json :=
  Json.object [
    ("server_id", .int s.serverId), ("provider", .str s.provider),
    ("session_key", .str s.sessionKey), ("media_user_id", .optInt s.mediaUserId),
    ("vodum_user_id", .optInt s.vodumUserId), ("external_user_id", .optStr s.externalUserId),
    ("username", .optStr s.username), ("title", .optStr s.title), ("ip", .optStr s.ip),
    ("device", .optStr s.device), ("client_name", .optStr s.clientName),
    ("client_product", .optStr s.clientProduct), ("is_transcode", .bool s.isTranscode),
    ("bitrate_kbps", .optInt s.bitrateKbps), ("media_height", .optInt s.mediaHeight),
    ("started_at", .int s.startedAt), ("last_seen_at", .int s.lastSeenAt),
    ("raw_json", .optStr s.rawJson)]

/-! ### Policies -/

/-- The type check of one field of a policy row. -/
def policyRowField (k : String) (v : Json) : Decode Unit :=
  if k = "id" ∨ k = "priority" then ignoring (asI64 v)
  else if k = "scope_type" ∨ k = "rule_type" ∨ k = "rule_value_json" then ignoring (asStr v)
  else if k = "scope_id" ∨ k = "server_id" then ignoring (optional asI64 v)
  else if k = "provider" then ignoring (optional asStr v)
  else if k = "is_enabled" then ignoring (asBool v)
  else pure ()

/-- Reads a policy row; absent fields take their defaults. -/
def decodePolicyRow (j : Json) : Decode PolicyRow := do
  let ms ← asMembers j "struct StreamPolicyDbModel"
  checkMembers ms policyRowField
  let d : PolicyRow := {}
  pure {
    id := ← fieldOr ms "id" d.id asI64
    scopeType := ← fieldOr ms "scope_type" d.scopeType asStr
    scopeId := ← fieldOr ms "scope_id" none (optional asI64)
    provider := ← fieldOr ms "provider" none (optional asStr)
    serverId := ← fieldOr ms "server_id" none (optional asI64)
    isEnabled := ← fieldOr ms "is_enabled" d.isEnabled asBool
    priority := ← fieldOr ms "priority" d.priority asI64
    ruleType := ← fieldOr ms "rule_type" d.ruleType asStr
    ruleValueJson := ← fieldOr ms "rule_value_json" d.ruleValueJson asStr }

/-- Rule settings as an answer shows them. -/
def ruleOptionsJson (o : RuleOptions) : Json :=
  Json.object [
    ("max", .optInt o.max), ("max_kbps", .int o.maxKbps), ("per_server", .bool o.perServer),
    ("ignore_unknown", .bool o.ignoreUnknown), ("allow_local_ip", .bool o.allowLocalIp),
    ("allowed", .arr (o.allowed.map .str)), ("selector", .str o.selector.name),
    ("warn_title", .str o.warnTitle), ("warn_text", .str o.warnText)]

/-- A policy as an answer shows it. -/
def policyJson (p : Policy) : Json :=
  Json.object [
    ("id", .int p.id), ("priority", .int p.priority), ("scope", .str p.scope.name),
    ("scope_id", .optInt p.scopeId), ("provider", .optStr (p.provider.map (·.name))),
    ("server_id", .optInt p.serverId), ("rule", .str p.rule.name),
    ("is_global", .bool p.isGlobal), ("max", .int p.max), ("options", ruleOptionsJson p.options)]

/-- A violation as an answer shows it. -/
def violationJson (v : Violation) : Json :=
  Json.object [
    ("policy_id", .int v.policyId), ("kind", .str v.kind.name), ("server_id", .int v.serverId),
    ("provider", .str v.provider), ("actor_key", .str v.actorKey),
    ("vodum_user_id", .optInt v.vodumUserId), ("external_user_id", .optStr v.externalUserId),
    ("sessions", .arr (v.sessions.map liveSessionJson)), ("reason", .str v.reason),
    ("selector", .str v.selector.name), ("warn_title", .str v.warnTitle),
    ("warn_text", .str v.warnText), ("kill_reason", .str v.killReason)]

/-! ### Failures -/

/-- A failure of the whole operation. -/
def errorJson (kind message : String) : Json :=
  Json.object [("error", .str kind), ("message", .str message)]

/-- A failure of the monitor as an answer shows it. -/
def appErrorJson (e : AppError) : Json := errorJson e.kindName e.message

/-- A failure of a media server given as data. -/
def providerErrorJson (e : ProviderError) : Json :=
  Json.object [
    ("error", .str e.kindName), ("message", .str e.message),
    ("classify", .str e.classify.name), ("should_try_next_base", .bool e.shouldTryNextBase)]

/-! ### Server settings -/

/-- The type check of one field of server settings. -/
def serverConfigField (k : String) (v : Json) : Decode Unit :=
  if k = "id" then ignoring (asI64 v)
  else if k = "name" ∨ k = "server_identifier" then ignoring (asStr v)
  else if k = "url" ∨ k = "local_url" ∨ k = "public_url" ∨ k = "token" ∨ k = "settings_json" then
    ignoring (optional asStr v)
  else if k = "provider" then ignoring (providerKind v)
  else pure ()
where
  /-- A family name, exactly as written. -/
  providerKind (v : Json) : Decode ProviderKind :=
    match v with
    | .str "plex" => .ok .plex
    | .str "jellyfin" => .ok .jellyfin
    | .str s => .error s!"unknown variant `{s}`, expected `plex` or `jellyfin`"
    | v => .error (invalidType v "string or map")

/-- Reads server settings; absent fields take their defaults. -/
def decodeServerConfig (j : Json) : Decode ServerConfig := do
  let ms ← asMembers j "struct ServerConfig"
  checkMembers ms serverConfigField
  let d : ServerConfig := {}
  pure {
    id := ← fieldOr ms "id" d.id asI64
    provider := ← fieldOr ms "provider" d.provider serverConfigField.providerKind
    name := ← fieldOr ms "name" d.name asStr
    url := ← fieldOr ms "url" none (optional asStr)
    localUrl := ← fieldOr ms "local_url" none (optional asStr)
    publicUrl := ← fieldOr ms "public_url" none (optional asStr)
    token := ← fieldOr ms "token" none (optional asStr)
    serverIdentifier := ← fieldOr ms "server_identifier" d.serverIdentifier asStr
    settingsJson := ← fieldOr ms "settings_json" none (optional asStr) }

end StreamWarden.Console
