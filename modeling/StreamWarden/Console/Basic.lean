import StreamWarden.Console.Sessions
import StreamWarden.Net.Address
import StreamWarden.AppConfig
import StreamWarden.Schedule.Backoff
import StreamWarden.Store.Retention
import StreamWarden.Media.Jellyfin.SessionId
import StreamWarden.Media.Jellyfin.ItemCache

/-!
# Console operations on single values

Each operation reads its request object and answers with a JSON object. The operations here
reach one part of the library each: addresses, actor keys, episode labels, names of
enumerations, rule settings, policies, evaluation, selection, poll differences, server
settings, failures of media servers, process configuration, backoff, retention, instants and
the item cache.
-/

namespace StreamWarden.Console

/-- An answer: a JSON object, or a failure message of the request itself. -/
abbrev Answer := Decode Json

/-- A text member of a request, when it is a string. -/
def strMember? (req : Json) (key : String) : Option String := (req.get? key).bind Json.str?

/-- An integer member of a request, when it is a 64-bit integer. -/
def intMember? (req : Json) (key : String) : Option Int := (req.get? key).bind Json.i64?

/-- A list member of a request; absent is empty. -/
def listMember (req : Json) (key : String) : Decode (List Json) :=
  match member? req key with
  | some v => asList v
  | none => pure []

/-- Whether an address is local, and how it is counted. -/
def answerIp (req : Json) : Answer :=
  let ip := strMember? req "ip"
  pure (Json.object [("is_local", .bool (Net.isLocalIp (ip.getD ""))),
    ("normalized", .str (Net.normalizeIp ip))])

/-- The actor key of a user. -/
def answerActorKey (req : Json) : Answer :=
  pure (Json.object [("actor_key",
    .str (userActorKey (intMember? req "vodum_user_id") ((strMember? req "external_user_id").getD "")))])

/-- The label of an episode. -/
def answerSeasonEpisode (req : Json) : Answer :=
  pure (Json.object [("code",
    .optStr (seasonEpisodeCode (intMember? req "season") (intMember? req "episode")))])

/-- The failure of reading an unknown enumeration member. -/
def parseFailure : Json := errorJson "ParseError" "Matching variant not found"

/-- Reads a member of a named enumeration. -/
def answerParseEnum (req : Json) : Answer := do
  let value := (strMember? req "value").getD ""
  let parsed (name? : Option String) : Json :=
    match name? with
    | some n => Json.object [("parsed", .str n)]
    | none => parseFailure
  match strMember? req "enum" with
  | some "playback_state" => pure (parsed ((PlaybackState.parse? value).map (·.name)))
  | some "provider_kind" => pure (parsed ((ProviderKind.parse? value).map (·.name)))
  | some "media_type" => pure (parsed ((MediaType.parse? value).map (·.name)))
  | some "play_method" => pure (parsed ((PlayMethod.parse? value).map (·.name)))
  | some "policy_scope" => pure (parsed ((PolicyScope.parse? value).map (·.name)))
  | some "rule_type" => pure (parsed ((RuleType.parse? value).map (·.name)))
  | some "selector" => pure (parsed ((Selector.parse? value).map (·.name)))
  | some "playback_state_lenient" => pure (parsed (some (PlaybackState.parseLenient value).name))
  | some "selector_lenient" => pure (parsed (some (Selector.parseLenient value).name))
  | some e => throw s!"unknown enum {e}"
  | none => throw "missing enum"

/-- The default limit of a rule. -/
def answerRuleDefaultMax (req : Json) : Answer :=
  match RuleType.parse? ((strMember? req "rule").getD "") with
  | some r => pure (Json.object [("default_max", .int r.defaultMax)])
  | none => pure parseFailure

/-- Rule settings read from a text or from a value. -/
def answerRuleOptions (req : Json) : Answer :=
  let options := match req.get? "raw" with
    | some (.str raw) => RuleOptions.ofText raw
    | _ => RuleOptions.ofJson ((req.get? "value").getD .null)
  pure (Json.object [("options", ruleOptionsJson options)])

/-- The policy of a request, read as a stored row. -/
def requestPolicy (req : Json) : Decode PolicyRow :=
  within "policy" (decodePolicyRow ((req.get? "policy").getD (.obj [])))

/-- The live sessions of a request. -/
def requestSessions (req : Json) : Decode (List LiveSession) := do
  let xs ← listMember req "sessions"
  within "session" (eachOf decodeLiveSession xs)

/-- A stored policy made ready. -/
def answerPolicyParse (req : Json) : Answer := do
  let row ← requestPolicy req
  match Policy.ofRow row with
  | .ok p => pure (Json.object [("policy", policyJson p)])
  | .error e => pure (appErrorJson e)

/-- Which sessions a policy applies to. -/
def answerAppliesTo (req : Json) : Answer := do
  let row ← requestPolicy req
  let sessions ← requestSessions req
  match Policy.ofRow row with
  | .ok p => pure (Json.object [("applies", .arr (sessions.map fun s => .bool (p.appliesTo s)))])
  | .error e => pure (appErrorJson e)

/-- The overrides of a request: pairs of a monitor user and a limit. -/
def requestOverrides (req : Json) : Decode Overrides := do
  let xs ← listMember req "overrides"
  xs.mapM fun
    | .arr [a, b] => do
      let a ← asI64 a
      let b ← asI64 b
      pure (a, b)
    | _ => throw "override pair"

/-- The violations of several policies; policies that cannot be read are listed apart. -/
def answerEvaluate (req : Json) : Answer := do
  let rowsJson ← listMember req "policies"
  let rows ← within "policy" (eachOf decodePolicyRow rowsJson)
  let sessions ← requestSessions req
  let overrides ← requestOverrides req
  let parsed := rows.map fun r => (r, Policy.ofRow r)
  let policies := parsed.filterMap fun (_, p) => match p with
    | .ok p => some p
    | .error _ => none
  let errors := parsed.filterMap fun (r, p) => match p with
    | .ok _ => none
    | .error e => some (Json.object [("policy_id", .int r.id), ("error", .str e.kindName),
        ("message", .str e.message)])
  pure (Json.object [
    ("violations", .arr ((evaluateAll policies sessions overrides).map violationJson)),
    ("policy_errors", .arr errors)])

/-- The session a selector chooses. -/
def answerSelect (req : Json) : Answer := do
  let sessions ← requestSessions req
  let selector := Selector.parseLenient ((strMember? req "selector").getD "")
  let target := match selectTarget sessions selector with
    | some t => Json.object [("server_id", .int t.serverId), ("session_key", .str t.sessionKey)]
    | none => .null
  pure (Json.object [("selector", .str selector.name), ("target", target)])

/-- The differences between two polls. -/
def answerDiff (req : Json) : Answer := do
  let prevJson ← listMember req "previous"
  let previous ← prevJson.mapM fun
    | .arr [.str k, .str s] => pure (k, PlaybackState.parseLenient s)
    | _ => throw "previous entry"
  let currentJson ← listMember req "current"
  let current ← within "normalized session" (eachOf (decodeNormalized 1) currentJson)
  let newMap := sessionMap current
  pure (Json.object [
    ("events", .arr ((transitions previous newMap).map transitionJson)),
    ("new_map", .arr (newMap.map fun (k, s) => Json.object [("session_key", .str k),
      ("state", .str s.state.name), ("title", .optStr s.title)])),
    ("vanished", .arr ((vanishedKeys previous newMap).map .str))])

/-- A result that is a value or a failure of a media server. -/
def providerResultJson {α : Type} (ok : α → Json) : Except ProviderError α → Json
  | .ok v => Json.object [("ok", ok v)]
  | .error e => providerErrorJson e

/-- The usable bases and token of server settings. -/
def answerServerBases (req : Json) : Answer := do
  let config ← within "server" (decodeServerConfig ((req.get? "server").getD (.obj [])))
  pure (Json.object [
    ("candidate_bases", .arr (config.candidateBases.map .str)),
    ("require_bases", providerResultJson (fun bs => .arr (bs.map .str)) config.requireBases),
    ("require_token", providerResultJson .str config.requireToken)])

/-- What a failure says about its server's status: down when unreachable, else unknown. -/
def failureStatus (e : ProviderError) : String :=
  if e.classify == .unreachable then "down" else "unknown"

/-- A failure of a media server with the status it implies. -/
def mappedJson (e : ProviderError) : Json :=
  match providerErrorJson e with
  | .obj ms => .obj (Json.insertMember "status_for_failure" (.str (failureStatus e)) ms)
  | j => j

/-- The failure an HTTP status or a named kind stands for. -/
def answerProviderError (req : Json) : Answer := do
  match req.get? "status" with
  | some (.num n) =>
    let code ← match n.asI64? with
      | some c => if 0 ≤ c ∧ c ≤ 65535 then pure c.toNat else throw "status out of range"
      | none => throw "status out of range"
    if code < 100 ∨ code > 999 then pure (errorJson "InvalidStatusCode" "invalid status code")
    else pure (Json.object [("mapped", match ProviderError.ofStatus code with
      | some e => mappedJson e
      | none => .null)])
  | _ =>
    let message := (strMember? req "message").getD ""
    let code := ((intMember? req "code").getD 0).toNat
    let e ← match strMember? req "kind" with
      | some "unreachable" => pure (ProviderError.unreachable message)
      | some "protocol" => pure (ProviderError.protocol message)
      | some "config" => pure (ProviderError.config message)
      | some "auth" => pure (ProviderError.auth code)
      | some "server_error" => pure (ProviderError.serverError code)
      | some k => throw s!"unknown kind {k}"
      | none => throw "missing kind"
    pure (Json.object [("mapped", mappedJson e)])

/-- The process configuration read from given variables. -/
def answerConfig (req : Json) : Answer :=
  let env := (req.get? "env").getD (.obj [])
  match AppConfig.ofLookup (fun k => (env.get? k).bind Json.str?) with
  | .ok c => pure (Json.object [
      ("database_url", .str c.databaseUrl), ("log_dir", .str c.logDir),
      ("collect_interval_secs", .int c.collectIntervalSecs),
      ("enforce_interval_secs", .int c.enforceIntervalSecs),
      ("max_backoff_secs", .num (.nat c.maxBackoffSecs)),
      ("provider_timeout_secs", .int c.providerTimeoutSecs),
      ("max_concurrent_collections", .int c.maxConcurrentCollections)])
  | .error e => pure (appErrorJson e)

/-- A natural member of a request object, zero when absent. -/
def natMember (req : Json) (key : String) : Nat :=
  match req.get? key with
  | some (.num (.nat n)) => n
  | _ => 0

/-- Runs backoff operations on a fresh tracker. -/
def answerBackoff (req : Json) : Answer := do
  let ops ← listMember req "ops"
  let start := BackoffTracker.create (natMember req "base_ms") (natMember req "max_ms")
  let step (acc : BackoffTracker × List Json) (op : Json) : Decode (BackoffTracker × List Json) :=
    let (t, out) := acc
    let server := (intMember? op "server_id").getD 1
    let at_ := (intMember? op "at_ms").getD 0
    match strMember? op "op" with
    | some "delay_for" => pure (t, out ++ [Json.object [("delay_ms", .int (t.delayFor (natMember op "failures")))]])
    | some "record_failure" =>
      let (d, t') := t.recordFailure server at_
      pure (t', out ++ [Json.object [("delay_ms", .int d)]])
    | some "record_success" => pure (t.recordSuccess server, out ++ [Json.object []])
    | some "is_due" => pure (t, out ++ [Json.object [("due", .bool (t.isDue server at_))]])
    | some "failures" => pure (t, out ++ [Json.object [("failures", .int (t.failures server))]])
    | some o => throw s!"unknown backoff op {o}"
    | none => throw "missing backoff op"
  let (_, results) ← ops.foldlM step (start, [])
  pure (Json.object [("results", .arr results)])

/-- The retention cutoff. -/
def answerRetentionCutoff (req : Json) : Answer :=
  pure (Json.object [("cutoff_ms", .optInt (retentionCutoff ((intMember? req "years").getD 0)
    ((intMember? req "now_ms").getD 0)))])

/-- Instants and durations. -/
def answerTime (req : Json) : Answer :=
  let instant := match intMember? req "ms" with
    | some ms => [("datetime", Json.str (Time.rfc3339Millis ms)), ("back_to_ms", .int (Time.clampMs ms))]
    | none => []
  let duration := match req.get? "duration_secs" with
    | some (.num (.nat secs)) => [("duration_ms", Json.int (Time.durationMs secs (natMember req "duration_nanos")))]
    | _ => []
  pure (Json.object (instant ++ duration))

/-- The session ids of a Jellyfin session key. -/
def answerJellyfinIds (req : Json) : Answer :=
  let key := (strMember? req "session_key").getD ""
  let raw := (req.get? "raw").getD .null
  pure (Json.object [("session_id_from_key", .str (Jellyfin.sessionIdFromKey key)),
    ("control_session_id", .str (Jellyfin.controlSessionId key raw))])

/-- The size of an item cache. -/
def cacheLen (c : Jellyfin.ItemCache) : Json := Json.object [("len", .int c.size)]

/-- Runs item cache operations on a fresh cache. -/
def answerItemCache (req : Json) : Answer := do
  let ops ← listMember req "ops"
  let step (acc : Jellyfin.ItemCache × List Json) (op : Json) :
      Decode (Jellyfin.ItemCache × List Json) :=
    let (c, out) := acc
    let server := (intMember? op "server_id").getD 1
    let item := (strMember? op "item_id").getD "item"
    match strMember? op "op" with
    | some "insert" =>
      let c' := c.insert server item ⟨strMember? op "title", strMember? op "item_type"⟩
      pure (c', out ++ [cacheLen c'])
    | some "fill" =>
      let c' := (List.range (natMember op "count")).foldl
        (fun c i => c.insert server s!"{item}-{i}" {}) c
      pure (c', out ++ [cacheLen c'])
    | some "get" =>
      let found := match c.get? server item with
        | some s => Json.object [("title", .optStr s.title), ("item_type", .optStr s.itemType)]
        | none => .null
      pure (c, out ++ [Json.object [("found", found)]])
    | some "len" => pure (c, out ++ [Json.object [("len", .int c.size), ("is_empty", .bool (c.size == 0))]])
    | some o => throw s!"unknown cache op {o}"
    | none => throw "missing cache op"
  let (_, results) ← ops.foldlM step ({}, [])
  pure (Json.object [("results", .arr results)])

end StreamWarden.Console
