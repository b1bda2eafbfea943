import StreamWarden.Console.StoreJson
import StreamWarden.Console.Sessions
import StreamWarden.Store.Users
import StreamWarden.Store.Retention

/-!
# Rehearsals of the monitor

A rehearsal sets a store up from fixture rows and runs a list of steps against it: polls of
scripted servers, enforcement ticks, and direct uses of the store. Each step is answered with
what it returned and the state of the store after it: every server's status, every session
playing (per server, by key), the rows logged since the step before, and the enforcement
summary. Every step happens at the same instant, and times in answers read as offsets from it.

Fixture rows are checked as the store's schema checks them; a row it refuses stops the whole
rehearsal with a `setup` failure.
-/

namespace StreamWarden.Console

/-- The instant of every step of a rehearsal: 2026-01-01T00:00:00Z. -/
def rehearsalNow : Int := 1767225600000

/-- A field that must be present. -/
def requiredField {α : Type} (ms : List (String × Json)) (key : String)
    (read : Json → Decode α) : Decode α :=
  match ms.lookup key with
  | some v => read v
  | none => .error ("missing field " ++ key)

/-- A member that is present and not `null`. -/
def presentMember? (ms : List (String × Json)) (key : String) : Option Json :=
  match ms.lookup key with
  | some .null => none
  | other => other

/-! ### Fixtures -/

/-- A server fixture; its type and status are checked as the schema checks them. -/
def serverFixture (j : Json) : Decode (Except Constraint ServerRow) := do
  let ms ← asMembers j "server"
  let id ← requiredField ms "id" asI64
  let kind ← requiredField ms "type" asStr
  let status ← fieldOr ms "status" "unknown" asStr
  let s (k : String) := fieldOr ms k none (optional asStr)
  let name ← fieldOr ms "name" "" asStr
  let serverIdentifier ← fieldOr ms "server_identifier" "" asStr
  let url ← s "url"
  let localUrl ← s "local_url"
  let publicUrl ← s "public_url"
  let token ← s "token"
  let settingsJson ← s "settings_json"
  let isEnabled ← fieldOr ms "is_enabled" true asBool
  pure <| match [ProviderKind.plex, .jellyfin].find? (·.name == kind),
      [ServerStatus.up, .down, .unknown].find? (·.name == status) with
    | none, _ => .error (.check "type IN ('plex', 'jellyfin')")
    | _, none => .error (.check "status IN ('up', 'down', 'unknown')")
    | some k, some st =>
      .ok { id, name, kind := k, serverIdentifier, url, localUrl, publicUrl, token, settingsJson,
            isEnabled, status := st }

/-- A person fixture. -/
def personFixture (j : Json) : Decode PersonRow := do
  let ms ← asMembers j "vodum user"
  pure { id := ← requiredField ms "id" asI64
         username := ← fieldOr ms "username" none (optional asStr)
         maxStreamsOverride := ← fieldOr ms "max_streams_override" none (optional asI64) }

/-- An account fixture; its server defaults to the first. -/
def accountFixture (j : Json) : Decode AccountRow := do
  let ms ← asMembers j "media user"
  pure { id := ← requiredField ms "id" asI64
         serverId := ← fieldOr ms "server_id" 1 asI64
         vodumUserId := ← fieldOr ms "vodum_user_id" none (optional asI64)
         externalUserId := ← fieldOr ms "external_user_id" none (optional asStr)
         username := ← fieldOr ms "username" none (optional asStr) }

/-- A library fixture: its server, section and name. -/
def libraryFixture (j : Json) : Decode (Int × String × String) := do
  let ms ← asMembers j "library"
  pure (← fieldOr ms "server_id" 1 asI64, ← fieldOr ms "section_id" "1" asStr,
    ← fieldOr ms "name" "Library" asStr)

/-- A policy fixture; its id must be given. -/
def policyFixture (j : Json) : Decode PolicyRow := do
  let ms ← asMembers j "policy"
  let _ ← requiredField ms "id" asI64
  decodePolicyRow j

/-- The fixtures of a rehearsal, in the order the store takes them. -/
structure Fixtures where
  servers : List (Except Constraint ServerRow)
  people : List PersonRow
  accounts : List AccountRow
  libraries : List (Int × String × String)
  policies : List PolicyRow

/-- Reads the fixtures of a request. -/
def decodeFixtures (req : Json) : Decode Fixtures := do
  let rows {α : Type} (key : String) (read : Json → Decode α) : Decode (List α) := do
    match req.get? key with
    | some v => (← asList v).mapM read
    | none => pure []
  pure { servers := ← rows "servers" serverFixture, people := ← rows "vodum_users" personFixture,
         accounts := ← rows "media_users" accountFixture,
         libraries := ← rows "libraries" libraryFixture,
         policies := ← rows "policies" policyFixture }

/-- The store holding the fixtures, or the first constraint one of them breaks. -/
def Fixtures.store (f : Fixtures) : Except Constraint Store := do
  let s ← f.servers.foldlM (fun s row => do s.addServer (← row)) {}
  let s ← f.people.foldlM Store.addPerson s
  let s ← f.accounts.foldlM Store.addAccount s
  let s ← f.libraries.foldlM (fun s (server, sectionId, name) => s.addLibrary server sectionId name) s
  f.policies.foldlM Store.addPolicy s

/-! ### Settings -/

/-- Reads the collector's settings. -/
def decodeCollector (req : Json) : Decode CollectorConfig := do
  match req.get? "collector" with
  | some v =>
    let ms ← asMembers v "collector"
    pure { graceWindowMs := ← fieldOr ms "grace_window_ms" 180000 asI64 }
  | none => pure {}

/-- Reads the enforcer's settings; a rehearsal does not wait before it rechecks. -/
def decodeEnforcer (req : Json) : Decode EnforcerConfig := do
  let ms ← match req.get? "enforcer" with
    | some v => asMembers v "enforcer"
    | none => pure []
  pure { warnCooldownMs := ← fieldOr ms "warn_cooldown_ms" 300000 asI64
         recheckDelayMs := ← fieldOr ms "recheck_delay_ms" 0 asI64
         prekillWindowMs := ← fieldOr ms "prekill_window_ms" 50 asI64
         prekillTickMs := ← fieldOr ms "prekill_tick_ms" 60000 asI64
         prekillToastTimeoutMs := ← fieldOr ms "prekill_toast_timeout_ms" 50000 (asUnsigned 64)
         warnToastTimeoutMs := ← fieldOr ms "warn_toast_timeout_ms" 8000 (asUnsigned 64)
         liveWindowMs := ← fieldOr ms "live_window_ms" 120000 asI64
         providerTimeoutMs := ← fieldOr ms "provider_timeout_ms" 20000 asI64 }

/-! ### Steps -/

/-- A failure a scripted server can be told to give, by name. -/
def scriptedFailure (kind : String) : Option ProviderError :=
  match kind with
  | "unreachable" => some (.unreachable "connect refused")
  | "auth" => some (.auth 401)
  | "forbidden" => some (.auth 403)
  | "server_error" => some (.serverError 502)
  | "protocol" => some (.protocol "bad payload")
  | "config" => some (.config "missing token")
  | _ => none

/-- A failure by name, or the reason it is not one. -/
def failureOf (kind : String) : Decode ProviderError :=
  match scriptedFailure kind with
  | some e => .ok e
  | none => .error ("unknown failure kind " ++ kind)

/-- What a server lists from now on: the failure named, or the sessions given. -/
def decodeScript (serverId : Int) (ms : List (String × Json)) : Decode Script :=
  match presentMember? ms "fail" with
  | some v => do pure (.failure (← failureOf (← asStr v)))
  | none => do
    let xs ← fieldOr ms "sessions" none (optional asList)
    pure (.sessions (← (xs.getD []).mapM (decodeNormalized serverId)))

/-- What a scripted server answers to messages or stops: `ok`, `false`, or a failure. -/
def decodeReply (ms : List (String × Json)) (key : String) : Decode Reply :=
  match presentMember? ms key with
  | none => .ok .done
  | some v => do
    match ← asStr v with
    | "ok" => pure .done
    | "false" => pure .refused
    | kind => pure (.failure (← failureOf kind))

/-- A step of a rehearsal. -/
inductive Step where
  /-- Polls one server after setting what it lists. -/
  | poll (serverId : Int) (script : Script)
  /-- Polls every enabled server after setting what some of them list. -/
  | pollAll (scripts : List (Int × Script))
  /-- Runs one enforcement pass with the servers answering as given. -/
  | tick (message terminate : Reply) (clearOnMessage : Option String) (cancelled : Bool)
  /-- Stores a reported session directly. -/
  | upsert (serverId : Int) (session : NormalizedSession) (account : Option Int)
  /-- Finishes a session directly. -/
  | finalize (serverId : Int) (provider : ProviderKind) (sessionKey : String)
  /-- Moves every live session and warning into the past. -/
  | age (ms : Int)
  /-- Changes or deletes the global switches. -/
  | settings (enforcement : Option Bool) (retentionYears : Option Int) (delete : Bool)
  /-- Finds the account of a server's user. -/
  | resolveUser (serverId : Int) (externalUserId username : Option String)
  /-- Lists the stream limits of people. -/
  | overrides
  /-- Lists the sessions seen recently. -/
  | liveView (sinceMsAgo : Option Int)
  /-- Looks up the last warning of an actor. -/
  | lastWarned (policyId serverId : Int) (actorKey : String)
  /-- Purges old rows, at an instant shifted from now. -/
  | retention (offsetMs : Int)

/-- Reads a server id written as an object key. -/
def serverKey (k : String) : Decode Int :=
  match k.toInt? with
  | some i => .ok i
  | none => .error ("invalid server id " ++ k)

/-- Reads a step. -/
def decodeStep (j : Json) : Decode Step := do
  let ms ← asMembers j "step"
  let kind ← requiredField ms "do" asStr
  let server ← fieldOr ms "server_id" 1 asI64
  match kind with
  | "poll" => pure (.poll server (← decodeScript server ms))
  | "poll_all" =>
    let polls ← fieldOr ms "polls" [] (asMembers · "polls")
    let scripts ← polls.mapM fun (k, v) => do
      let id ← serverKey k
      pure (id, ← decodeScript id (← asMembers v "poll"))
    pure (.pollAll scripts)
  | "tick" =>
    pure (.tick (← decodeReply ms "message") (← decodeReply ms "terminate")
      (← fieldOr ms "clear_on_message" none (optional asStr))
      (← fieldOr ms "cancelled" false asBool))
  | "upsert" =>
    pure (.upsert server (← requiredField ms "session" (decodeNormalized server))
      (← fieldOr ms "media_user_id" none (optional asI64)))
  | "finalize" =>
    pure (.finalize server (← fieldOr ms "provider" .plex providerKindOf)
      (← requiredField ms "session_key" asStr))
  | "age" => pure (.age (← requiredField ms "ms" asI64))
  | "settings" =>
    pure (.settings (← fieldOr ms "enforcement_enabled" none (optional asBool))
      (← fieldOr ms "data_retention_years" none (optional asI64))
      (← fieldOr ms "delete" false asBool))
  | "resolve_user" =>
    pure (.resolveUser server (← fieldOr ms "external_user_id" none (optional asStr))
      (← fieldOr ms "username" none (optional asStr)))
  | "overrides" => pure .overrides
  | "live_view" => pure (.liveView (← fieldOr ms "since_ms_ago" none (optional asI64)))
  | "last_warned" =>
    pure (.lastWarned (← requiredField ms "policy_id" asI64) server
      (← requiredField ms "actor_key" asStr))
  | "retention" => pure (.retention (← fieldOr ms "now_offset_ms" 0 asI64))
  | other => .error ("unknown step " ++ other)

/-- The global switches after a change: deleting drops them; a change applies only to switches
that are stored, and a negative retention breaks the schema's check. -/
def changeSettings (s : Store) (enforcement : Option Bool) (years : Option Int) (delete : Bool) :
    Except AppError Store :=
  if delete then .ok { s with settings := none }
  else match s.settings with
    | none => .ok s
    | some cur =>
      if years.any (fun y => decide (y < 0)) then
        .error (Constraint.check "data_retention_years >= 0").toAppError
      else .ok { s with settings := some { cur with
        enforcementEnabled := enforcement.getD cur.enforcementEnabled
        dataRetentionYears := years.getD cur.dataRetentionYears } }

/-- Applies a change of the store, answering the failure or the given answer. -/
def storeChange (change : Except AppError Store) (answer : Store → Json) : Rehearsal Json :=
  match change with
  | .ok s => do set s; pure (answer s)
  | .error e => pure (appErrorJson e)

/-- Runs one step at the time of the rehearsal's clock, answering what it returned. -/
def runStep (collector : CollectorConfig) (enforcer : EnforcerConfig) (step : Step) :
    Rehearsal Json := do
  let now ← rehearsalClock
  match step with
  | .poll serverId script => do
    modifyThe Stage (·.setScript serverId script)
    match (← get).getServer serverId with
    | .error e => pure (appErrorJson e)
    | .ok server =>
      match ← collectServer scriptedFactory collector server now with
      | .ok o => pure (Json.object [("outcome", outcomeJson o)])
      | .error e => pure (appErrorJson e)
  | .pollAll scripts => do
    scripts.forM fun (id, script) => modifyThe Stage (·.setScript id script)
    let report ← collectAll scriptedFactory collector rehearsalClock
    pure (Json.object [("report", collectReportJson report)])
  | .tick message terminate clear cancelled => do
    modifyThe Stage fun st => { st with messageReply := message, terminateReply := terminate,
                                        clearOnMessage := clear, calls := [], cancelled }
    let report ← runTick rehearsalWorld scriptedFactory enforcer
    let calls := (← getThe Stage).calls
    pure (Json.object [("report", tickReportJson report), ("calls", .arr (calls.map callJson))])
  | .upsert _ x account => do
    storeChange ((← get).upsertLive x account now) fun _ => Json.object []
  | .finalize serverId provider key => do
    match (← get).finalize serverId provider key now with
    | .ok (done, s) => set s; pure (Json.object [("finalized", finalizedJson done)])
    | .error e => pure (appErrorJson e)
  | .age ms => do
    modify (·.age ms)
    pure (Json.object [])
  | .settings enforcement years delete => do
    storeChange (changeSettings (← get) enforcement years delete) fun s =>
      Json.object [("settings", settingsJson s.currentSettings)]
  | .resolveUser serverId external name => do
    pure (Json.object [("media_user_id", .optInt ((← get).resolveAccount serverId external name))])
  | .overrides => do
    pure (Json.object [("overrides",
      .arr ((← get).streamOverrides.map fun (p, n) => .arr [.int p, .int n]))])
  | .liveView since => do
    let cutoff := clampI64 (now - since.getD enforcer.liveWindowMs)
    pure (Json.object [("live_view", .arr (((← get).liveView cutoff).map liveSessionJson))])
  | .lastWarned policyId serverId actor => do
    pure (Json.object [("last_warned_at", .optInt ((← get).lastWarnedAt policyId serverId actor))])
  | .retention offset => do
    let (report, s) := (← get).runRetention (now + offset)
    set s
    pure (Json.object [("purged", purgeJson report)])

/-! ### The state after each step -/

/-- The highest ids of logged rows that answers have shown. -/
structure Shown where
  events : Nat := 0
  history : Nat := 0
  enforcements : Nat := 0

/-- The live sessions of a server, by key. -/
def liveByKey (s : Store) (serverId : Int) : List LiveRow :=
  (s.live.filter (·.serverId == serverId)).mergeSort fun a b => !(b.sessionKey < a.sessionKey)

/-- The state of the store as an answer shows it, with the logged rows not shown before. -/
def stateJson (s : Store) (shown : Shown) : Json × Shown :=
  let events := s.events.filter (·.id > shown.events)
  let history := s.history.filter (·.id > shown.history)
  let enforcements := s.enforcements.filter (·.id > shown.enforcements)
  let top (ids : List Nat) (seen : Nat) := ids.foldl Nat.max seen
  let json := Json.object [
    ("servers", .arr (s.servers.map fun r => Json.object [("id", .int r.id),
      ("status", .str r.status.name), ("last_checked", .optInt r.lastChecked)])),
    ("live", .arr (s.servers.flatMap fun r => (liveByKey s r.id).map liveRowJson)),
    ("new_events", .arr (events.map eventRowJson)),
    ("new_history", .arr (history.map historyRowJson)),
    ("new_enforcements", .arr (enforcements.map enforcementRowJson)),
    ("enforcement_states", .arr ((s.states.mergeSort fun a b => a.id ≤ b.id).map
      enforcementStateJson))]
  (json, { events := top (events.map (·.id)) shown.events
           history := top (history.map (·.id)) shown.history
           enforcements := top (enforcements.map (·.id)) shown.enforcements })

/-- Runs the steps in order, answering each with its result and the state after it, its times
relative to the clock after it. -/
def runSteps (collector : CollectorConfig) (enforcer : EnforcerConfig) :
    List Step → Store → Stage → Shown → List Json
  | [], _, _, _ => []
  | step :: rest, s, stage, shown =>
    let ((result, s'), stage') := ((runStep collector enforcer step).run s).run stage
    let (state, shown') := stateJson s' shown
    relativeTimes stage'.clock (Json.object [("result", result), ("state", state)]) ::
      runSteps collector enforcer rest s' stage' shown'

/-- Answers a rehearsal: the answers of its steps, or the fixture the store refused. -/
def answerScenario (req : Json) : Answer := do
  let fixtures ← decodeFixtures req
  let collector ← decodeCollector req
  let enforcer ← decodeEnforcer req
  let steps ← match req.get? "steps" with
    | some v => (← asList v).mapM decodeStep
    | none => pure []
  match fixtures.store with
  | .error c => pure (errorJson "setup" c.report)
  | .ok s =>
    pure (Json.object [("steps", .arr (runSteps collector enforcer steps s { clock := rehearsalNow } {}))])

end StreamWarden.Console
